/-
  BcuSdk.Eibd.ApduService

  The service code of a decoded APDU.

  `APDU::fromPacket` picks a class by the 10-bit service code and each `init`
  makes an APDU of its own class, so the class of what was decoded says what
  the code was.
-/
import BcuSdk.Eibd.Apdu

namespace BcuSdk.Eibd

open BcuSdk.Lib

/-- The code in the first two bytes of an APDU of this class: the bits 0 and 1 of the first byte
    and the bits 6 and 7 of the second, or all of the second if the service has no field there. -/
def APDU.HasServiceCode (c0 c1 : Byte) : APDU → Prop
  | .aUnknown _ => True
  | .aGroupValueRead => c0 &&& 0x03#8 = 0#8 ∧ c1 &&& 0xC0#8 = 0x00#8
  | .aGroupValueResponse _ _ => c0 &&& 0x03#8 = 0#8 ∧ c1 &&& 0xC0#8 = 0x40#8
  | .aGroupValueWrite _ _ => c0 &&& 0x03#8 = 0#8 ∧ c1 &&& 0xC0#8 = 0x80#8
  | .aIndividualAddressWrite _ => c0 &&& 0x03#8 = 0#8 ∧ c1 &&& 0xC0#8 = 0xC0#8
  | .aIndividualAddressRead => c0 &&& 0x03#8 = 1#8 ∧ c1 &&& 0xC0#8 = 0x00#8
  | .aIndividualAddressResponse => c0 &&& 0x03#8 = 1#8 ∧ c1 &&& 0xC0#8 = 0x40#8
  | .aADCRead _ _ => c0 &&& 0x03#8 = 1#8 ∧ c1 &&& 0xC0#8 = 0x80#8
  | .aADCResponse _ _ _ => c0 &&& 0x03#8 = 1#8 ∧ c1 &&& 0xC0#8 = 0xC0#8
  | .aMemoryRead _ _ => c0 &&& 0x03#8 = 2#8 ∧ c1 &&& 0xC0#8 = 0x00#8
  | .aMemoryResponse _ _ _ => c0 &&& 0x03#8 = 2#8 ∧ c1 &&& 0xC0#8 = 0x40#8
  | .aMemoryWrite _ _ _ => c0 &&& 0x03#8 = 2#8 ∧ c1 &&& 0xC0#8 = 0x80#8
  | .aUserMemoryRead _ _ _ => c0 &&& 0x03#8 = 2#8 ∧ c1 = 0xC0#8
  | .aUserMemoryResponse _ _ _ _ => c0 &&& 0x03#8 = 2#8 ∧ c1 = 0xC1#8
  | .aUserMemoryWrite _ _ _ _ => c0 &&& 0x03#8 = 2#8 ∧ c1 = 0xC2#8
  | .aUserMemoryBitWrite _ _ _ _ _ => c0 &&& 0x03#8 = 2#8 ∧ c1 = 0xC4#8
  | .aUserManufacturerInfoRead => c0 &&& 0x03#8 = 2#8 ∧ c1 = 0xC5#8
  | .aUserManufacturerInfoResponse _ _ => c0 &&& 0x03#8 = 2#8 ∧ c1 = 0xC6#8
  | .aDeviceDescriptorRead _ => c0 &&& 0x03#8 = 3#8 ∧ c1 &&& 0xC0#8 = 0x00#8
  | .aDeviceDescriptorResponse _ _ => c0 &&& 0x03#8 = 3#8 ∧ c1 &&& 0xC0#8 = 0x40#8
  | .aRestart => c0 &&& 0x03#8 = 3#8 ∧ c1 &&& 0xC0#8 = 0x80#8
  | .aMemoryBitWrite _ _ _ _ => c0 &&& 0x03#8 = 3#8 ∧ c1 = 0xD0#8
  | .aAuthorizeRequest _ => c0 &&& 0x03#8 = 3#8 ∧ c1 = 0xD1#8
  | .aAuthorizeResponse _ => c0 &&& 0x03#8 = 3#8 ∧ c1 = 0xD2#8
  | .aKeyWrite _ _ => c0 &&& 0x03#8 = 3#8 ∧ c1 = 0xD3#8
  | .aKeyResponse _ => c0 &&& 0x03#8 = 3#8 ∧ c1 = 0xD4#8
  | .aPropertyValueRead _ _ _ _ => c0 &&& 0x03#8 = 3#8 ∧ c1 = 0xD5#8
  | .aPropertyValueResponse _ _ _ _ _ => c0 &&& 0x03#8 = 3#8 ∧ c1 = 0xD6#8
  | .aPropertyValueWrite _ _ _ _ _ => c0 &&& 0x03#8 = 3#8 ∧ c1 = 0xD7#8
  | .aPropertyDescriptionRead _ _ _ => c0 &&& 0x03#8 = 3#8 ∧ c1 = 0xD8#8
  | .aPropertyDescriptionResponse _ _ _ _ _ _ => c0 &&& 0x03#8 = 3#8 ∧ c1 = 0xD9#8
  | .aIndividualAddressSerialNumberRead _ => c0 &&& 0x03#8 = 3#8 ∧ c1 = 0xDC#8
  | .aIndividualAddressSerialNumberResponse _ _ => c0 &&& 0x03#8 = 3#8 ∧ c1 = 0xDD#8
  | .aIndividualAddressSerialNumberWrite _ _ => c0 &&& 0x03#8 = 3#8 ∧ c1 = 0xDE#8
  | .aServiceInformationIndicationWrite _ _ _ => c0 &&& 0x03#8 = 3#8 ∧ c1 = 0xDF#8
  | .aDomainAddressWrite _ => c0 &&& 0x03#8 = 3#8 ∧ c1 = 0xE0#8
  | .aDomainAddressRead => c0 &&& 0x03#8 = 3#8 ∧ c1 = 0xE1#8
  | .aDomainAddressResponse _ => c0 &&& 0x03#8 = 3#8 ∧ c1 = 0xE2#8
  | .aDomainAddressSelectiveRead _ _ _ => c0 &&& 0x03#8 = 3#8 ∧ c1 = 0xE3#8

/-- An `init` that accepts makes an APDU whose class has the code it was picked by. -/
theorem APDU.hasServiceCode_of_classOf {c0 c1 : Byte} {init : CArray → Option APDU} {c : CArray}
    {a : APDU} (hclass : classOf c0 c1 = some init) (hinit : init c = some a) :
    a.HasServiceCode c0 c1 := by
  unfold classOf at hclass
  -- one case for each service code, and in it one for each pattern of its `init`
  split at hclass
  all_goals try split at hclass
  all_goals cases hclass
  all_goals
    simp only [emptyInit, groupValueInit, addrInit, levelInit, propertyValueInit, memoryInit,
      userMemoryInit, memoryBitInit, aGroupValueReadInit, aGroupValueResponseInit,
      aGroupValueWriteInit, aIndividualAddressWriteInit,
      aIndividualAddressReadInit, aIndividualAddressResponseInit,
      aIndividualAddressSerialNumberReadInit, aIndividualAddressSerialNumberResponseInit,
      aIndividualAddressSerialNumberWriteInit, aServiceInformationIndicationWriteInit,
      aDomainAddressWriteInit, aDomainAddressReadInit, aDomainAddressResponseInit,
      aDomainAddressSelectiveReadInit, aPropertyValueReadInit, aPropertyValueResponseInit,
      aPropertyValueWriteInit, aPropertyDescriptionReadInit, aPropertyDescriptionResponseInit,
      aDeviceDescriptorReadInit, aDeviceDescriptorResponseInit, aADCReadInit, aADCResponseInit,
      aMemoryReadInit, aMemoryResponseInit, aMemoryWriteInit, aMemoryBitWriteInit,
      aUserMemoryReadInit, aUserMemoryResponseInit, aUserMemoryWriteInit, aUserMemoryBitWriteInit,
      aUserManufacturerInfoReadInit, aUserManufacturerInfoResponseInit, aRestartInit,
      aAuthorizeRequestInit, aAuthorizeResponseInit, aKeyWriteInit, aKeyResponseInit] at hinit
    split at hinit
    all_goals try split at hinit
    all_goals cases hinit
    all_goals first
      | exact ⟨‹_›, ‹_›⟩
      | exact ⟨‹_›, rfl⟩

/-- An APDU of a known class comes from the `init` that its service code picks. -/
theorem APDU.fromPacket_eq_iff {c : CArray} {a : APDU} (hknown : ∀ pdu, a ≠ .aUnknown pdu) :
    fromPacket c = a ↔ ∃ c0 c1 rest init, c = c0 :: c1 :: rest ∧ a.HasServiceCode c0 c1 ∧
      classOf c0 c1 = some init ∧ init c = some a := by
  constructor
  · intro h
    rcases c with _ | ⟨c0, _ | ⟨c1, rest⟩⟩
    · exact absurd h.symm (hknown _)
    · exact absurd h.symm (hknown _)
    · rw [fromPacket] at h
      -- whatever is refused becomes an unknown APDU
      rcases hclass : classOf c0 c1 with _ | init
      · rw [hclass] at h
        exact absurd h.symm (hknown _)
      · rw [hclass, Option.bind_some] at h
        rcases hinit : init (c0 :: c1 :: rest) with _ | a'
        · rw [hinit] at h
          exact absurd h.symm (hknown _)
        · rw [hinit] at h
          obtain rfl : a' = a := h
          exact ⟨c0, c1, rest, init, rfl, hasServiceCode_of_classOf hclass hinit, hclass, hinit⟩
  · rintro ⟨c0, c1, rest, init, rfl, -, hclass, hinit⟩
    rw [fromPacket, hclass, Option.bind_some, hinit]
    rfl

/-- The nine bytes of a property description. -/
theorem APDU.fromPacket_eq_description_iff {c : CArray} {obj prop propertyIndex type access : Byte}
    {count : Word16} :
    fromPacket c = .aPropertyDescriptionResponse obj prop propertyIndex type count access ↔
      ∃ c0, c0 &&& 0x03#8 = 3#8 ∧
        c = [c0, 0xD9#8, obj, prop, propertyIndex, type, hiByte count, loByte count, access] := by
  have hpicked : ∀ {c0 : Byte}, c0 &&& 0x03#8 = 3#8 →
      classOf c0 0xD9#8 = some aPropertyDescriptionResponseInit := by
    intro c0 h0
    simp [classOf, h0]
  rw [fromPacket_eq_iff (by rintro pdu ⟨⟩)]
  constructor
  · rintro ⟨c0, c1, rest, init, rfl, ⟨h0, rfl⟩, hclass, hinit⟩
    rw [hpicked h0] at hclass
    obtain rfl := Option.some.inj hclass
    unfold aPropertyDescriptionResponseInit at hinit
    split at hinit
    · next hbytes =>
      cases hbytes
      cases hinit
      exact ⟨c0, h0, by rw [hiByte_word16, loByte_word16]⟩
    · cases hinit
  · rintro ⟨c0, h0, rfl⟩
    exact ⟨c0, 0xD9#8, _, _, rfl, ⟨h0, rfl⟩, hpicked h0,
      by simp [aPropertyDescriptionResponseInit]⟩

end BcuSdk.Eibd
