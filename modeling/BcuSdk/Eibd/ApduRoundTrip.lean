/-
  BcuSdk.Eibd.ApduRoundTrip

  What `APDU::fromPacket` reads back from the bytes of each class.

  The `*_bytes` lemmas below give the round trip of the shapes that several
  classes share.  `APDU.roundTrips_iff_preserved` puts the classes together: all
  but five come back unchanged, and for those five it says when.
-/
import BcuSdk.Eibd.Apdu

namespace BcuSdk.Eibd

open BcuSdk.Lib

/-! ## Packed fields -/

theorem word16_hiByte_and_0f {w : Word16} (h : w &&& 0xf000#16 = 0#16) :
    word16 (hiByte w &&& 0x0f#8) (loByte w) = w := by
  have hw : w = w &&& 0x0fff#16 := by
    ext i hi
    have hbit := congrArg (·.getLsbD i) h
    interval_cases i <;> simp at hbit ⊢ <;> simpa using hbit
  rw [hw]
  unfold word16 hiByte loByte
  ext i hi
  interval_cases i <;> simp

theorem code_or_and_3f (k x : Byte) (hk : k = 0x00#8 ∨ k = 0x40#8 ∨ k = 0x80#8 ∨ k = 0xC0#8) :
    (k ||| (x &&& 0x3f#8)) &&& 0x3f#8 = x &&& 0x3f#8 := by
  rcases hk with rfl | rfl | rfl | rfl <;> (ext i hi; interval_cases i <;> simp)

theorem code_or_and_c0 (k x : Byte) (hk : k = 0x00#8 ∨ k = 0x40#8 ∨ k = 0x80#8 ∨ k = 0xC0#8) :
    (k ||| (x &&& 0x3f#8)) &&& 0xC0#8 = k := by
  rcases hk with rfl | rfl | rfl | rfl <;> (ext i hi; interval_cases i <;> simp)

theorem code_or_and_0f (k x : Byte) (hk : k = 0x00#8 ∨ k = 0x40#8 ∨ k = 0x80#8 ∨ k = 0xC0#8) :
    (k ||| (x &&& 0x0f#8)) &&& 0x0f#8 = x &&& 0x0f#8 := by
  rcases hk with rfl | rfl | rfl | rfl <;> (ext i hi; interval_cases i <;> simp)

theorem nibbles_high (x y : Byte) :
    ((((x &&& 0x0f#8) <<< 4) ||| (y &&& 0x0f#8)) >>> 4) &&& 0x0f#8 = x &&& 0x0f#8 := by
  ext i hi
  interval_cases i <;> simp

theorem nibbles_low (x y : Byte) :
    (((x &&& 0x0f#8) <<< 4) ||| (y &&& 0x0f#8)) &&& 0x0f#8 = y &&& 0x0f#8 := by
  ext i hi
  interval_cases i <;> simp

theorem packed_field {k x : Byte} (hk : k = 0x00#8 ∨ k = 0x40#8 ∨ k = 0x80#8 ∨ k = 0xC0#8)
    (hx : x &&& 0xC0#8 = 0#8) : (k ||| (x &&& 0x3f#8)) &&& 0x3f#8 = x :=
  (code_or_and_3f k x hk).trans (and_3f_of_and_c0 hx)

theorem packed_count {k x : Byte} (hk : k = 0x00#8 ∨ k = 0x40#8 ∨ k = 0x80#8 ∨ k = 0xC0#8)
    (hx : x &&& 0xf0#8 = 0#8) : (k ||| (x &&& 0x0f#8)) &&& 0x0f#8 = x :=
  (code_or_and_0f k x hk).trans (and_0f_of_and_f0 hx)

/-- A 4-bit count is also a 6-bit one. -/
theorem and_0f_and_3f (x : Byte) : (x &&& 0x0f#8) &&& 0x3f#8 = x &&& 0x0f#8 := by
  ext i hi
  interval_cases i <;> simp

/-! ## The classes of packed service codes -/

/-- `fromPacket` is the `init` of the class it picks, if that accepts. -/
theorem APDU.fromPacket_of_init {c0 c1 : Byte} {rest : CArray} {init : CArray → Option APDU}
    {a : APDU} (hclass : classOf c0 c1 = some init) (hinit : init (c0 :: c1 :: rest) = some a) :
    fromPacket (c0 :: c1 :: rest) = a := by
  simp [fromPacket, hclass, hinit]

/-- `fromPacket` falls back to the unknown class if `init` rejects. -/
theorem APDU.fromPacket_of_reject {c0 c1 : Byte} {rest : CArray} {init : CArray → Option APDU}
    (hclass : classOf c0 c1 = some init) (hinit : init (c0 :: c1 :: rest) = none) :
    fromPacket (c0 :: c1 :: rest) = .aUnknown (c0 :: c1 :: rest) := by
  simp [fromPacket, hclass, hinit]

/-- The low six bits of the second byte do not matter for the classes that pack a field there. -/
theorem APDU.classOf_packed {c0 k : Byte} (x : Byte)
    (hcode : (c0, k) ∈ [(0x00#8, 0x40#8), (0x00#8, 0x80#8), (0x01#8, 0x80#8), (0x01#8, 0xC0#8),
      (0x02#8, 0x00#8), (0x02#8, 0x40#8), (0x02#8, 0x80#8), (0x03#8, 0x00#8)]) :
    classOf c0 (k ||| (x &&& 0x3f#8)) = classOf c0 k := by
  have hk : k = 0x00#8 ∨ k = 0x40#8 ∨ k = 0x80#8 ∨ k = 0xC0#8 := by
    simp only [List.mem_cons, Prod.mk.injEq, List.not_mem_nil, or_false] at hcode
    tauto
  have hmask := code_or_and_c0 k x hk
  simp only [List.mem_cons, Prod.mk.injEq, List.not_mem_nil, or_false] at hcode
  unfold classOf
  rw [hmask]
  rcases hcode with ⟨rfl, rfl⟩ | ⟨rfl, rfl⟩ | ⟨rfl, rfl⟩ | ⟨rfl, rfl⟩ | ⟨rfl, rfl⟩ | ⟨rfl, rfl⟩ |
    ⟨rfl, rfl⟩ | ⟨rfl, rfl⟩ <;> rfl

theorem APDU.classOf_packed_count {k : Byte} (x : Byte)
    (hk : k = 0x00#8 ∨ k = 0x40#8 ∨ k = 0x80#8) :
    classOf 0x02#8 (k ||| (x &&& 0x0f#8)) = classOf 0x02#8 k := by
  rw [← and_0f_and_3f]
  exact classOf_packed (x &&& 0x0f#8) (by rcases hk with rfl | rfl | rfl <;> simp)

/-! ## Shapes shared by several classes -/

/-- A group value starts with its packed service code, short or not. -/
theorem groupValuePacket_eq_cons (code : Byte) (issmall : Bool) (data : CArray) :
    ∃ x rest, groupValuePacket code issmall data = 0x00#8 :: (code ||| (x &&& 0x3f#8)) :: rest := by
  cases issmall with
  | true => exact ⟨data.getD 0 0#8, [], rfl⟩
  -- a longer value leaves the packed bits zero
  | false => exact ⟨0#8, data, by simp [groupValuePacket]⟩

theorem groupValueInit_packet {mk : Bool → CArray → APDU} {code : Byte}
    (hcode : code = 0x40#8 ∨ code = 0x80#8) {issmall : Bool} {data : CArray}
    (hassert : groupValueAsserts issmall data) (hdata : issmall = false → data ≠ []) :
    groupValueInit mk (groupValuePacket code issmall data) = some (mk issmall data) := by
  cases issmall with
  | true =>
    -- a short value is one byte of six bits, packed into the service code
    match data, hassert with
    | [b], hassert =>
      have h3f : (code ||| (b &&& 0x3f#8)) &&& 0x3f#8 = b :=
        packed_field (by rcases hcode with rfl | rfl <;> simp)
          (by simpa [groupValueAsserts] using hassert)
      simp only [groupValuePacket, if_true, List.getD_cons_zero, groupValueInit]
      rw [h3f]
  | false =>
    cases data with
    | nil => exact absurd rfl (hdata rfl)
    | cons b rest => rfl

theorem propertyValueInit_packet {mk : Byte → Byte → Byte → Word16 → CArray → APDU}
    {code obj prop count : Byte} {start : Word16} {data : CArray}
    (hassert : propertyValueAsserts count start) :
    propertyValueInit mk (propertyValuePacket code obj prop count start data) =
      some (mk obj prop count start data) := by
  simp only [propertyValueAsserts, Bool.and_eq_true, beq_iff_eq] at hassert
  obtain ⟨hcount, hstart⟩ := hassert
  simp only [propertyValuePacket, propertyValueInit, List.cons_append, List.nil_append,
    countStartByte, nibbles_high, nibbles_low]
  rw [and_0f_of_and_f0 hcount, word16_hiByte_and_0f hstart]

theorem memoryInit_packet {mk : Byte → MemAddr → CArray → APDU} {code count : Byte}
    {addr : MemAddr} {data : CArray} (hcode : code = 0x40#8 ∨ code = 0x80#8)
    (hcount : count &&& 0xf0#8 = 0#8) (hdata : data.length = count.toNat) :
    memoryInit mk (memoryPacket code count addr data) = some (mk count addr data) := by
  have h0f : (code ||| (count &&& 0x0f#8)) &&& 0x0f#8 = count :=
    packed_count (by rcases hcode with rfl | rfl <;> simp) hcount
  simp only [memoryPacket, memoryInit, List.cons_append, List.nil_append, h0f, hdata, ne_eq,
    not_true_eq_false, if_false, word16_hiByte_loByte]

theorem userMemoryInit_packet {mk : Byte → Byte → MemAddr → CArray → APDU}
    {code ext count : Byte} {addr : MemAddr} {data : CArray}
    (hcount : count &&& 0xf0#8 = 0#8) (hext : ext &&& 0xf0#8 = 0#8)
    (hdata : data.length = count.toNat) :
    userMemoryInit mk (userMemoryPacket code ext count addr data) =
      some (mk ext count addr data) := by
  simp only [userMemoryPacket, userMemoryInit, List.cons_append, List.nil_append, nibbles_high,
    nibbles_low]
  rw [and_0f_of_and_f0 hcount, and_0f_of_and_f0 hext, if_neg (not_not.mpr hdata),
    word16_hiByte_loByte]

theorem memoryBitInit_packet {mk : Byte → MemAddr → CArray → CArray → APDU} {c0 c1 count : Byte}
    {addr : MemAddr} {andmask xormask : CArray} (hand : andmask.length = count.toNat)
    (hxor : xormask.length = count.toNat) :
    memoryBitInit mk (memoryBitPacket c0 c1 count addr andmask xormask) =
      some (mk count addr andmask xormask) := by
  have hlen : (andmask ++ xormask).length = count.toNat * 2 := by
    rw [List.length_append]
    omega
  have htake : (andmask ++ xormask).take count.toNat = andmask := List.take_left' hand
  have hdrop : (andmask ++ xormask).drop count.toNat = xormask := List.drop_left' hand
  simp only [memoryBitPacket, memoryBitInit, List.cons_append, List.nil_append, hlen, ne_eq,
    not_true_eq_false, if_false, htake, hdrop, word16_hiByte_loByte]

/-! ## The classes that do not come back -/

section Lost

variable (unset : Byte × Byte)

/-- Written under the code of the response, which has to be 12 bytes long. -/
theorem APDU.fromPacket_serialNumberWrite (serno : SerialNumber) (addr : EibAddr) :
    fromPacket (bytes unset (.aIndividualAddressSerialNumberWrite serno addr)) =
      .aUnknown (bytes unset (.aIndividualAddressSerialNumberWrite serno addr)) :=
  fromPacket_of_reject rfl rfl

/-- Written under the code of the domain address response, which has to be 4 bytes long. -/
theorem APDU.fromPacket_domainAddressSelectiveRead (domainaddr : DomainAddr) (addr : EibAddr)
    (range : Byte) :
    fromPacket (bytes unset (.aDomainAddressSelectiveRead domainaddr addr range)) =
      .aUnknown (bytes unset (.aDomainAddressSelectiveRead domainaddr addr range)) :=
  fromPacket_of_reject rfl rfl

/-- Written under the code of the read, which has to be 2 bytes long. -/
theorem APDU.fromPacket_deviceDescriptorResponse (type : Byte) (descriptor : Word16) :
    fromPacket (bytes unset (.aDeviceDescriptorResponse type descriptor)) =
      .aUnknown (bytes unset (.aDeviceDescriptorResponse type descriptor)) := by
  -- the code byte is one of the read as well, with the lowest bit of its type set
  have hcode : 0x01#8 ||| (type &&& 0x3f#8) = 0x00#8 ||| ((type ||| 0x01#8) &&& 0x3f#8) := by
    ext i hi
    interval_cases i <;> simp
  have hclass : classOf 0x03#8 (0x01#8 ||| (type &&& 0x3f#8)) = some aDeviceDescriptorReadInit := by
    rw [hcode]
    exact classOf_packed _ (by decide)
  exact fromPacket_of_reject hclass rfl

/-- The duplicate address flag is written to byte 2 and read from byte 3. -/
theorem APDU.fromPacket_serviceInformation (verifyMode duplicateAddress applStopped : Bool) :
    fromPacket (bytes unset
      (.aServiceInformationIndicationWrite verifyMode duplicateAddress applStopped)) =
      .aServiceInformationIndicationWrite verifyMode false applStopped := by
  cases verifyMode <;> cases duplicateAddress <;> cases applStopped <;> rfl

/-- The address extension is not written. -/
theorem APDU.fromPacket_userMemoryBitWrite {addrExtension count : Byte} {addr : MemAddr}
    {andmask xormask : CArray}
    (hassert : asserts (.aUserMemoryBitWrite addrExtension count addr andmask xormask)) :
    fromPacket (bytes unset (.aUserMemoryBitWrite addrExtension count addr andmask xormask)) =
      .aUserMemoryBitWrite 0#8 count addr andmask xormask := by
  simp only [asserts, Bool.and_eq_true, beq_iff_eq] at hassert
  exact fromPacket_of_init rfl (memoryBitInit_packet hassert.1 hassert.2)

end Lost

/-! ## The round trip -/

/-- `a` is of one of the classes `APDU::fromPacket` dispatches to. -/
def APDU.Dispatched : APDU → Prop
  | .aUnknown _ => False
  | _ => True

/-- The data of a group value that is not short is not empty. -/
def APDU.GroupDataNonempty : APDU → Prop
  | .aGroupValueResponse issmall data => issmall = false → data ≠ []
  | .aGroupValueWrite issmall data => issmall = false → data ≠ []
  | _ => True

/-- Encoding `a` and decoding the bytes gives `a` again. -/
def APDU.RoundTrips (unset : Byte × Byte) (a : APDU) : Prop :=
  ∃ c, a.toPacket unset = .ok c ∧ fromPacket c = a

/-- The objects whose encoding keeps their class and all their fields. -/
def APDU.Preserved : APDU → Prop
  | .aIndividualAddressSerialNumberWrite _ _ => False
  | .aDomainAddressSelectiveRead _ _ _ => False
  | .aDeviceDescriptorResponse _ _ => False
  | .aServiceInformationIndicationWrite _ duplicateAddress _ => duplicateAddress = false
  | .aUserMemoryBitWrite addrExtension _ _ _ _ => addrExtension = 0#8
  | _ => True

/-- The bytes of a group value are decoded to the class of its service code. -/
theorem APDU.fromPacket_groupValue {mk : Bool → CArray → APDU} {code : Byte} {issmall : Bool}
    {data : CArray} (hcode : code = 0x40#8 ∨ code = 0x80#8)
    (hclass : classOf 0x00#8 code = some (groupValueInit mk))
    (hassert : groupValueAsserts issmall data) (hdata : issmall = false → data ≠ []) :
    fromPacket (groupValuePacket code issmall data) = mk issmall data := by
  obtain ⟨x, rest, heq⟩ := groupValuePacket_eq_cons code issmall data
  have hinit : groupValueInit mk (groupValuePacket code issmall data) = some (mk issmall data) :=
    groupValueInit_packet hcode hassert hdata
  rw [heq] at hinit ⊢
  refine fromPacket_of_init ?_ hinit
  rw [← hclass]
  exact classOf_packed x (by rcases hcode with rfl | rfl <;> simp)

/-- The bytes of a class that keeps its fields are decoded to the same object. -/
theorem APDU.fromPacket_bytes {unset : Byte × Byte} {a : APDU} (hassert : a.asserts)
    (hdisp : a.Dispatched) (hdata : a.GroupDataNonempty) (hkeep : a.Preserved) :
    fromPacket (a.bytes unset) = a := by
  cases a with
  | aUnknown pdu => exact hdisp.elim
  -- two bytes and no field
  | aGroupValueRead => rfl
  | aIndividualAddressRead => rfl
  | aIndividualAddressResponse => rfl
  | aDomainAddressRead => rfl
  | aUserManufacturerInfoRead => rfl
  | aRestart => rfl
  -- fields that are whole bytes
  | aIndividualAddressSerialNumberRead serno => rfl
  | aPropertyDescriptionRead obj prop propertyIndex => rfl
  | aAuthorizeResponse level => rfl
  | aKeyResponse level => rfl
  -- fields that are whole words
  | aIndividualAddressWrite addr =>
      exact fromPacket_of_init rfl (by simp [aIndividualAddressWriteInit, addrInit])
  | aDomainAddressWrite addr =>
      exact fromPacket_of_init rfl (by simp [aDomainAddressWriteInit, addrInit])
  | aDomainAddressResponse addr =>
      exact fromPacket_of_init rfl (by simp [aDomainAddressResponseInit, addrInit])
  | aIndividualAddressSerialNumberResponse serno addr =>
      exact fromPacket_of_init rfl
        (by simp [aIndividualAddressSerialNumberResponseInit, SerialNumber.bytes])
  | aPropertyDescriptionResponse obj prop propertyIndex type count access =>
      exact fromPacket_of_init rfl (by simp [aPropertyDescriptionResponseInit])
  | aUserManufacturerInfoResponse manufacturerid data =>
      exact fromPacket_of_init rfl (by simp [aUserManufacturerInfoResponseInit])
  | aAuthorizeRequest key =>
      exact fromPacket_of_init rfl (by simp [aAuthorizeRequestInit, keyBytes])
  | aKeyWrite level key => exact fromPacket_of_init rfl (by simp [aKeyWriteInit, keyBytes])
  -- a field packed into the service code
  | aGroupValueResponse issmall data =>
      exact fromPacket_groupValue (.inl rfl) rfl hassert hdata
  | aGroupValueWrite issmall data =>
      exact fromPacket_groupValue (.inr rfl) rfl hassert hdata
  | aDeviceDescriptorRead type =>
      have htype := packed_field (k := 0x00#8) (by simp) (beq_iff_eq.mp hassert)
      refine fromPacket_of_init (classOf_packed type (by decide)) ?_
      simp only [aDeviceDescriptorReadInit]
      rw [htype]
  | aADCRead channel count =>
      have hchannel := packed_field (k := 0x80#8) (by simp) (beq_iff_eq.mp hassert)
      refine fromPacket_of_init (classOf_packed channel (by decide)) ?_
      simp only [aADCReadInit]
      rw [hchannel]
  | aADCResponse channel count val =>
      have hchannel := packed_field (k := 0xC0#8) (by simp) (beq_iff_eq.mp hassert)
      refine fromPacket_of_init (classOf_packed channel (by decide)) ?_
      simp only [aADCResponseInit, word16_hiByte_loByte]
      rw [hchannel]
  | aMemoryRead count addr =>
      have hcount := packed_count (k := 0x00#8) (by simp) (beq_iff_eq.mp hassert)
      refine fromPacket_of_init (classOf_packed_count count (by simp)) ?_
      simp only [aMemoryReadInit, List.append_eq, List.append_nil, word16_hiByte_loByte]
      rw [hcount]
  | aMemoryResponse count addr data =>
      simp only [asserts, Bool.and_eq_true, beq_iff_eq] at hassert
      exact fromPacket_of_init (classOf_packed_count count (by simp))
        (memoryInit_packet (.inl rfl) hassert.1 hassert.2)
  | aMemoryWrite count addr data =>
      simp only [asserts, Bool.and_eq_true, beq_iff_eq] at hassert
      exact fromPacket_of_init (classOf_packed_count count (by simp))
        (memoryInit_packet (.inr rfl) hassert.1 hassert.2)
  -- two fields packed into one byte
  | aPropertyValueRead obj prop count start =>
      simp only [asserts, propertyValueAsserts, Bool.and_eq_true, beq_iff_eq] at hassert
      refine fromPacket_of_init rfl ?_
      simp only [aPropertyValueReadInit, List.append_eq, List.append_nil, countStartByte,
        nibbles_high, nibbles_low]
      rw [and_0f_of_and_f0 hassert.1, word16_hiByte_and_0f hassert.2]
  | aPropertyValueResponse obj prop count start data =>
      exact fromPacket_of_init rfl (propertyValueInit_packet hassert)
  | aPropertyValueWrite obj prop count start data =>
      exact fromPacket_of_init rfl (propertyValueInit_packet hassert)
  | aUserMemoryRead addrExtension count addr =>
      simp only [asserts, Bool.and_eq_true, beq_iff_eq] at hassert
      refine fromPacket_of_init rfl ?_
      simp only [aUserMemoryReadInit, List.append_eq, List.append_nil, nibbles_high, nibbles_low,
        word16_hiByte_loByte]
      rw [and_0f_of_and_f0 hassert.1, and_0f_of_and_f0 hassert.2]
  | aUserMemoryResponse addrExtension count addr data =>
      simp only [asserts, Bool.and_eq_true, beq_iff_eq] at hassert
      exact fromPacket_of_init rfl
        (userMemoryInit_packet hassert.1.1 hassert.1.2 hassert.2)
  | aUserMemoryWrite addrExtension count addr data =>
      simp only [asserts, Bool.and_eq_true, beq_iff_eq] at hassert
      exact fromPacket_of_init rfl
        (userMemoryInit_packet hassert.1.1 hassert.1.2 hassert.2)
  -- masks
  | aMemoryBitWrite count addr andmask xormask =>
      simp only [asserts, Bool.and_eq_true, beq_iff_eq] at hassert
      exact fromPacket_of_init rfl (memoryBitInit_packet hassert.1 hassert.2)
  -- classes that lose a field
  | aServiceInformationIndicationWrite verifyMode duplicateAddress applStopped =>
      cases hkeep
      exact fromPacket_serviceInformation unset verifyMode false applStopped
  | aUserMemoryBitWrite addrExtension count addr andmask xormask =>
      cases hkeep
      exact fromPacket_userMemoryBitWrite unset hassert
  | aIndividualAddressSerialNumberWrite serno addr => exact hkeep.elim
  | aDomainAddressSelectiveRead domainaddr addr range => exact hkeep.elim
  | aDeviceDescriptorResponse type descriptor => exact hkeep.elim

/-- The bytes of the other objects are decoded to a different object. -/
theorem APDU.fromPacket_bytes_ne {unset : Byte × Byte} {a : APDU} (hassert : a.asserts)
    (hlost : ¬ a.Preserved) : fromPacket (a.bytes unset) ≠ a := by
  cases a with
  | aIndividualAddressSerialNumberWrite serno addr =>
      rw [fromPacket_serialNumberWrite]
      exact APDU.noConfusion
  | aDomainAddressSelectiveRead domainaddr addr range =>
      rw [fromPacket_domainAddressSelectiveRead]
      exact APDU.noConfusion
  | aDeviceDescriptorResponse type descriptor =>
      rw [fromPacket_deviceDescriptorResponse]
      exact APDU.noConfusion
  | aServiceInformationIndicationWrite verifyMode duplicateAddress applStopped =>
      rw [fromPacket_serviceInformation]
      intro h
      injection h with _ hdup _
      exact hlost hdup.symm
  | aUserMemoryBitWrite addrExtension count addr andmask xormask =>
      rw [fromPacket_userMemoryBitWrite unset hassert]
      intro h
      injection h with hext
      exact hlost hext.symm
  | _ => exact absurd trivial hlost

/-- Every object of a dispatched class that satisfies its class's assertions survives the round
    trip exactly if it is one of those `Preserved` names. -/
theorem APDU.roundTrips_iff_preserved (unset : Byte × Byte) (a : APDU) (hdisp : a.Dispatched)
    (hassert : a.asserts) (hdata : a.GroupDataNonempty) :
    a.RoundTrips unset ↔ a.Preserved := by
  have hpkt : a.toPacket unset = .ok (a.bytes unset) := toPacket_eq_ok.mpr ⟨hassert, rfl⟩
  constructor
  · rintro ⟨c, hc, hback⟩
    rw [hpkt] at hc
    cases hc
    by_contra hlost
    exact fromPacket_bytes_ne hassert hlost hback
  · intro hkeep
    exact ⟨_, hpkt, fromPacket_bytes hassert hdisp hdata hkeep⟩

theorem APDU.roundTrips_iff_preserved_memoryRead :
    (APDU.aMemoryRead 0x04#8 0x0100#16).RoundTrips (0#8, 0#8) ↔
      (APDU.aMemoryRead 0x04#8 0x0100#16).Preserved :=
  roundTrips_iff_preserved (0#8, 0#8) (.aMemoryRead 0x04#8 0x0100#16) trivial (by decide) trivial

/-- A device descriptor response comes back as an unknown APDU. -/
theorem APDU.roundTrips_fails_deviceDescriptorResponse :
    let a : APDU := .aDeviceDescriptorResponse 0x00#8 0x0012#16
    a.Dispatched ∧ a.asserts ∧ a.GroupDataNonempty ∧ ¬ a.RoundTrips (0#8, 0#8) := by
  refine ⟨trivial, by decide, trivial, ?_⟩
  rintro ⟨c, hc, hback⟩
  cases hc
  exact absurd hback (by decide)

/-! ## What `init` promises

A decoded APDU satisfies the assertions of its own `Decode`. -/

/-- Every object `init` accepts satisfies the assertions of its class. -/
def InitAsserts (init : CArray → Option APDU) : Prop := ∀ c a, init c = some a → a.asserts

theorem emptyInit_asserts {a : APDU} (ha : a.asserts) : InitAsserts (emptyInit a) := by
  intro c b h
  unfold emptyInit at h
  split at h <;> cases h
  exact ha

theorem addrInit_asserts {mk : Word16 → APDU} (hmk : ∀ w, (mk w).asserts) :
    InitAsserts (addrInit mk) := by
  intro c b h
  unfold addrInit at h
  split at h <;> cases h
  exact hmk _

theorem levelInit_asserts {mk : Byte → APDU} (hmk : ∀ b, (mk b).asserts) :
    InitAsserts (levelInit mk) := by
  intro c b h
  unfold levelInit at h
  split at h <;> cases h
  exact hmk _

theorem and_3f_and_c0 (x : Byte) : (x &&& 0x3f#8) &&& 0xC0#8 = 0#8 := by
  ext i hi
  interval_cases i <;> simp

theorem and_0f_and_f0 (x : Byte) : (x &&& 0x0f#8) &&& 0xf0#8 = 0#8 := by
  ext i hi
  interval_cases i <;> simp

theorem word16_and_f000 (x y : Byte) : word16 (x &&& 0x0f#8) y &&& 0xf000#16 = 0#16 := by
  unfold word16
  ext i hi
  interval_cases i <;> simp

theorem groupValueInit_asserts {mk : Bool → CArray → APDU}
    (hmk : ∀ s d, (mk s d).asserts = groupValueAsserts s d) : InitAsserts (groupValueInit mk) := by
  intro c b h
  unfold groupValueInit at h
  split at h <;> cases h
  · simp [hmk, groupValueAsserts, and_3f_and_c0]
  · simp [hmk, groupValueAsserts]

theorem propertyValueInit_asserts {mk : Byte → Byte → Byte → Word16 → CArray → APDU}
    (hmk : ∀ o p n s d, (mk o p n s d).asserts = propertyValueAsserts n s) :
    InitAsserts (propertyValueInit mk) := by
  intro c b h
  unfold propertyValueInit at h
  split at h <;> cases h
  simp [hmk, propertyValueAsserts, and_0f_and_f0, word16_and_f000]

theorem memoryInit_asserts {mk : Byte → MemAddr → CArray → APDU}
    (hmk : ∀ n m d, n &&& 0xf0#8 = 0#8 → d.length = n.toNat → (mk n m d).asserts) :
    InitAsserts (memoryInit mk) := by
  intro c b h
  unfold memoryInit at h
  split at h
  · split at h
    · cases h
    · next hlen =>
      cases h
      exact hmk _ _ _ (and_0f_and_f0 _) (not_not.mp hlen)
  · cases h

theorem userMemoryInit_asserts {mk : Byte → Byte → MemAddr → CArray → APDU}
    (hmk : ∀ e n m d, n &&& 0xf0#8 = 0#8 → e &&& 0xf0#8 = 0#8 → d.length = n.toNat →
      (mk e n m d).asserts) : InitAsserts (userMemoryInit mk) := by
  intro c b h
  unfold userMemoryInit at h
  split at h
  · split at h
    · cases h
    · next hlen =>
      cases h
      exact hmk _ _ _ _ (and_0f_and_f0 _) (and_0f_and_f0 _) (not_not.mp hlen)
  · cases h

theorem memoryBitInit_asserts {mk : Byte → MemAddr → CArray → CArray → APDU}
    (hmk : ∀ n m x y, x.length = n.toNat → y.length = n.toNat → (mk n m x y).asserts) :
    InitAsserts (memoryBitInit mk) := by
  intro c b h
  unfold memoryBitInit at h
  split at h
  · split at h
    · cases h
    · next hlen =>
      cases h
      rw [not_not] at hlen
      exact hmk _ _ _ _ (by rw [List.length_take]; omega) (by rw [List.length_drop]; omega)
  · cases h

theorem aADCReadInit_asserts : InitAsserts aADCReadInit := by
  intro c b h
  unfold aADCReadInit at h
  split at h <;> cases h
  simp [APDU.asserts, and_3f_and_c0]

theorem aADCResponseInit_asserts : InitAsserts aADCResponseInit := by
  intro c b h
  unfold aADCResponseInit at h
  split at h <;> cases h
  simp [APDU.asserts, and_3f_and_c0]

theorem aMemoryReadInit_asserts : InitAsserts aMemoryReadInit := by
  intro c b h
  unfold aMemoryReadInit at h
  split at h <;> cases h
  simp [APDU.asserts, and_0f_and_f0]

theorem aUserMemoryReadInit_asserts : InitAsserts aUserMemoryReadInit := by
  intro c b h
  unfold aUserMemoryReadInit at h
  split at h <;> cases h
  simp [APDU.asserts, and_0f_and_f0]

theorem aDeviceDescriptorReadInit_asserts : InitAsserts aDeviceDescriptorReadInit := by
  intro c b h
  unfold aDeviceDescriptorReadInit at h
  split at h <;> cases h
  simp [APDU.asserts, and_3f_and_c0]

theorem aDeviceDescriptorResponseInit_asserts : InitAsserts aDeviceDescriptorResponseInit := by
  intro c b h
  unfold aDeviceDescriptorResponseInit at h
  split at h <;> cases h
  simp [APDU.asserts, and_3f_and_c0]

theorem aPropertyValueReadInit_asserts : InitAsserts aPropertyValueReadInit := by
  intro c b h
  unfold aPropertyValueReadInit at h
  split at h <;> cases h
  simp [APDU.asserts, propertyValueAsserts, and_0f_and_f0, word16_and_f000]

/-- Every class `APDU::fromPacket` picks. -/
theorem APDU.classOf_asserts {c0 c1 : Byte} {init : CArray → Option APDU}
    (hclass : classOf c0 c1 = some init) : InitAsserts init := by
  unfold classOf at hclass
  split at hclass
  · cases hclass; exact emptyInit_asserts rfl
  · cases hclass; exact groupValueInit_asserts fun _ _ => rfl
  · cases hclass; exact groupValueInit_asserts fun _ _ => rfl
  · cases hclass; exact addrInit_asserts fun _ => rfl
  · cases hclass; exact emptyInit_asserts rfl
  · cases hclass; exact emptyInit_asserts rfl
  · cases hclass; exact aADCReadInit_asserts
  · cases hclass; exact aADCResponseInit_asserts
  · cases hclass; exact aMemoryReadInit_asserts
  · cases hclass
    exact memoryInit_asserts fun _ _ _ hcount hdata => by simp [asserts, hcount, hdata]
  · cases hclass
    exact memoryInit_asserts fun _ _ _ hcount hdata => by simp [asserts, hcount, hdata]
  · -- user memory and manufacturer services
    split at hclass <;> cases hclass
    · exact aUserMemoryReadInit_asserts
    · exact userMemoryInit_asserts fun _ _ _ _ hcount hext hdata => by
        simp [asserts, hcount, hext, hdata]
    · exact userMemoryInit_asserts fun _ _ _ _ hcount hext hdata => by
        simp [asserts, hcount, hext, hdata]
    · exact memoryBitInit_asserts fun _ _ _ _ hand hxor => by simp [asserts, hand, hxor]
    · exact emptyInit_asserts rfl
    · intro c a h
      unfold aUserManufacturerInfoResponseInit at h
      split at h <;> cases h
      rfl
  · cases hclass; exact aDeviceDescriptorReadInit_asserts
  · cases hclass; exact aDeviceDescriptorResponseInit_asserts
  · cases hclass; exact emptyInit_asserts rfl
  · -- authorisation, property, serial number and domain address services
    split at hclass <;> cases hclass
    any_goals
      -- the classes without assertions
      intro c a h
      simp only [aAuthorizeRequestInit, aKeyWriteInit, aPropertyDescriptionReadInit,
        aPropertyDescriptionResponseInit, aIndividualAddressSerialNumberReadInit,
        aIndividualAddressSerialNumberResponseInit, aIndividualAddressSerialNumberWriteInit,
        aServiceInformationIndicationWriteInit, aDomainAddressSelectiveReadInit] at h
      split at h <;> cases h
      rfl
    · exact memoryBitInit_asserts fun _ _ _ _ hand hxor => by simp [asserts, hand, hxor]
    · exact levelInit_asserts fun _ => rfl
    · exact levelInit_asserts fun _ => rfl
    · exact aPropertyValueReadInit_asserts
    · exact propertyValueInit_asserts fun _ _ _ _ _ => rfl
    · exact propertyValueInit_asserts fun _ _ _ _ _ => rfl
    · exact addrInit_asserts fun _ => rfl
    · exact emptyInit_asserts rfl
    · exact addrInit_asserts fun _ => rfl
  · cases hclass

/-- Whatever the bytes, the assertions in `Decode` of the decoded APDU hold. -/
theorem APDU.decode_fromPacket (c : CArray) : (fromPacket c).decode = .ok () := by
  have hassert : (fromPacket c).asserts := by
    unfold fromPacket
    split
    · next c0 c1 rest =>
      cases hclass : classOf c0 c1 with
      | none => rfl
      | some init =>
          cases hinit : init (c0 :: c1 :: rest) with
          | none => simp [hinit, asserts]
          | some a => simpa [hinit] using classOf_asserts hclass _ _ hinit
    · rfl
  exact check_of hassert

end BcuSdk.Eibd
