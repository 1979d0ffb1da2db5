/-
  BcuSdk.Eibd.Tpdu

  Transport layer PDUs (eibd/libserver/tpdu.h, tpdu.cpp): the classes derived
  from `TPDU`, `TPDU::fromPacket`, and their `ToPacket` and `Decode`.

  A data TPDU shares its first byte with the APDU: `data` keeps the byte as it
  was received, and `ToPacket` replaces the upper six bits.
  `TPDU.toPacket_fromPacket` and `TPDU.fromPacket_toPacket` are the two
  directions of the codec.
-/
import BcuSdk.Eibd.ApduRoundTrip

namespace BcuSdk.Eibd

open BcuSdk.Lib

/-! ## Classes -/

/-- The classes derived from `TPDU`. -/
inductive TPDU where
  | tUnknown (pdu : CArray)
  | tDataXXXReq (data : CArray)
  | tDataConnectedReq (serno : Byte) (data : CArray)
  | tConnectReq
  | tDisconnectReq
  | tAck (serno : Byte)
  | tNack (serno : Byte)
  deriving DecidableEq, Repr

/-- `(c >> 2) & 0x0f`. -/
def sernoOf (c : Byte) : Byte := (c >>> 2) &&& 0x0f#8

def tDataXXXReqInit : CArray → Option TPDU
  | [] => none
  | c0 :: rest => some (.tDataXXXReq (c0 :: rest))

def tDataConnectedReqInit : CArray → Option TPDU
  | [] => none
  | c0 :: rest => some (.tDataConnectedReq (sernoOf c0) (c0 :: rest))

def tConnectReqInit : CArray → Option TPDU
  | [_] => some .tConnectReq
  | _ => none

def tDisconnectReqInit : CArray → Option TPDU
  | [_] => some .tDisconnectReq
  | _ => none

def tAckInit : CArray → Option TPDU
  | [c0] => some (.tAck (sernoOf c0))
  | _ => none

def tNackInit : CArray → Option TPDU
  | [c0] => some (.tNack (sernoOf c0))
  | _ => none

/-! ## `TPDU::fromPacket` -/

/-- The `init` of the class picked by the first byte.  The source makes the tests in the
    other order and lets a later one overwrite the choice. -/
def TPDU.classOf (c0 : Byte) : Option (CArray → Option TPDU) :=
  if c0 &&& 0xC0#8 = 0x40#8 then some tDataConnectedReqInit
  else if c0 &&& 0xC3#8 = 0xC3#8 then some tNackInit
  else if c0 &&& 0xC3#8 = 0xC2#8 then some tAckInit
  else if c0 = 0x81#8 then some tDisconnectReqInit
  else if c0 = 0x80#8 then some tConnectReqInit
  else if c0 &&& 0xfc#8 = 0#8 then some tDataXXXReqInit
  else none

/-- The object of a known class `TPDU::fromPacket` makes of `c`, if there is one. -/
def TPDU.known : CArray → Option TPDU
  | [] => none
  | c0 :: rest => (classOf c0).bind (· (c0 :: rest))

/-- `TPDU::fromPacket`. -/
def TPDU.fromPacket (c : CArray) : TPDU := (known c).getD (.tUnknown c)

/-! ## `ToPacket` and `Decode` -/

/-- `TPDU::ToPacket`. -/
def TPDU.toPacket : TPDU → Checked CArray
  | .tUnknown pdu => .ok pdu
  | .tDataXXXReq data => do
      check (data.length > 0)
      return data.modifyHead (· &&& 0x03#8)
  | .tDataConnectedReq serno data => do
      check (data.length > 0)
      check (serno &&& 0xf0#8 = 0#8)
      return data.modifyHead fun d => (d &&& 0x03#8) ||| 0x40#8 ||| ((serno &&& 0x0f#8) <<< 2)
  | .tConnectReq => .ok [0x80#8]
  | .tDisconnectReq => .ok [0x81#8]
  | .tAck serno => do
      check (serno &&& 0xf0#8 = 0#8)
      return [0xC2#8 ||| ((serno &&& 0x0f#8) <<< 2)]
  | .tNack serno => do
      check (serno &&& 0xf0#8 = 0#8)
      return [0xC3#8 ||| ((serno &&& 0x0f#8) <<< 2)]

/-- `TPDU::Decode`: its assertions, and those of the APDU it decodes. -/
def TPDU.decode : TPDU → Checked Unit
  | .tUnknown _ => .ok ()
  | .tDataXXXReq data => (APDU.fromPacket data).decode
  | .tDataConnectedReq serno data => do
      check (serno &&& 0xf0#8 = 0#8)
      (APDU.fromPacket data).decode
  | .tConnectReq => .ok ()
  | .tDisconnectReq => .ok ()
  | .tAck serno => check (serno &&& 0xf0#8 = 0#8)
  | .tNack serno => check (serno &&& 0xf0#8 = 0#8)

/-! ## The control bits of the first byte -/

theorem sernoOf_and_f0 (c : Byte) : sernoOf c &&& 0xf0#8 = 0#8 := by
  unfold sernoOf
  ext i hi
  interval_cases i <;> simp

/-- The serial number goes back where it was. -/
theorem sernoOf_shiftLeft (c : Byte) : (sernoOf c &&& 0x0f#8) <<< 2 = c &&& 0x3c#8 := by
  unfold sernoOf
  ext i hi
  interval_cases i <;> simp

theorem connectedByte_sernoOf {c0 : Byte} (h : c0 &&& 0xC0#8 = 0x40#8) :
    (c0 &&& 0x03#8) ||| 0x40#8 ||| ((sernoOf c0 &&& 0x0f#8) <<< 2) = c0 := by
  rw [← h, sernoOf_shiftLeft]
  exact and_or_and_or_and c0 rfl

theorem ackByte_sernoOf {c0 : Byte} (h : c0 &&& 0xC3#8 = 0xC2#8) :
    0xC2#8 ||| ((sernoOf c0 &&& 0x0f#8) <<< 2) = c0 := by
  rw [← h, sernoOf_shiftLeft, ← BitVec.and_or_distrib_left]
  exact BitVec.and_allOnes

theorem nackByte_sernoOf {c0 : Byte} (h : c0 &&& 0xC3#8 = 0xC3#8) :
    0xC3#8 ||| ((sernoOf c0 &&& 0x0f#8) <<< 2) = c0 := by
  nth_rewrite 1 [← h]
  rw [sernoOf_shiftLeft, ← BitVec.and_or_distrib_left]
  exact BitVec.and_allOnes

theorem and_03_of_and_fc {c0 : Byte} (h : c0 &&& 0xfc#8 = 0#8) : c0 &&& 0x03#8 = c0 :=
  and_eq_self_of_and_eq_zero h rfl

/-! ## Bytes to object to bytes -/

/-- Whatever class `fromPacket` picks, the object it builds encodes to the bytes it came from. -/
theorem TPDU.toPacket_of_known {c : CArray} {t : TPDU} (h : known c = some t) :
    t.toPacket = .ok c := by
  cases c with
  | nil => cases h
  | cons c0 rest =>
      simp only [known, classOf] at h
      -- one test of the first byte after the other; the classes without data have one byte
      split at h
      · next hconnected =>
        cases h
        simp [toPacket, sernoOf_and_f0, connectedByte_sernoOf hconnected]
      split at h
      · next hnack =>
        cases rest with
        | nil =>
            cases h
            simp [toPacket, sernoOf_and_f0, nackByte_sernoOf hnack]
        | cons c1 rest => cases h
      split at h
      · next hack =>
        cases rest with
        | nil =>
            cases h
            simp [toPacket, sernoOf_and_f0, ackByte_sernoOf hack]
        | cons c1 rest => cases h
      split at h
      · next hdisconnect =>
        cases rest with
        | nil =>
            cases h
            simp [toPacket, hdisconnect]
        | cons c1 rest => cases h
      split at h
      · next hconnect =>
        cases rest with
        | nil =>
            cases h
            simp [toPacket, hconnect]
        | cons c1 rest => cases h
      split at h
      · next hdata =>
        cases h
        simp [toPacket, and_03_of_and_fc hdata]
      · cases h

/-- The bytes of any string are those of the object decoded from it. -/
theorem TPDU.toPacket_fromPacket (c : CArray) : (fromPacket c).toPacket = .ok c := by
  unfold fromPacket
  cases h : known c with
  | none => rfl
  | some t => exact toPacket_of_known h

/-! ## Object to bytes to object -/

/-- A payload where one is required, and a serial number below 16. -/
def TPDU.Encodable : TPDU → Prop
  | .tDataXXXReq data => data ≠ []
  | .tDataConnectedReq serno data => data ≠ [] ∧ serno < 16#8
  | .tAck serno => serno < 16#8
  | .tNack serno => serno < 16#8
  | _ => True

/-- The same bytes but for the six transport control bits of the first one. -/
def SamePayload (d e : CArray) : Prop :=
  d.modifyHead (· &&& 0x03#8) = e.modifyHead (· &&& 0x03#8)

/-- The same class, serial number and payload. -/
def TPDU.SameFields : TPDU → TPDU → Prop
  | .tUnknown p, .tUnknown q => p = q
  | .tDataXXXReq d, .tDataXXXReq e => SamePayload d e
  | .tDataConnectedReq m d, .tDataConnectedReq n e => m = n ∧ SamePayload d e
  | .tConnectReq, .tConnectReq => True
  | .tDisconnectReq, .tDisconnectReq => True
  | .tAck m, .tAck n => m = n
  | .tNack m, .tNack n => m = n
  | _, _ => False

theorem and_f0_of_lt_16 {n : Byte} (h : n < 16#8) : n &&& 0xf0#8 = 0#8 :=
  of_toNat_lt (p := fun n => n &&& 0xf0#8 = 0#8) (n := 16) (by decide) h

section Classes

variable {n : Byte} (hn : n < 16#8)

theorem TPDU.classOf_dataXXX (d : Byte) : classOf (d &&& 0x03#8) = some tDataXXXReqInit := by
  have htests : (d &&& 0x03#8) &&& 0xC0#8 ≠ 0x40#8 ∧ (d &&& 0x03#8) &&& 0xC3#8 ≠ 0xC3#8 ∧
      (d &&& 0x03#8) &&& 0xC3#8 ≠ 0xC2#8 ∧ d &&& 0x03#8 ≠ 0x81#8 ∧ d &&& 0x03#8 ≠ 0x80#8 ∧
      (d &&& 0x03#8) &&& 0xfc#8 = 0#8 :=
    of_toNat_lt (p := fun c => c &&& 0xC0#8 ≠ 0x40#8 ∧ c &&& 0xC3#8 ≠ 0xC3#8 ∧
      c &&& 0xC3#8 ≠ 0xC2#8 ∧ c ≠ 0x81#8 ∧ c ≠ 0x80#8 ∧ c &&& 0xfc#8 = 0#8) (n := 4) (by decide)
      (Nat.lt_succ_of_le (toNat_and_le d 0x03#8))
  obtain ⟨h1, h2, h3, h4, h5, h6⟩ := htests
  rw [classOf, if_neg h1, if_neg h2, if_neg h3, if_neg h4, if_neg h5, if_pos h6]

theorem TPDU.classOf_connected (d n : Byte) :
    classOf ((d &&& 0x03#8) ||| 0x40#8 ||| ((n &&& 0x0f#8) <<< 2)) =
      some tDataConnectedReqInit := by
  have htest : ((d &&& 0x03#8) ||| 0x40#8 ||| ((n &&& 0x0f#8) <<< 2)) &&& 0xC0#8 = 0x40#8 := by
    ext i hi
    interval_cases i <;> simp
  rw [classOf, if_pos htest]

include hn

theorem sernoOf_connectedByte (d : Byte) :
    sernoOf ((d &&& 0x03#8) ||| 0x40#8 ||| ((n &&& 0x0f#8) <<< 2)) = n := by
  have h : sernoOf ((d &&& 0x03#8) ||| 0x40#8 ||| ((n &&& 0x0f#8) <<< 2)) = n &&& 0x0f#8 := by
    unfold sernoOf
    ext i hi
    interval_cases i <;> simp
  rw [h, and_0f_of_and_f0 (and_f0_of_lt_16 hn)]

theorem TPDU.fromPacket_ackByte :
    fromPacket [0xC2#8 ||| ((n &&& 0x0f#8) <<< 2)] = .tAck n :=
  of_toNat_lt (p := fun n => fromPacket [0xC2#8 ||| ((n &&& 0x0f#8) <<< 2)] = .tAck n) (n := 16)
    (by decide) hn

theorem TPDU.fromPacket_nackByte :
    fromPacket [0xC3#8 ||| ((n &&& 0x0f#8) <<< 2)] = .tNack n :=
  of_toNat_lt (p := fun n => fromPacket [0xC3#8 ||| ((n &&& 0x0f#8) <<< 2)] = .tNack n) (n := 16)
    (by decide) hn

end Classes

theorem connectedByte_and_03 (d n : Byte) :
    ((d &&& 0x03#8) ||| 0x40#8 ||| ((n &&& 0x0f#8) <<< 2)) &&& 0x03#8 = d &&& 0x03#8 := by
  ext i hi
  interval_cases i <;> simp

theorem and_03_and_03 (d : Byte) : (d &&& 0x03#8) &&& 0x03#8 = d &&& 0x03#8 := by
  rw [BitVec.and_assoc, BitVec.and_self]

/-- An object survives encoding and decoding; an unknown one, if its bytes are of no known class. -/
theorem TPDU.fromPacket_toPacket {t : TPDU} (henc : t.Encodable)
    (hunknown : ∀ pdu, t = .tUnknown pdu → known pdu = none) :
    ∃ c, t.toPacket = .ok c ∧ t.SameFields (fromPacket c) := by
  cases t with
  | tUnknown pdu =>
      -- only bytes that no class takes come back as unknown
      refine ⟨pdu, rfl, ?_⟩
      rw [fromPacket, hunknown pdu rfl]
      rfl
  | tDataXXXReq data =>
      cases data with
      | nil => exact absurd rfl henc
      | cons d rest =>
          have hback : fromPacket ((d &&& 0x03#8) :: rest) =
              .tDataXXXReq ((d &&& 0x03#8) :: rest) := by
            simp [fromPacket, known, classOf_dataXXX, tDataXXXReqInit]
          refine ⟨(d &&& 0x03#8) :: rest, by simp [toPacket], ?_⟩
          rw [hback]
          simp [SameFields, SamePayload, and_03_and_03]
  | tDataConnectedReq serno data =>
      obtain ⟨hdata, hserno⟩ := henc
      cases data with
      | nil => exact absurd rfl hdata
      | cons d rest =>
          have hback : fromPacket
                (((d &&& 0x03#8) ||| 0x40#8 ||| ((serno &&& 0x0f#8) <<< 2)) :: rest) =
              .tDataConnectedReq serno
                (((d &&& 0x03#8) ||| 0x40#8 ||| ((serno &&& 0x0f#8) <<< 2)) :: rest) := by
            simp only [fromPacket, known, classOf_connected, Option.bind_some,
              tDataConnectedReqInit, sernoOf_connectedByte hserno, Option.getD_some]
          refine ⟨_, by simp [toPacket, and_f0_of_lt_16 hserno]; rfl, ?_⟩
          rw [hback]
          simp only [SameFields, SamePayload, List.modifyHead_cons, connectedByte_and_03, true_and]
  | tConnectReq => exact ⟨_, rfl, trivial⟩
  | tDisconnectReq => exact ⟨_, rfl, trivial⟩
  | tAck serno =>
      refine ⟨_, by simp [toPacket, and_f0_of_lt_16 henc]; rfl, ?_⟩
      rw [fromPacket_ackByte henc]
      rfl
  | tNack serno =>
      refine ⟨_, by simp [toPacket, and_f0_of_lt_16 henc]; rfl, ?_⟩
      rw [fromPacket_nackByte henc]
      rfl

/-- Both directions of the codec. -/
theorem TPDU.codec_lossless (c : CArray) (t : TPDU) (henc : t.Encodable)
    (hunknown : ∀ pdu, t = .tUnknown pdu → known pdu = none) :
    (fromPacket c).toPacket = .ok c ∧ ∃ b, t.toPacket = .ok b ∧ t.SameFields (fromPacket b) :=
  ⟨toPacket_fromPacket c, fromPacket_toPacket henc hunknown⟩

theorem TPDU.codec_lossless_ack :
    (TPDU.fromPacket [0x80#8, 0x01#8]).toPacket = .ok [0x80#8, 0x01#8] ∧
      ∃ b, (TPDU.tAck 3#8).toPacket = .ok b ∧ (TPDU.tAck 3#8).SameFields (TPDU.fromPacket b) :=
  codec_lossless [0x80#8, 0x01#8] (.tAck 3#8) (by decide : (3#8 : Byte) < 16#8)
    (fun _ h => nomatch h)

/-- An unknown object that holds the byte of a connect request comes back as that request. -/
theorem TPDU.codec_fails_unknown_connect :
    let t : TPDU := .tUnknown [0x80#8]
    t.Encodable ∧ ∃ b, t.toPacket = .ok b ∧ ¬ t.SameFields (fromPacket b) :=
  ⟨trivial, _, rfl, fun h => h⟩

/-! ## `Decode` -/

/-- `Decode` asserts nothing that `ToPacket` does not. -/
theorem TPDU.decode_of_toPacket {t : TPDU} {c : CArray} (h : t.toPacket = .ok c) :
    t.decode = .ok () := by
  cases t with
  | tUnknown pdu => rfl
  | tDataXXXReq data => exact APDU.decode_fromPacket data
  | tDataConnectedReq serno data =>
      simp only [toPacket, Checked.bind_eq_ok, check_eq_ok, exists_const] at h
      simp [decode, h.2.1, APDU.decode_fromPacket]
  | tConnectReq => rfl
  | tDisconnectReq => rfl
  | tAck serno =>
      simp only [toPacket, Checked.bind_eq_ok, check_eq_ok, exists_const] at h
      exact check_of h.1
  | tNack serno =>
      simp only [toPacket, Checked.bind_eq_ok, check_eq_ok, exists_const] at h
      exact check_of h.1

/-- Whatever the bytes, the assertions in `Decode` of the decoded TPDU hold. -/
theorem TPDU.decode_fromPacket (c : CArray) : (fromPacket c).decode = .ok () :=
  decode_of_toPacket (toPacket_fromPacket c)

end BcuSdk.Eibd
