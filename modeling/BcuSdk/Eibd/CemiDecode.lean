/-
  BcuSdk.Eibd.CemiDecode

  Which byte strings `CEMI_to_L_Data` accepts, and what it reads from them.

  `cemiToLData_eq` is the decoder in closed form: it returns a frame exactly
  for the complete strings, and the frame is `cemiDecoded`.  The fields are
  named by position (`cemiStart`, `cemiControl1`, …), independently of the
  decoder, so that well-formedness can be stated without it.
-/
import BcuSdk.Eibd.Emi
import BcuSdk.Eibd.LpduRoundTrip

namespace BcuSdk.Eibd

open BcuSdk.Lib

/-! ## Fields by position -/

section Fields

variable (data : CArray)

/-- Position of the first control byte, behind the additional information. -/
def cemiStart : Nat := (data.getD 1 0#8).toNat + 2

def cemiControl1 : Byte := data.getD (cemiStart data) 0#8

def cemiControl2 : Byte := data.getD (cemiStart data + 1) 0#8

/-- Number of payload bytes the frame announces. -/
def cemiLength : Nat := (data.getD (6 + cemiStart data) 0#8).toNat + 1

def cemiPayload : CArray := (data.drop (cemiStart data + 7)).take (cemiLength data)

/-- The two priority bits as they stand in the first control byte. -/
def cemiPriorityBits : Byte := (cemiControl1 data >>> 2) &&& 0x3#8

/-- The string holds the additional information, the fixed header and the announced payload. -/
structure CEMIComplete : Prop where
  info : 2 ≤ data.length
  header : 7 + cemiStart data ≤ data.length
  payload : 7 + cemiStart data + cemiLength data ≤ data.length

instance : Decidable (CEMIComplete data) :=
  decidable_of_iff (2 ≤ data.length ∧ 7 + cemiStart data ≤ data.length ∧
      7 + cemiStart data + cemiLength data ≤ data.length)
    ⟨fun ⟨h1, h2, h3⟩ => ⟨h1, h2, h3⟩, fun h => ⟨h.info, h.header, h.payload⟩⟩

/-- Complete, and with a zero format nibble if the frame is marked extended. -/
def CEMIWellFormed : Prop :=
  CEMIComplete data ∧ (cemiControl1 data &&& 0x80#8 = 0#8 → cemiControl2 data &&& 0x0f#8 = 0#8)

/-- What the decoder reads from a complete string. -/
def cemiDecoded : LDataPDU where
  source := word16 (data.getD (cemiStart data + 2) 0#8) (data.getD (cemiStart data + 3) 0#8)
  dest := word16 (data.getD (cemiStart data + 4) 0#8) (data.getD (cemiStart data + 5) 0#8)
  data := cemiPayload data
  repeated := data.getD 0 0#8 = 0x29#8 ∧ cemiControl1 data &&& 0x20#8 = 0#8
  prio := .ofControl (cemiControl1 data)
  hopcount := (cemiControl2 data >>> 4) &&& 0x07#8
  addrType := .ofFlag (cemiControl2 data)

end Fields

/-! ## The decoder in closed form -/

theorem cemiToLData_incomplete {data : CArray} (h : ¬ CEMIComplete data) :
    cemiToLData data = .ok none := by
  have hs : (data.getD 1 0#8).toNat + 2 = cemiStart data := rfl
  unfold cemiToLData
  split
  · rfl
  · next h2 =>
    rw [readByte_getD (by omega), Checked.ok_bind]
    simp only [hs]
    split
    · rfl
    · next h7 =>
      rw [readByte_getD (by omega), Checked.ok_bind, if_pos]
      · rfl
      · by_contra hlen
        exact h ⟨by omega, by omega, by unfold cemiLength; omega⟩

theorem cemiToLData_complete {data : CArray} (h : CEMIComplete data) :
    cemiToLData data = .ok (some (cemiDecoded data)) := by
  have hs : (data.getD 1 0#8).toNat + 2 = cemiStart data := rfl
  have hn : (data.getD (6 + cemiStart data) 0#8).toNat + 1 = cemiLength data := rfl
  have h2 := h.info
  have h7 := h.header
  have hp := h.payload
  have hpay : readSlice data (cemiStart data + 7) (cemiLength data) = .ok (cemiPayload data) :=
    readSlice_of_le (by omega)
  -- the three length tests, then the reads in the order of the source
  unfold cemiToLData
  rw [if_neg (by omega), readByte_getD (by omega), Checked.ok_bind]
  simp only [hs]
  rw [if_neg (by omega), readByte_getD (by omega), Checked.ok_bind, if_neg (by omega)]
  rw [readByte_getD (by omega), readByte_getD (by omega), readByte_getD (by omega),
    readByte_getD (by omega), readByte_getD (by omega), readByte_getD (by omega),
    readByte_getD (by omega)]
  simp only [Checked.ok_bind, hn, hpay, cemiRejectsControl_eq_false]
  rfl

/-- `CEMI_to_L_Data` reads inside its input and decodes exactly the complete strings. -/
theorem cemiToLData_eq (data : CArray) :
    cemiToLData data = .ok (if CEMIComplete data then some (cemiDecoded data) else none) := by
  split
  · next h => exact cemiToLData_complete h
  · next h => exact cemiToLData_incomplete h

theorem cemiToLData_eq_some {data : CArray} {l : LDataPDU} :
    cemiToLData data = .ok (some l) ↔ CEMIComplete data ∧ cemiDecoded data = l := by
  rw [cemiToLData_eq]
  by_cases h : CEMIComplete data <;> simp [h]

theorem CEMIComplete.payload_length {data : CArray} (h : CEMIComplete data) :
    (cemiPayload data).length = cemiLength data := by
  have := h.payload
  rw [cemiPayload, List.length_take, List.length_drop]
  omega

end BcuSdk.Eibd
