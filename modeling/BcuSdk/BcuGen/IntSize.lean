/-
  BcuSdk.BcuGen.IntSize

  Whether the type of an `IntParameter` has room for its values.

  `CheckIntParameter` takes the type from the amount of `MinValue` alone: the
  larger of the two amounts is put into a variable that is not read again.
  The declaration (`inttype`) and the bytes that `PatchImage` stores agree
  about the width, so the type is wide enough exactly when both bounds have
  room in it.
-/
import BcuSdk.Lib.BigEndian
import BcuSdk.BcuGen.Check
import BcuSdk.BcuGen.ImageEdit

namespace BcuSdk.BcuGen.Description

open BcuSdk.Lib BcuSdk.Common

/-! ## The types -/

/-- An integer type, as the target has it. -/
structure IntType where
  name : String
  signed : Bool
  bytes : Nat
  deriving DecidableEq, Repr

def utypes : List IntType :=
  [{ name := "unsigned char", signed := false, bytes := 1 },
    { name := "unsigned short", signed := false, bytes := 2 },
    { name := "unsigned long", signed := false, bytes := 4 },
    { name := "unsigned long long", signed := false, bytes := 8 }]

def stypes : List IntType :=
  [{ name := "signed char", signed := true, bytes := 1 },
    { name := "signed short", signed := true, bytes := 2 },
    { name := "signed long", signed := true, bytes := 4 },
    { name := "signed long long", signed := true, bytes := 8 }]

/-- `types[i]`. -/
def typeAt (types : List IntType) (i : Int) : Checked IntType :=
  match i with
  | .ofNat n => match types[n]? with
    | some t => .ok t
    | none => .error .outOfBounds
  | .negSucc _ => .error .outOfBounds

/-- `inttype`. -/
def inttype (i : Int) : Checked IntType :=
  if i > 0 then typeAt utypes (i - 1) else typeAt stypes (-i - 1)

namespace IntType

/-- The value is one of the type. -/
def Holds (t : IntType) (v : Int) : Prop :=
  if t.signed then -256 ^ t.bytes ≤ v * 2 ∧ v * 2 < 256 ^ t.bytes else 0 ≤ v ∧ v < 256 ^ t.bytes

/-- What a variable of the type has for a value when these bytes are in its place. -/
def read (t : IntType) (bs : List Byte) : Int :=
  if t.signed then readSigned bs else readUnsigned bs

theorem read_bigEndian {t : IntType} {v : Int} (h : t.Holds v) :
    t.read (bigEndian t.bytes v) = v := by
  rw [Holds] at h
  rw [read]
  split at h
  · next hsigned => rw [if_pos hsigned, readSigned_bigEndian_of_le h.1 h.2]
  · next hsigned => rw [if_neg hsigned, readUnsigned_bigEndian_of_lt h.1 h.2]

/-- What lies between two values of the type is one, too. -/
theorem Holds.between {t : IntType} {u v w : Int} (hu : t.Holds u) (hw : t.Holds w) (huv : u ≤ v)
    (hvw : v ≤ w) : t.Holds v := by
  rw [Holds] at *
  split at hu
  · next hsigned =>
    rw [if_pos hsigned] at hw ⊢
    exact ⟨by omega, by omega⟩
  · next hsigned =>
    rw [if_neg hsigned] at hw ⊢
    exact ⟨by omega, by omega⟩

end IntType

/-! ## The bytes -/

/-- The code that the image has for a parameter with this `SIZE`. -/
def typeByte (size : Int) : Byte := BitVec.ofInt 8 size

/-- A `SIZE` that `inttype` and `PatchImage` both understand, and in the same way. -/
def Agreed (size : Int) (t : IntType) : Prop :=
  inttype size = .ok t ∧ ∀ (l : STRIntParameter) (p : BcuGen.IntParameter),
    l.type = typeByte size → p.valueLineno ≠ 0 → p.bytes l = .ok (bigEndian t.bytes p.value)

theorem agreed_of_lt {size : Int} (hlow : -4 ≤ size) (hhigh : size ≤ 4) (h : size ≠ 0) :
    ∃ t, Agreed size t ∧ t.signed = decide (size < 0) ∧ t.bytes = 2 ^ (size.natAbs - 1) := by
  obtain rfl | rfl | rfl | rfl | rfl | rfl | rfl | rfl : size = -4 ∨ size = -3 ∨ size = -2 ∨
      size = -1 ∨ size = 1 ∨ size = 2 ∨ size = 3 ∨ size = 4 := by omega
  all_goals
    refine ⟨_, ⟨rfl, ?_⟩, rfl, rfl⟩
    intro l p htype hvalue
    simp [BcuGen.IntParameter.bytes, htype, hvalue, typeByte, bigEndian, shiftedByte]

/-! ## The values of a parameter -/

/-- Every value within the bounds is one of the declared type, and is read back from the image. -/
def NothingTruncated (o : IntParameter) : Prop :=
  ∀ v, o.minValue ≤ v → v ≤ o.maxValue →
    ∃ t, inttype o.size = .ok t ∧ t.Holds v ∧
      ∀ (l : STRIntParameter) (p : BcuGen.IntParameter),
        l.type = typeByte o.size → p.valueLineno ≠ 0 → p.value = v →
          ∃ bytes, p.bytes l = .ok bytes ∧ t.read bytes = v

/-- It depends on the two bounds. -/
theorem nothingTruncated_iff {o : IntParameter} {t : IntType} (ht : Agreed o.size t)
    (hle : o.minValue ≤ o.maxValue) :
    NothingTruncated o ↔ t.Holds o.minValue ∧ t.Holds o.maxValue := by
  obtain ⟨htype, hbytes⟩ := ht
  constructor
  · intro h
    have hbound : ∀ v, o.minValue ≤ v → v ≤ o.maxValue → t.Holds v := by
      intro v hlow hhigh
      obtain ⟨t', ht', hholds, -⟩ := h v hlow hhigh
      rw [htype] at ht'
      cases ht'
      exact hholds
    exact ⟨hbound _ le_rfl hle, hbound _ hle le_rfl⟩
  · rintro ⟨hmin, hmax⟩ v hlow hhigh
    have hv : t.Holds v := hmin.between hmax hlow hhigh
    refine ⟨t, htype, hv, ?_⟩
    intro l p hl hvalue hp
    exact ⟨bigEndian t.bytes p.value, hbytes l p hl hvalue, by rw [hp, t.read_bigEndian hv]⟩

section

variable (b : Build) (other : Int → BitVec 32) (d : Device)

/-- The type for the amount of `MinValue` has room for `MinValue` itself and for `MaxValue`. -/
def Covered (minValue maxValue : Int) : Prop :=
  let i := (absInt other minValue).toInt
  if minValue < 0 then
    if i ≤ 127 then -128 ≤ minValue ∧ maxValue ≤ 127
    else if i ≤ 32767 then -32768 ≤ minValue ∧ maxValue ≤ 32767
    else -2147483648 ≤ minValue ∧ maxValue ≤ 2147483647
  else
    if i ≤ 255 then maxValue ≤ 255
    else if i ≤ 65535 then maxValue ≤ 65535
    else maxValue ≤ 4294967295

/-- The code for 8 bytes is never chosen. -/
theorem sizeCode_eq (minValue maxValue : Int) :
    sizeCode other minValue maxValue =
      if minValue < 0 then
        if (absInt other minValue).toInt ≤ 127 then -1
        else if (absInt other minValue).toInt ≤ 32767 then -2 else -3
      else
        if (absInt other minValue).toInt ≤ 255 then 1
        else if (absInt other minValue).toInt ≤ 65535 then 2 else 3 := by
  have hint : (absInt other minValue).toInt ≤ 2147483647 := by
    have := BitVec.toInt_lt (x := absInt other minValue)
    omega
  have hnat : (absInt other minValue).toNat ≤ 4294967295 := by
    have := (absInt other minValue).isLt
    omega
  rw [sizeCode, if_pos hint, if_pos hnat]

theorem exists_agreed_of_code {size minValue maxValue : Int} {c : Prop} (hlow : -4 ≤ size)
    (hhigh : size ≤ 4) (h : size ≠ 0)
    (hc : ∀ t : IntType, t.signed = decide (size < 0) → t.bytes = 2 ^ (size.natAbs - 1) →
      (t.Holds minValue ∧ t.Holds maxValue ↔ c)) :
    ∃ t, Agreed size t ∧ (t.Holds minValue ∧ t.Holds maxValue ↔ c) := by
  obtain ⟨t, ht, hsigned, hbytes⟩ := agreed_of_lt hlow hhigh h
  exact ⟨t, ht, hc t hsigned hbytes⟩

/-- The type that is found, and when it holds the bounds. -/
theorem exists_agreed {minValue maxValue : Int} (hle : minValue ≤ maxValue) :
    ∃ t, Agreed (sizeCode other minValue maxValue) t ∧
      (t.Holds minValue ∧ t.Holds maxValue ↔ Covered other minValue maxValue) := by
  rw [sizeCode_eq, Covered]
  split_ifs
  all_goals
    apply exists_agreed_of_code (by decide) (by decide) (by decide)
    intro t hsigned hbytes
    simp only [IntType.Holds, hsigned, hbytes]
    norm_num
    omega

/-- The part under `CHECK1` changes neither bound. -/
theorem IntParameter.bounds_of_check1 {o o' : IntParameter} {s s' : Symbols}
    (h : o.check1 d s = .ok (o', s')) : o'.minValue = o.minValue ∧ o'.maxValue = o.maxValue := by
  rw [check1] at h
  obtain ⟨⟨id, s₁⟩, -, h⟩ := bind_eq_ok.mp (of_four_guards h)
  cases h
  split
  · exact ⟨rfl, rfl⟩
  · exact ⟨rfl, rfl⟩

/-- What the check leaves of the bounds, and the code it finds. -/
theorem of_checkIntParameter {o o' : IntParameter} {s s' : Symbols}
    (h : checkIntParameter b other d o s = .ok (o', s')) :
    o.minValue ≤ o.maxValue ∧ o'.minValue = o.minValue ∧ o'.maxValue = o.maxValue ∧
      o'.size = sizeCode other o.minValue o.maxValue := by
  rw [checkIntParameter] at h
  obtain ⟨-, h⟩ := of_guard h
  obtain ⟨-, h⟩ := of_guard h
  obtain ⟨-, h⟩ := of_guard h
  obtain ⟨hle, h⟩ := of_guard h
  obtain ⟨⟨o₁, s₁⟩, hcheck1, h⟩ := bind_eq_ok.mp h
  obtain ⟨-, -, h⟩ := bind_eq_ok.mp h
  cases h
  have hbounds : o₁.minValue = o.minValue ∧ o₁.maxValue = o.maxValue := by
    split at hcheck1
    · exact IntParameter.bounds_of_check1 d hcheck1
    · cases hcheck1
      exact ⟨rfl, rfl⟩
  refine ⟨by omega, hbounds.1, hbounds.2, ?_⟩
  show sizeCode other o₁.minValue o₁.maxValue = _
  rw [hbounds.1, hbounds.2]

/-- An `IntParameter` that is accepted has room for all its values exactly when the type for its
`MinValue` covers both bounds. -/
theorem nothingTruncated_iff_covered {o o' : IntParameter} {s s' : Symbols}
    (h : checkIntParameter b other d o s = .ok (o', s')) :
    NothingTruncated o' ↔ Covered other o.minValue o.maxValue := by
  obtain ⟨hle, hmin, hmax, hsize⟩ := of_checkIntParameter b other d h
  obtain ⟨t, ht, hcovered⟩ := exists_agreed other hle
  rw [← hsize] at ht
  rw [nothingTruncated_iff ht (by rw [hmin, hmax]; exact hle), hmin, hmax, hcovered]

end

/-- A parameter from 0 to `maxValue`. -/
def upTo (maxValue : Int) : IntParameter where
  lineno := 2
  name := some typeSuffix
  minValueLineno := 3
  maxValue := maxValue
  maxValueLineno := 4
  title := some typeSuffix
  defaultLineno := 5

theorem nothingTruncated_iff_covered_upTo :
    NothingTruncated { upTo 200 with valueLineno := 5, size := 1 } ↔
      Covered (fun _ => 0) 0 200 :=
  nothingTruncated_iff_covered { check1 := true, check2 := false } (fun _ => 0) {} (o := upTo 200)
    (s := Symbols.none) rfl

/-- 1000 is put into an `unsigned char`. -/
theorem upTo_truncated : ∃ o' s',
    checkIntParameter { check1 := true, check2 := false } (fun _ => 0) {} (upTo 1000)
      Symbols.none = .ok (o', s') ∧ ¬ NothingTruncated o' := by
  refine ⟨{ upTo 1000 with valueLineno := 5, size := 1 }, _, rfl, ?_⟩
  intro h
  obtain ⟨t, ht, hholds, -⟩ := h 1000 (by decide) (by decide)
  cases ht
  revert hholds
  simp [IntType.Holds]

end BcuSdk.BcuGen.Description
