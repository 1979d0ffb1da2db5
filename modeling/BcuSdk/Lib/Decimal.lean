/-
  BcuSdk.Lib.Decimal

  Numbers as decimal text (`%d` for a number that is not negative).
-/
import BcuSdk.Lib.CString

namespace BcuSdk.Lib

/-- The code of a character below 256. -/
def charByte (c : Char) : Byte := BitVec.ofNat 8 c.toNat

def decimal (n : Nat) : List Byte := (Nat.toDigits 10 n).map charByte

theorem toNat_charByte {c : Char} (h : c.isDigit) : (charByte c).toNat = c.toNat := by
  have hle : c.toNat ≤ 57 := (Char.isDigit_iff_toNat.mp h).2
  rw [charByte, BitVec.toNat_ofNat, Nat.mod_eq_of_lt (by omega)]

theorem nul_notMem_decimal (n : Nat) : 0#8 ∉ decimal n := by
  intro hmem
  obtain ⟨c, hc, hzero⟩ := List.mem_map.mp hmem
  have hdigit : c.isDigit := Nat.isDigit_of_mem_toDigits (by decide) (by decide) hc
  have hlow : 48 ≤ c.toNat := (Char.isDigit_iff_toNat.mp hdigit).1
  have hnat : c.toNat = 0 := by rw [← toNat_charByte hdigit, hzero]; rfl
  omega

/-- The digits are read back from their codes. -/
theorem map_decimal (n : Nat) :
    (decimal n).map (fun b => Char.ofNat b.toNat) = Nat.toDigits 10 n := by
  have hback : ∀ c ∈ Nat.toDigits 10 n, Char.ofNat (charByte c).toNat = c := by
    intro c hc
    rw [toNat_charByte (Nat.isDigit_of_mem_toDigits (by decide) (by decide) hc), Char.ofNat_toNat]
  rw [decimal, List.map_map]
  exact (List.map_congr_left hback).trans (List.map_id _)

theorem decimal_injective : Function.Injective decimal := by
  intro m n h
  have hdigits : Nat.toDigits 10 m = Nat.toDigits 10 n := by
    rw [← map_decimal, h, map_decimal]
  calc
    m = Nat.ofDigitChars 10 (Nat.toDigits 10 m) 0 := Nat.ofDigitChars_ten_toDigits.symm
    _ = Nat.ofDigitChars 10 (Nat.toDigits 10 n) 0 := by rw [hdigits]
    _ = n := Nat.ofDigitChars_ten_toDigits

end BcuSdk.Lib
