/-
  BcuSdk.Lib.BigEndian

  Integers as bytes, the high byte first.

  `bigEndian n v` keeps the low `8 * n` bits of `v`.  Read as a number without
  sign it is `v` modulo `256 ^ n`, and with sign the balanced remainder, so a
  number that is in the range of its type is read back.
-/
import Mathlib.Data.Int.Order.Basic
import Mathlib.Tactic.Positivity
import Mathlib.Tactic.Ring
import BcuSdk.Lib.Bytes

namespace BcuSdk.Lib

/-- The low `n` bytes of a number. -/
def bigEndian : Nat → Int → List Byte
  | 0, _ => []
  | n + 1, v => BitVec.ofInt 8 (v >>> (8 * n)) :: bigEndian n v

/-- The number without sign. -/
def readUnsigned : List Byte → Nat
  | [] => 0
  | b :: bs => b.toNat * 256 ^ bs.length + readUnsigned bs

/-- The number in two's complement. -/
def readSigned (bs : List Byte) : Int := Int.bmod (readUnsigned bs) (256 ^ bs.length)

@[simp] theorem length_bigEndian (n : Nat) (v : Int) : (bigEndian n v).length = n := by
  induction n with
  | zero => rfl
  | succ n ih => rw [bigEndian, List.length_cons, ih]

theorem readUnsigned_bigEndian (n : Nat) (v : Int) :
    (readUnsigned (bigEndian n v) : Int) = v % 256 ^ n := by
  induction n with
  | zero =>
      rw [pow_zero, Int.emod_one]
      rfl
  | succ n ih =>
      have hbyte : ((BitVec.ofInt 8 (v >>> (8 * n))).toNat : Int) = v / 256 ^ n % 256 := by
        have hpow : (2 : Int) ^ (8 * n) = 256 ^ n := by rw [pow_mul]; norm_num
        rw [BitVec.toNat_ofInt, Int.shiftRight_eq_div_pow]
        push_cast
        rw [hpow, Int.toNat_of_nonneg (Int.emod_nonneg _ (by decide))]
      have hsplit : v % (256 ^ n * 256) = v % 256 ^ n + 256 ^ n * (v / 256 ^ n % 256) := by
        rw [Int.emod_def v, Int.emod_def v, Int.emod_def (v / 256 ^ n),
          Int.ediv_ediv_of_nonneg (by positivity)]
        ring
      rw [bigEndian, readUnsigned, length_bigEndian]
      push_cast
      rw [hbyte, ih, pow_succ, hsplit]
      ring

/-- A number that has room in `n` bytes without a sign. -/
theorem readUnsigned_bigEndian_of_lt {n : Nat} {v : Int} (h₀ : 0 ≤ v) (h : v < 256 ^ n) :
    (readUnsigned (bigEndian n v) : Int) = v := by
  rw [readUnsigned_bigEndian, Int.emod_eq_of_lt h₀ h]

/-- A number that has room in `n` bytes with a sign. -/
theorem readSigned_bigEndian_of_le {n : Nat} {v : Int} (hlow : -256 ^ n ≤ v * 2)
    (hhigh : v * 2 < 256 ^ n) : readSigned (bigEndian n v) = v := by
  rw [readSigned, readUnsigned_bigEndian, length_bigEndian]
  have hmod : Int.bmod (v % 256 ^ n) (256 ^ n) = Int.bmod v (256 ^ n) := by
    have := Int.emod_bmod v (256 ^ n)
    push_cast at this
    exact this
  rw [hmod]
  exact Int.bmod_eq_of_le_mul_two (by push_cast; exact hlow) (by push_cast; exact hhigh)

end BcuSdk.Lib
