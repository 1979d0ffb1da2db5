/-
  BcuSdk.Lib.Bytes

  Bytes, big-endian 16-bit words and the xor check byte of a byte list.

  A byte is a `BitVec 8`.  The packing lemmas say what a field read back out
  of a packed byte is, so that a codec proof rewrites with them and never
  looks at single bits itself.
-/
import Mathlib.Tactic.IntervalCases
import Mathlib.Data.List.Basic

namespace BcuSdk.Lib

/-- An unsigned 8-bit value. -/
abbrev Byte := BitVec 8

/-- An unsigned 16-bit value. -/
abbrev Word16 := BitVec 16

/-- An unsigned 32-bit value. -/
abbrev Word32 := BitVec 32

/-! ## Big-endian words -/

/-- `(hi << 8) | lo`. -/
def word16 (hi lo : Byte) : Word16 := (hi.setWidth 16 <<< 8) ||| lo.setWidth 16

/-- `(w >> 8) & 0xff`. -/
def hiByte (w : Word16) : Byte := (w >>> 8).setWidth 8

/-- `w & 0xff`. -/
def loByte (w : Word16) : Byte := w.setWidth 8

@[simp] theorem word16_hiByte_loByte (w : Word16) : word16 (hiByte w) (loByte w) = w := by
  unfold word16 hiByte loByte
  ext i hi
  interval_cases i <;> simp

@[simp] theorem hiByte_word16 (hi lo : Byte) : hiByte (word16 hi lo) = hi := by
  unfold word16 hiByte
  ext i hi
  interval_cases i <;> simp

@[simp] theorem loByte_word16 (hi lo : Byte) : loByte (word16 hi lo) = lo := by
  unfold word16 loByte
  ext i hi
  interval_cases i <;> simp

/-- `(b3 << 24) | (b2 << 16) | (b1 << 8) | b0`. -/
def word32 (b3 b2 b1 b0 : Byte) : Word32 :=
  (b3.setWidth 32 <<< 24) ||| (b2.setWidth 32 <<< 16) ||| (b1.setWidth 32 <<< 8) |||
    b0.setWidth 32

/-- Byte `k` of a 32-bit word, `(w >> 8k) & 0xff`. -/
def byteOf (w : Word32) (k : Nat) : Byte := (w >>> (8 * k)).setWidth 8

@[simp] theorem word32_byteOf (w : Word32) :
    word32 (byteOf w 3) (byteOf w 2) (byteOf w 1) (byteOf w 0) = w := by
  unfold word32 byteOf
  ext i hi
  interval_cases i <;> simp

/-- The bytes of a packed word, from the highest down. -/
theorem byteOf_word32 (b3 b2 b1 b0 : Byte) :
    byteOf (word32 b3 b2 b1 b0) 3 = b3 ∧ byteOf (word32 b3 b2 b1 b0) 2 = b2 ∧
      byteOf (word32 b3 b2 b1 b0) 1 = b1 ∧ byteOf (word32 b3 b2 b1 b0) 0 = b0 := by
  unfold word32 byteOf
  refine ⟨?_, ?_, ?_, ?_⟩ <;>
    · ext i hi
      interval_cases i <;> simp

/-! ## Masks -/

section Masks

variable {w : Nat} {b m k l : BitVec w}

/-- Where one mask finds no bit, the mask with all other bits changes nothing. -/
theorem and_eq_self_of_and_eq_zero (h : b &&& m = 0#w) (hmk : m ||| k = BitVec.allOnes w) :
    b &&& k = b := by
  calc b &&& k = (b &&& m) ||| (b &&& k) := by rw [h, BitVec.zero_or]
    _ = b &&& (m ||| k) := BitVec.and_or_distrib_left.symm
    _ = b := by rw [hmk, BitVec.and_allOnes]

/-- Three masks with all bits take a value apart. -/
theorem and_or_and_or_and (b : BitVec w) (h : m ||| k ||| l = BitVec.allOnes w) :
    b &&& m ||| b &&& k ||| b &&& l = b := by
  rw [← BitVec.and_or_distrib_left, ← BitVec.and_or_distrib_left, h, BitVec.and_allOnes]

/-- A single bit is set or not. -/
theorem and_twoPow_cases (b : BitVec w) (i : Nat) :
    b &&& BitVec.twoPow w i = 0#w ∨ b &&& BitVec.twoPow w i = BitVec.twoPow w i := by
  rw [BitVec.and_twoPow]
  split
  · exact .inr rfl
  · exact .inl rfl

theorem toNat_and_le (b m : BitVec w) : (b &&& m).toNat ≤ m.toNat := by
  rw [BitVec.toNat_and]
  exact Nat.and_le_right

/-- What holds of every number below a bound holds of a value below it. -/
theorem of_toNat_lt {p : BitVec w → Prop} {n : Nat} (h : ∀ i < n, p (BitVec.ofNat w i))
    (hb : b.toNat < n) : p b := by
  have hp := h b.toNat hb
  rwa [BitVec.ofNat_toNat, BitVec.setWidth_eq] at hp

end Masks

theorem and_7_of_and_f8 {b : Byte} (h : b &&& 0xf8#8 = 0#8) : b &&& 0x07#8 = b :=
  and_eq_self_of_and_eq_zero h rfl

theorem and_0f_of_and_f0 {b : Byte} (h : b &&& 0xf0#8 = 0#8) : b &&& 0x0f#8 = b :=
  and_eq_self_of_and_eq_zero h rfl

theorem and_3f_of_and_c0 {b : Byte} (h : b &&& 0xc0#8 = 0#8) : b &&& 0x3f#8 = b :=
  and_eq_self_of_and_eq_zero h rfl

/-- `BitVec.ofNat 8` does nothing to a length that fits a byte. -/
theorem toNat_ofNat_byte {n : Nat} (h : n < 256) : (BitVec.ofNat 8 n).toNat = n := by
  rw [BitVec.toNat_ofNat]
  exact Nat.mod_eq_of_lt h

/-- Masking a small length with `0x0f` gives it back. -/
theorem toNat_ofNat_and_0f {n : Nat} (h : n < 16) :
    (BitVec.ofNat 8 n &&& 0x0f#8 : Byte).toNat = n := by
  interval_cases n <;> rfl

/-! ## Check bytes -/

/-- The running `c ^= pdu[i]` over a byte list. -/
def xorBytes (bs : List Byte) : Byte := bs.foldl (· ^^^ ·) 0

/-- The running `c += pdu[i]` over a byte list. -/
def sumBytes (bs : List Byte) : Byte := bs.foldl BitVec.add 0#8

end BcuSdk.Lib
