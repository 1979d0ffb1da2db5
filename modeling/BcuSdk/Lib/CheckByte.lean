/-
  BcuSdk.Lib.CheckByte

  The xor of all bytes of a frame, and frames with one byte damaged.

  `xorBytes_append` is the one fact about the running xor.  From it, two byte
  strings that differ in one byte have different xors, wherever the byte
  stands.
-/
import BcuSdk.Lib.Bytes

namespace BcuSdk.Lib

/-! ## The running xor -/

theorem foldl_xor (start : Byte) (bs : List Byte) :
    bs.foldl (· ^^^ ·) start = start ^^^ xorBytes bs := by
  induction bs generalizing start with
  | nil => simp [xorBytes]
  | cons b bs ih =>
      -- both sides move `b` into the start value
      have hzero : (0 : Byte) ^^^ b = b := BitVec.zero_xor
      rw [xorBytes, List.foldl_cons, List.foldl_cons, ih, ih (0 ^^^ b), hzero, BitVec.xor_assoc]

theorem xorBytes_cons (b : Byte) (bs : List Byte) : xorBytes (b :: bs) = b ^^^ xorBytes bs := by
  rw [xorBytes, List.foldl_cons, foldl_xor, show (0 : Byte) ^^^ b = b from BitVec.zero_xor]

theorem xorBytes_append (xs ys : List Byte) :
    xorBytes (xs ++ ys) = xorBytes xs ^^^ xorBytes ys := by
  rw [xorBytes, List.foldl_append, foldl_xor]
  rfl

/-- A last byte that complements the xor of the bytes before it makes the whole xor `0xff`. -/
theorem xorBytes_append_eq_ff (body : List Byte) (last : Byte) :
    xorBytes (body ++ [last]) = 0xff#8 ↔ last = ~~~(xorBytes body) := by
  have hlast : xorBytes [last] = last := by simp [xorBytes]
  rw [xorBytes_append, hlast]
  generalize xorBytes body = x
  constructor
  · intro h
    have hx : x ^^^ (x ^^^ last) = x ^^^ 0xff#8 := by rw [h]
    rw [← BitVec.xor_assoc, BitVec.xor_self, BitVec.zero_xor] at hx
    rw [hx]
    exact BitVec.xor_allOnes
  · rintro rfl
    rw [← BitVec.xor_allOnes, ← BitVec.xor_assoc, BitVec.xor_self, BitVec.zero_xor]
    rfl

/-! ## One damaged byte -/

/-- `q` has the length of `p` and differs from it at exactly one place. -/
def DiffersInOneByte (p q : List Byte) : Prop :=
  ∃ before b b' after, b ≠ b' ∧ p = before ++ b :: after ∧ q = before ++ b' :: after

/-- The damage shows in the xor. -/
theorem DiffersInOneByte.xorBytes_ne {p q : List Byte} (h : DiffersInOneByte p q) :
    xorBytes p ≠ xorBytes q := by
  obtain ⟨before, b, b', after, hne, rfl, rfl⟩ := h
  rw [xorBytes_append, xorBytes_append, xorBytes_cons, xorBytes_cons]
  intro heq
  exact hne ((BitVec.xor_left_inj _).mp ((BitVec.xor_right_inj _).mp heq))

end BcuSdk.Lib
