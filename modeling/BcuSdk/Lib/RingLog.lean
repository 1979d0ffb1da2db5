/-
  BcuSdk.Lib.RingLog

  A ring of `n` slots into which a history is written entry by entry: slot
  `i % n` has entry `i` as long as fewer than `n` newer ones exist.

  A counter of `w` bits finds the slot of the next entry even when it has
  wrapped around, if the ring divides its range.
-/
import Mathlib.Data.List.Basic
import Mathlib.Data.Nat.ModEq

namespace BcuSdk.Lib

variable {α : Type} {n : Nat}

/-- The ring has the last `n` entries of the history. -/
def RingHolds (ring : Vector α n) (history : List α) : Prop :=
  ∀ i (hi : i < history.length), history.length ≤ i + n → ring[i % n]? = some history[i]

theorem RingHolds.nil (ring : Vector α n) : RingHolds ring [] :=
  fun _ hi => absurd hi (Nat.not_lt_zero _)

/-- The next entry overwrites the oldest one. -/
theorem RingHolds.push {ring : Vector α n} {history : List α} (h : RingHolds ring history)
    {slot : Nat} (hslot : slot < n) (hnext : slot = history.length % n) (a : α) :
    RingHolds (ring.set slot a hslot) (history ++ [a]) := by
  intro i hi hold
  rw [List.length_append, List.length_singleton] at hi hold
  rcases Nat.lt_or_eq_of_le (Nat.le_of_lt_succ hi) with hlt | rfl
  · -- an older entry that is still held is in another slot
    have hne : slot ≠ i % n := by
      intro heq
      have hmod : (history.length - i) % n = 0 :=
        Nat.sub_mod_eq_zero_of_mod_eq (hnext.symm.trans heq)
      rw [Nat.mod_eq_of_lt (by omega)] at hmod
      omega
    rw [Vector.getElem?_set_ne hslot hne, h i hlt (by omega), List.getElem_append_left hlt]
  · rw [← hnext, Vector.getElem?_set_self hslot, List.getElem_concat_length rfl]

/-- A wrapping counter points at the slot of its true value. -/
theorem toNat_ofNat_mod {w : Nat} (hn : n ∣ 2 ^ w) (count : Nat) :
    (BitVec.ofNat w count).toNat % n = count % n := by
  rw [BitVec.toNat_ofNat, Nat.mod_mod_of_dvd _ hn]

end BcuSdk.Lib
