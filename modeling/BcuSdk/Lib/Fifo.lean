/-
  BcuSdk.Lib.Fifo

  A FIFO channel that may lose an element or repeat it next to itself.

  The channel is the list of what is under way, oldest first.  Both faults
  keep every order the elements are in, so a sender whose stamps only grow is
  seen by the receiver with stamps that only grow.
-/
import Mathlib.Data.List.Basic

namespace BcuSdk.Lib

variable {α : Type} {R : α → α → Prop}

/-- The element at position `i` is lost. -/
def lose (i : Nat) (c : List α) : List α := c.eraseIdx i

/-- The element at position `i` is there twice. -/
def duplicate (i : Nat) (c : List α) : List α := c.take (i + 1) ++ c.drop i

theorem mem_of_mem_lose {i : Nat} {c : List α} {a : α} (h : a ∈ lose i c) : a ∈ c :=
  (List.eraseIdx_sublist c i).subset h

theorem mem_of_mem_duplicate {i : Nat} {c : List α} {a : α} (h : a ∈ duplicate i c) : a ∈ c := by
  rcases List.mem_append.mp h with h | h
  · exact List.mem_of_mem_take h
  · exact List.mem_of_mem_drop h

theorem pairwise_lose {i : Nat} {c : List α} (h : c.Pairwise R) : (lose i c).Pairwise R :=
  h.sublist (List.eraseIdx_sublist c i)

/-- A repeated element stands next to its original, so a reflexive order is kept. -/
theorem pairwise_duplicate (hrefl : ∀ a, R a a) {i : Nat} {c : List α} (h : c.Pairwise R) :
    (duplicate i c).Pairwise R := by
  induction c generalizing i with
  | nil => simp [duplicate]
  | cons a c ih =>
      obtain ⟨ha, hc⟩ := List.pairwise_cons.mp h
      cases i with
      | zero =>
          have : duplicate 0 (a :: c) = a :: a :: c := by simp [duplicate]
          rw [this]
          refine List.pairwise_cons.mpr ⟨fun b hb => ?_, h⟩
          rcases List.mem_cons.mp hb with rfl | hb
          · exact hrefl b
          · exact ha b hb
      | succ i =>
          have : duplicate (i + 1) (a :: c) = a :: duplicate i c := by simp [duplicate]
          rw [this]
          exact List.pairwise_cons.mpr ⟨fun b hb => ha b (mem_of_mem_duplicate hb), ih hc⟩

/-- A new element that comes after all others. -/
theorem pairwise_snoc {c : List α} {a : α} (h : c.Pairwise R) (ha : ∀ b ∈ c, R b a) :
    (c ++ [a]).Pairwise R := by
  refine List.pairwise_append.mpr ⟨h, List.pairwise_singleton R a, fun b hb x hx => ?_⟩
  cases List.mem_singleton.mp hx
  exact ha b hb

end BcuSdk.Lib
