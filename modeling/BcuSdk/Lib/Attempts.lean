/-
  BcuSdk.Lib.Attempts

  A sender that tries the element in front of its queue until it gets through.

  An attempt may fail, and then the same element is tried again before any
  other.  What is tried is, in the order of the queue, each element that gets
  through some number of times, and at its end the one that has not got through
  yet: at least once, and in order.
-/
import Mathlib.Data.List.Basic

namespace BcuSdk.Lib

variable {α : Type} {tried done : List α} {pending : Option α} {a : α}

/-- `tried` and `done` are what has been tried and what has got through, `pending` what has been
    tried last and has not got through. -/
inductive Attempts : List α → List α → Option α → Prop
  | nil : Attempts [] [] none
  | again {tried done : List α} {pending : Option α} {a : α} (h : Attempts tried done pending)
      (ha : ∀ b ∈ pending, b = a) : Attempts (tried ++ [a]) done (some a)
  | done {tried done : List α} {a : α} (h : Attempts tried done (some a)) :
      Attempts tried (done ++ [a]) none

namespace Attempts

/-- `n + 1` attempts at an element. -/
def block (n : Nat) (a : α) : List α := List.replicate (n + 1) a

theorem block_snoc (n : Nat) (a : α) : block n a ++ [a] = block (n + 1) a :=
  List.replicate_succ'.symm

/-- Each element that has got through has been tried some number of times, one after the other, and
    behind them the pending one. -/
theorem blocks (h : Attempts tried done pending) :
    ∃ ns : List Nat, ns.length = done.length ∧
      ∃ m, tried = (List.zipWith block ns done).flatten ++ pending.toList.flatMap (block m) := by
  induction h with
  | nil => exact ⟨[], rfl, 0, rfl⟩
  | @again tried done pending a h ha ih =>
      obtain ⟨ns, hlen, m, rfl⟩ := ih
      cases pending with
      | none =>
          refine ⟨ns, hlen, 0, ?_⟩
          simp [block]
      | some b =>
          obtain rfl : b = a := ha b rfl
          refine ⟨ns, hlen, m + 1, ?_⟩
          simp [← block_snoc]
  | @done tried done a h ih =>
      obtain ⟨ns, hlen, m, rfl⟩ := ih
      refine ⟨ns ++ [m], by simp [hlen], 0, ?_⟩
      rw [List.zipWith_append hlen]
      simp

end Attempts

end BcuSdk.Lib
