/-
  BcuSdk.Lib.ExchangeSort

  Sorting by exchanges: every element is compared with each one behind it, and
  the two change places if they are in the wrong order.

  `sift` is one pass of the inner loop, for the element in front; behind it the
  smallest element is in front and nothing has been lost.  `exchangeSort` of
  elements with different keys is ascending.
-/
import BcuSdk.Lib.SortedTable

namespace BcuSdk.Lib

variable {α κ : Type} [LinearOrder κ] {key : α → κ} {x : α} {xs : List α}

/-- `for (j = i + 1; …)`: what stands at `i` in the end, and what stands behind it. -/
def sift (key : α → κ) : α → List α → α × List α
  | x, [] => (x, [])
  | x, y :: ys =>
      if key y < key x then
        let (least, rest) := sift key y ys
        (least, x :: rest)
      else
        let (least, rest) := sift key x ys
        (least, y :: rest)

theorem sift_of_lt {y : α} {ys : List α} (h : key y < key x) :
    sift key x (y :: ys) = ((sift key y ys).1, x :: (sift key y ys).2) := if_pos h

theorem sift_of_not_lt {y : α} {ys : List α} (h : ¬ key y < key x) :
    sift key x (y :: ys) = ((sift key x ys).1, y :: (sift key x ys).2) := if_neg h

/-- An exchange loses nothing. -/
theorem sift_perm (key : α → κ) (x : α) (xs : List α) :
    ((sift key x xs).1 :: (sift key x xs).2).Perm (x :: xs) := by
  induction xs generalizing x with
  | nil => exact .refl _
  | cons y ys ih =>
      by_cases h : key y < key x
      · rw [sift_of_lt h]
        exact (List.Perm.swap x _ _).trans ((ih y).cons x)
      · rw [sift_of_not_lt h]
        exact (List.Perm.swap y _ _).trans (((ih x).cons y).trans (List.Perm.swap x y ys))

@[simp] theorem length_sift (key : α → κ) (x : α) (xs : List α) :
    (sift key x xs).2.length = xs.length := by
  have h := (sift_perm key x xs).length_eq
  rw [List.length_cons, List.length_cons] at h
  exact Nat.succ.inj h

/-- What stands in front has the smallest key. -/
theorem sift_le (x : α) (xs : List α) : ∀ y ∈ x :: xs, key (sift key x xs).1 ≤ key y := by
  induction xs generalizing x with
  | nil =>
      intro y hy
      rw [List.mem_singleton.mp hy]
      exact le_refl _
  | cons z zs ih =>
      by_cases h : key z < key x
      · rw [sift_of_lt h]
        rintro y (_ | ⟨_, hy⟩)
        · exact (ih z z (List.mem_cons_self ..)).trans h.le
        · exact ih z y hy
      · rw [sift_of_not_lt h]
        rintro y (_ | ⟨_, hy⟩)
        · exact ih x x (List.mem_cons_self ..)
        · rcases List.mem_cons.mp hy with rfl | hy
          · exact (ih x x (List.mem_cons_self ..)).trans (not_lt.mp h)
          · exact ih x y (List.mem_cons_of_mem _ hy)

/-- The passes of the outer loop that are left. -/
def sortFrom (key : α → κ) : Nat → List α → List α
  | n + 1, x :: xs => (sift key x xs).1 :: sortFrom key n (sift key x xs).2
  | _, _ => []

/-- `Array::sort`. -/
def exchangeSort (key : α → κ) (xs : List α) : List α := sortFrom key xs.length xs

theorem exchangeSort_cons (key : α → κ) (x : α) (xs : List α) :
    exchangeSort key (x :: xs) = (sift key x xs).1 :: exchangeSort key (sift key x xs).2 := by
  rw [exchangeSort, List.length_cons, sortFrom, exchangeSort, length_sift]

theorem exchangeSort_perm (key : α → κ) (xs : List α) : (exchangeSort key xs).Perm xs := by
  induction hn : xs.length using Nat.strong_induction_on generalizing xs with
  | _ n ih =>
    rcases xs with _ | ⟨x, xs⟩
    · exact .refl _
    · rw [exchangeSort_cons]
      have hlen : (sift key x xs).2.length < n := by
        rw [length_sift, ← hn, List.length_cons]
        exact Nat.lt_succ_self _
      exact ((ih _ hlen _ rfl).cons _).trans (sift_perm key x xs)

theorem exchangeSort_sorted (xs : List α) :
    (exchangeSort key xs).Pairwise fun a b => key a ≤ key b := by
  induction hn : xs.length using Nat.strong_induction_on generalizing xs with
  | _ n ih =>
    rcases xs with _ | ⟨x, xs⟩
    · exact .nil
    · rw [exchangeSort_cons]
      have hlen : (sift key x xs).2.length < n := by
        rw [length_sift, ← hn, List.length_cons]
        exact Nat.lt_succ_self _
      refine .cons (fun y hy => ?_) (ih _ hlen _ rfl)
      have hrest : y ∈ (sift key x xs).2 := (exchangeSort_perm key _).mem_iff.mp hy
      have hmem : y ∈ x :: xs := (sift_perm key x xs).mem_iff.mp (List.mem_cons_of_mem _ hrest)
      exact sift_le x xs y hmem

/-- Elements with different keys come into ascending order. -/
theorem ascending_exchangeSort (h : (xs.map key).Nodup) : Ascending key (exchangeSort key xs) := by
  have hnodup : (exchangeSort key xs).Pairwise fun a b => key a ≠ key b :=
    List.pairwise_map.mp (((exchangeSort_perm key xs).map key).nodup_iff.mpr h)
  exact ((exchangeSort_sorted xs).and hnodup).imp fun hab => lt_of_le_of_ne hab.1 hab.2

end BcuSdk.Lib
