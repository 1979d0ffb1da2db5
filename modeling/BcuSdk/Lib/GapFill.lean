/-
  BcuSdk.Lib.GapFill

  A table of slots that is filled in two passes: some entries have a slot of
  their own, the others go into the gaps from the first one on.

  `fill` is what the second pass leaves; `fill_perm` says that nothing is lost
  as long as there are gaps enough, and `mem_take_fill` which entries stand in
  front of a given slot.
-/
import Mathlib.Data.List.ReduceOption
import Mathlib.Data.List.TakeWhile

namespace BcuSdk.Lib

variable {α : Type} {s t : List (Option α)} {xs : List α} {e : α}

/-- The slots nobody has. -/
def gaps (s : List (Option α)) : Nat := s.countP Option.isNone

/-- The entries go into the gaps, in order. -/
def fill : List (Option α) → List α → List (Option α)
  | none :: s, x :: xs => some x :: fill s xs
  | some a :: s, xs => some a :: fill s xs
  | none :: s, [] => none :: fill s []
  | [], _ => []

@[simp] theorem gaps_nil : gaps ([] : List (Option α)) = 0 := rfl

@[simp] theorem gaps_cons_some (a : α) (s : List (Option α)) : gaps (some a :: s) = gaps s :=
  List.countP_cons_of_neg Bool.false_ne_true

@[simp] theorem gaps_cons_none (s : List (Option α)) : gaps (none :: s) = gaps s + 1 :=
  List.countP_cons_of_pos rfl

theorem gaps_append (s t : List (Option α)) : gaps (s ++ t) = gaps s + gaps t :=
  List.countP_append

@[simp] theorem gaps_replicate (n : Nat) : gaps (List.replicate n (none : Option α)) = n := by
  induction n with
  | zero => rfl
  | succ n ih => rw [List.replicate_succ, gaps_cons_none, ih]

theorem gaps_eq_zero (h : none ∉ s) : gaps s = 0 := by
  refine List.countP_eq_zero.mpr fun o ho => ?_
  rcases o with _ | a
  · exact absurd ho h
  · exact Bool.false_ne_true

@[simp] theorem fill_nil (s : List (Option α)) : fill s [] = s := by
  induction s with
  | nil => rfl
  | cons o s ih =>
      cases o with
      | none => rw [fill, ih]
      | some a => rw [fill, ih]

@[simp] theorem length_fill (s : List (Option α)) (xs : List α) :
    (fill s xs).length = s.length := by
  induction s generalizing xs with
  | nil => rfl
  | cons o s ih =>
      rcases o with _ | a
      · rcases xs with _ | ⟨x, xs⟩
        · rw [fill_nil]
        · rw [fill, List.length_cons, ih, List.length_cons]
      · rw [fill, List.length_cons, ih, List.length_cons]

/-- What has a slot stays there. -/
theorem fill_append_full (hs : none ∉ s) (t : List (Option α)) (xs : List α) :
    fill (s ++ t) xs = s ++ fill t xs := by
  induction s with
  | nil => rfl
  | cons o s ih =>
      rcases o with _ | a
      · exact absurd (List.mem_cons_self ..) hs
      · rw [List.cons_append, fill, ih fun h => hs (List.mem_cons_of_mem _ h), List.cons_append]

theorem getElem?_fill_of_some {k : Nat} (h : s[k]? = some (some e)) :
    (fill s xs)[k]? = some (some e) := by
  induction s generalizing xs k with
  | nil => cases h
  | cons o s ih =>
      rcases k with _ | k
      · obtain rfl : o = some e := Option.some.inj h
        rfl
      · have hrest : s[k]? = some (some e) := h
        rcases o with _ | a
        · rcases xs with _ | ⟨x, xs⟩
          · rw [fill_nil]
            exact h
          · exact ih hrest
        · exact ih hrest

/-- The front of the table is filled from the front of the entries. -/
theorem take_fill (s : List (Option α)) (xs : List α) (k : Nat) :
    (fill s xs).take k = fill (s.take k) xs := by
  induction s generalizing xs k with
  | nil => simp only [fill, List.take_nil]
  | cons o s ih =>
      rcases k with _ | k
      · rfl
      · rcases o with _ | a
        · rcases xs with _ | ⟨x, xs⟩
          · rw [fill_nil, fill_nil]
          · rw [fill, List.take_succ_cons, ih, List.take_succ_cons, fill]
        · rw [fill, List.take_succ_cons, ih, List.take_succ_cons, fill]

/-- What is in the table: what had a slot, and as many of the entries as there were gaps. -/
theorem fill_perm (s : List (Option α)) (xs : List α) :
    (fill s xs).reduceOption.Perm (s.reduceOption ++ xs.take (gaps s)) := by
  induction s generalizing xs with
  | nil =>
      rw [fill, gaps_nil, List.take_zero]
      exact .refl _
  | cons o s ih =>
      rcases o with _ | a
      · rcases xs with _ | ⟨x, xs⟩
        · rw [fill_nil, List.take_nil, List.append_nil]
        · rw [fill, List.reduceOption_cons_of_some, List.reduceOption_cons_of_none, gaps_cons_none,
            List.take_succ_cons]
          exact ((ih xs).cons x).trans List.perm_middle.symm
      · rw [fill, List.reduceOption_cons_of_some, List.reduceOption_cons_of_some, gaps_cons_some,
          List.cons_append]
        exact (ih xs).cons a

theorem mem_fill : some e ∈ fill s xs ↔ some e ∈ s ∨ e ∈ xs.take (gaps s) := by
  rw [← List.reduceOption_mem_iff, (fill_perm s xs).mem_iff, List.mem_append,
    List.reduceOption_mem_iff]

/-- With entries enough there are no gaps left. -/
theorem none_notMem_fill (h : gaps s ≤ xs.length) : none ∉ fill s xs := by
  induction s generalizing xs with
  | nil => exact List.not_mem_nil
  | cons o s ih =>
      rcases o with _ | a
      · rcases xs with _ | ⟨x, xs⟩
        · rw [gaps_cons_none] at h
          exact absurd h (Nat.not_succ_le_zero _)
        · rw [gaps_cons_none, List.length_cons] at h
          rw [fill, List.mem_cons, not_or]
          exact ⟨nofun, ih (Nat.le_of_succ_le_succ h)⟩
      · rw [gaps_cons_some] at h
        rw [fill, List.mem_cons, not_or]
        exact ⟨nofun, ih h⟩

/-! ## Looking for the next gap -/

/-- `while (fn < n && used[fn]) fn++`. -/
def nextGap (s : List (Option α)) (fn : Nat) : Nat :=
  fn + ((s.drop fn).takeWhile Option.isSome).length

/-- The search stops at a gap or behind the table; what it passes is full. -/
theorem nextGap_split (s t : List (Option α)) :
    ∃ full rest, t = full ++ rest ∧ none ∉ full ∧ (rest = [] ∨ ∃ rest', rest = none :: rest') ∧
      nextGap (s ++ t) s.length = (s ++ full).length := by
  refine ⟨t.takeWhile Option.isSome, t.dropWhile Option.isSome,
    (List.takeWhile_append_dropWhile).symm, fun h => ?_, ?_, ?_⟩
  · exact Bool.false_ne_true (List.mem_takeWhile_imp h)
  · rcases hrest : t.dropWhile Option.isSome with _ | ⟨o, rest⟩
    · exact .inl rfl
    · rcases o with _ | a
      · exact .inr ⟨rest, rfl⟩
      · have hne : t.dropWhile Option.isSome ≠ [] := by
          rw [hrest]
          exact List.cons_ne_nil _ _
        have hfirst := List.head_dropWhile_not Option.isSome hne
        simp only [hrest, List.head_cons, Option.isSome_some] at hfirst
        cases hfirst
  · rw [nextGap, List.drop_left, List.length_append]

end BcuSdk.Lib
