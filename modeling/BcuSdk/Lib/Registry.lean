/-
  BcuSdk.Lib.Registry

  Lists of registered entries, and the keys that are in use.

  An entry leaves the list by being overwritten with the last one, so that
  only the contents of the list are kept, not their order.  `used` is the set
  of keys other than the null key that occur; an entry that comes or goes
  changes it only if no other entry has its key.
-/
import Mathlib.Data.Finset.Basic
import Mathlib.Data.List.Perm.Basic

namespace BcuSdk.Lib

variable {α κ : Type}

/-! ## Removal -/

/-- `l[i] = l[l () - 1]; l.resize (l () - 1);` -/
def swapRemove (l : List α) (i : Nat) : List α :=
  match l.getLast? with
  | some a => (l.set i a).dropLast
  | none => l

theorem swapRemove_perm {l : List α} {i : Nat} (h : i < l.length) :
    (l[i] :: swapRemove l i).Perm l := by
  obtain ⟨init, last, rfl⟩ : ∃ init last, l = init ++ [last] := by
    have hne : l ≠ [] := List.ne_nil_of_length_pos (by omega)
    exact ⟨l.dropLast, l.getLast hne, (List.dropLast_append_getLast hne).symm⟩
  rw [List.length_append, List.length_singleton] at h
  rw [swapRemove, List.getLast?_concat]
  dsimp only
  by_cases hi : i < init.length
  · rw [List.set_append_left _ _ hi, List.dropLast_concat, List.getElem_append_left hi]
    calc (init[i] :: init.set i last).Perm (init[i] :: last :: init.eraseIdx i) :=
          (List.set_perm_cons_eraseIdx hi last).cons _
      _ |>.Perm (last :: init[i] :: init.eraseIdx i) := .swap ..
      _ |>.Perm (last :: init) := (List.getElem_cons_eraseIdx_perm hi).cons _
      _ |>.Perm (init ++ [last]) := (List.perm_append_singleton last init).symm
  · obtain rfl : i = init.length := by omega
    rw [List.set_append_right _ _ (Nat.le_refl _), Nat.sub_self, List.set_cons_zero,
      List.dropLast_concat, List.getElem_concat_length rfl]
    exact (List.perm_append_singleton last init).symm

/-- The first entry that meets `p` is removed; `none` if there is none. -/
def removeFirst (p : α → Bool) (l : List α) : Option (List α) :=
  (l.findIdx? p).map (swapRemove l)

theorem removeFirst_eq_some {p : α → Bool} {l l' : List α} (h : removeFirst p l = some l') :
    ∃ a, p a = true ∧ (a :: l').Perm l := by
  obtain ⟨i, hi, rfl⟩ := Option.map_eq_some_iff.mp h
  obtain ⟨hlt, hp, -⟩ := List.findIdx?_eq_some_iff_getElem.mp hi
  exact ⟨l[i], hp, swapRemove_perm hlt⟩

theorem removeFirst_eq_none {p : α → Bool} {l : List α} (h : removeFirst p l = none) :
    ∀ a ∈ l, p a = false :=
  List.findIdx?_eq_none_iff.mp (Option.map_eq_none_iff.mp h)

/-! ## Keys in use -/

variable [DecidableEq κ] {key : α → κ} {null : κ}

/-- The keys that occur in the list, without the null key. -/
def used (key : α → κ) (null : κ) (l : List α) : Finset κ := (l.map key).toFinset.erase null

theorem mem_used {l : List α} {k : κ} : k ∈ used key null l ↔ k ≠ null ∧ ∃ a ∈ l, key a = k := by
  simp [used]

theorem used_perm {l l' : List α} (h : l.Perm l') : used key null l = used key null l' := by
  ext k
  rw [mem_used, mem_used]
  simp only [h.mem_iff]

theorem used_append_singleton (l : List α) (a : α) :
    used key null (l ++ [a]) = used key null (a :: l) :=
  used_perm (List.perm_append_singleton a l)

/-- An entry with the null key or a key that occurs anyway does not change the keys in use. -/
theorem used_cons_of_mem {l : List α} {a : α} (h : key a = null ∨ ∃ b ∈ l, key b = key a) :
    used key null (a :: l) = used key null l := by
  ext k
  rw [mem_used, mem_used, List.exists_mem_cons_iff]
  constructor
  · rintro ⟨hk, rfl | hmem⟩
    · exact ⟨hk, h.resolve_left hk⟩
    · exact ⟨hk, hmem⟩
  · rintro ⟨hk, hmem⟩
    exact ⟨hk, .inr hmem⟩

/-- An entry with a key of its own adds this key. -/
theorem used_cons_of_new {l : List α} {a : α} (hnull : key a ≠ null)
    (hnew : ∀ b ∈ l, key b ≠ key a) :
    (used key null (a :: l)).val = key a ::ₘ (used key null l).val := by
  have hmem : key a ∉ used key null l := by
    rw [mem_used]
    rintro ⟨-, b, hb, hkey⟩
    exact hnew b hb hkey
  have hcons : used key null (a :: l) = (used key null l).cons (key a) hmem := by
    ext k
    rw [mem_used, Finset.mem_cons, mem_used, List.exists_mem_cons_iff]
    constructor
    · rintro ⟨hk, rfl | hin⟩
      · exact .inl rfl
      · exact .inr ⟨hk, hin⟩
    · rintro (rfl | ⟨hk, hin⟩)
      · exact ⟨hnull, .inl rfl⟩
      · exact ⟨hk, .inr hin⟩
  rw [hcons, Finset.cons_val]

end BcuSdk.Lib
