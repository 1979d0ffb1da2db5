/-
  BcuSdk.Lib.SortedTable

  An array kept in ascending order of a key, as code keeps it by hand: binary
  search between two bounds, insertion by shifting the larger entries up,
  removal and replacement at an index.

  `search_eq` says that the search finds the entry with the key, and the
  `lookup_` lemmas say what each change does to the map from keys to entries
  that the array stands for.
-/
import BcuSdk.Lib.Checked
import Mathlib.Data.List.Induction
import Mathlib.Order.Defs.LinearOrder

namespace BcuSdk.Lib

variable {α κ : Type} [LinearOrder κ]

/-- The keys are strictly ascending. -/
def Ascending (key : α → κ) (xs : List α) : Prop := xs.Pairwise fun a b => key a < key b

/-- The entry with a key, in the table as a map. -/
def lookup (key : α → κ) (xs : List α) (k : κ) : Option α := xs.find? fun a => key a = k

/-! ## The code -/

/-- The loop of a binary search between the bounds `l` and `r`, both inclusive. -/
def searchFrom (key : α → κ) (xs : List α) (k : κ) : Nat → Int → Int → Checked (Option Nat)
  | 0, _, _ => .ok none
  | fuel + 1, l, r =>
      if l ≤ r then
        let p := (l + r) / 2
        match xs[p.toNat]? with
        | none => .error .outOfBounds
        | some a =>
            if key a = k then .ok (some p.toNat)
            else if k > key a then searchFrom key xs k fuel (p + 1) r
            else searchFrom key xs k fuel l (p - 1)
      else .ok none

/-- The index of the entry with key `k`.  The range shrinks in every round, so that there are
    never more rounds than entries. -/
def search (key : α → κ) (xs : List α) (k : κ) : Checked (Option Nat) :=
  searchFrom key xs k xs.length 0 (xs.length - 1)

/-- The loop of an insertion: slot `p` is free, and `entry` goes into it or further down. -/
def shiftIn (key : α → κ) (entry : α) : Nat → List α → List α
  | 0, xs => xs.set 0 entry
  | p + 1, xs =>
      match xs[p]? with
      | none => xs
      | some a =>
          if key a > key entry then shiftIn key entry p (xs.set (p + 1) a)
          else xs.set (p + 1) entry

/-- The array grows by one slot, whose contents do not matter, and `entry` is shifted in. -/
def insertSorted (key : α → κ) (entry : α) (xs : List α) : List α :=
  shiftIn key entry xs.length (xs ++ [entry])

/-! ## Tables -/

variable {key : α → κ} {xs : List α} {k : κ} {a : α}

theorem Ascending.lt (h : Ascending key xs) {i j : Nat} (hj : j < xs.length) (hij : i < j) :
    key xs[i] < key xs[j] :=
  List.pairwise_iff_getElem.mp h i j (by omega) hj hij

/-- Two entries of a table with one key are the same. -/
theorem Ascending.eq_of_key_eq (h : Ascending key xs) {b : α} (ha : a ∈ xs) (hb : b ∈ xs)
    (hkey : key a = key b) : a = b := by
  obtain ⟨i, hi, rfl⟩ := List.getElem_of_mem ha
  obtain ⟨j, hj, rfl⟩ := List.getElem_of_mem hb
  rcases Nat.lt_trichotomy i j with hij | rfl | hij
  · exact absurd hkey (h.lt hj hij).ne
  · rfl
  · exact absurd hkey (h.lt hi hij).ne'

theorem lookup_eq_some_iff (h : Ascending key xs) :
    lookup key xs k = some a ↔ a ∈ xs ∧ key a = k := by
  constructor
  · intro hl
    exact ⟨List.mem_of_find?_eq_some hl, by simpa using List.find?_some hl⟩
  · rintro ⟨ha, rfl⟩
    obtain ⟨b, hb⟩ := Option.isSome_iff_exists.mp
      ((List.find?_isSome (p := fun b => key b = key a)).mpr ⟨a, ha, by simp⟩)
    rw [lookup, hb, h.eq_of_key_eq ha (List.mem_of_find?_eq_some hb)
      (by simpa [eq_comm] using List.find?_some hb)]

theorem lookup_eq_none_iff : lookup key xs k = none ↔ ∀ a ∈ xs, key a ≠ k := by
  simp [lookup, List.find?_eq_none]

/-! ## Search -/

private theorem findIdx?_eq_none_of_bounds {l r : Int} (hlr : r < l)
    (hbelow : ∀ i (hi : i < xs.length), (i : Int) < l → key xs[i] < k)
    (habove : ∀ i (hi : i < xs.length), r < (i : Int) → k < key xs[i]) :
    xs.findIdx? (fun a => key a = k) = none := by
  rw [List.findIdx?_eq_none_iff]
  intro a ha
  obtain ⟨i, hi, rfl⟩ := List.getElem_of_mem ha
  rw [decide_eq_false_iff_not]
  by_cases hil : (i : Int) < l
  · exact (hbelow i hi hil).ne
  · exact (habove i hi (by omega)).ne'

/-- Everything outside of the bounds is on its side of `k`, so that the search misses nothing. -/
theorem searchFrom_eq (h : Ascending key xs) {fuel : Nat} {l r : Int} (hl : 0 ≤ l)
    (hr : r < xs.length) (hfuel : r + 1 - l ≤ fuel)
    (hbelow : ∀ i (hi : i < xs.length), (i : Int) < l → key xs[i] < k)
    (habove : ∀ i (hi : i < xs.length), r < (i : Int) → k < key xs[i]) :
    searchFrom key xs k fuel l r = .ok (xs.findIdx? fun a => key a = k) := by
  induction fuel generalizing l r with
  | zero => rw [searchFrom, findIdx?_eq_none_of_bounds (by omega) hbelow habove]
  | succ fuel ih =>
    rw [searchFrom]
    by_cases hlr : l ≤ r
    · have hp : ((l + r) / 2).toNat < xs.length := by omega
      simp only [if_pos hlr, List.getElem?_eq_getElem hp]
      rcases lt_trichotomy (key xs[((l + r) / 2).toNat]) k with hlt | heq | hgt
      · -- the key is above the middle, and so above everything up to it
        rw [if_neg hlt.ne, if_pos hlt]
        refine ih (by omega) hr (by omega) (fun i hi hip => ?_) habove
        rcases Nat.lt_or_eq_of_le (show i ≤ ((l + r) / 2).toNat by omega) with hi' | rfl
        · exact (h.lt hp hi').trans hlt
        · exact hlt
      · rw [if_pos heq, (List.findIdx?_eq_some_iff_getElem).mpr]
        refine ⟨hp, by simpa using heq, fun j hj => ?_⟩
        simpa using heq ▸ (h.lt hp hj).ne
      · -- the key is below the middle, and so below everything from it on
        rw [if_neg hgt.ne', if_neg hgt.le.not_gt]
        refine ih hl (by omega) (by omega) hbelow (fun i hi hip => ?_)
        rcases Nat.lt_or_eq_of_le (show ((l + r) / 2).toNat ≤ i by omega) with hi' | rfl
        · exact hgt.trans (h.lt hi hi')
        · exact hgt
    · rw [if_neg hlr, findIdx?_eq_none_of_bounds (by omega) hbelow habove]

/-- The search finds the entry with the key, and never reads outside of the array. -/
theorem search_eq (h : Ascending key xs) :
    search key xs k = .ok (xs.findIdx? fun a => key a = k) := by
  refine searchFrom_eq h (by omega) (by omega) (by omega) (fun i hi h' => ?_) (fun i hi h' => ?_)
  all_goals omega

theorem search_some (h : Ascending key xs) {i : Nat} (hs : search key xs k = .ok (some i)) :
    ∃ hi : i < xs.length, key xs[i] = k := by
  rw [search_eq h] at hs
  obtain ⟨hi, hk, -⟩ := List.findIdx?_eq_some_iff_getElem.mp (Except.ok.inj hs)
  exact ⟨hi, by simpa using hk⟩

theorem search_none (h : Ascending key xs) (hs : search key xs k = .ok none) :
    lookup key xs k = none := by
  rw [search_eq h] at hs
  have hnone := List.findIdx?_eq_none_iff.mp (Except.ok.inj hs)
  exact lookup_eq_none_iff.mpr fun a ha => by simpa using hnone a ha

/-- What is found is what the map has. -/
theorem lookup_of_search (h : Ascending key xs) {i : Nat} (hs : search key xs k = .ok (some i)) :
    lookup key xs k = xs[i]? := by
  obtain ⟨hi, hk⟩ := search_some h hs
  rw [List.getElem?_eq_getElem hi]
  exact (lookup_eq_some_iff h).mpr ⟨List.getElem_mem hi, hk⟩

/-! ## Insertion -/

/-- The entries from the free slot on are larger than the one that is shifted in. -/
theorem shiftIn_eq {entry slot : α} {pre post : List α} :
    ∃ lower upper, pre = lower ++ upper ∧ (∀ b ∈ upper, key entry < key b) ∧
      (∀ b, lower.getLast? = some b → key b ≤ key entry) ∧
      shiftIn key entry pre.length (pre ++ slot :: post) = lower ++ entry :: upper ++ post := by
  induction pre using List.reverseRecOn generalizing slot post with
  | nil => exact ⟨[], [], rfl, by simp, by simp, rfl⟩
  | append_singleton pre a ih =>
    have hget : (pre ++ [a] ++ slot :: post)[pre.length]? = some a := by
      simp
    have hset : ∀ b, (pre ++ [a] ++ slot :: post).set (pre.length + 1) b =
        pre ++ a :: b :: post := by
      intro b
      rw [List.set_append_right _ _ (by simp)]
      simp
    rw [List.length_append, List.length_singleton, shiftIn, hget]
    -- `a` moves up into the free slot, or the entry comes to stand behind it
    by_cases hgt : key a > key entry
    · obtain ⟨lower, upper, rfl, hupper, hlower, heq⟩ := @ih a (a :: post)
      refine ⟨lower, upper ++ [a], by simp, ?_, hlower, ?_⟩
      · intro b hb
        rcases List.mem_append.mp hb with hb | hb
        · exact hupper b hb
        · rw [List.mem_singleton.mp hb]
          exact hgt
      · simp only [if_pos hgt, hset, heq]
        simp
    · refine ⟨pre ++ [a], [], by simp, by simp, ?_, ?_⟩
      · intro b hb
        rw [List.getLast?_concat] at hb
        exact Option.some.inj hb ▸ not_lt.mp hgt
      · simp only [if_neg hgt, hset]
        simp

/-- The array is split where the new entry goes. -/
theorem insertSorted_eq (h : Ascending key xs) (hnew : ∀ b ∈ xs, key b ≠ key a) :
    ∃ lower upper, xs = lower ++ upper ∧ insertSorted key a xs = lower ++ a :: upper ∧
      (∀ b ∈ lower, key b < key a) ∧ ∀ b ∈ upper, key a < key b := by
  obtain ⟨lower, upper, rfl, hupper, hlower, heq⟩ :=
    @shiftIn_eq α κ _ key a a xs []
  refine ⟨lower, upper, rfl, ?_, ?_, hupper⟩
  · rw [insertSorted, heq, List.append_nil]
  · intro b hb
    obtain ⟨init, last, rfl⟩ : ∃ init last, lower = init ++ [last] :=
      ⟨_, _, (List.dropLast_append_getLast (List.ne_nil_of_mem hb)).symm⟩
    have hlast : key last < key a := lt_of_le_of_ne
      (hlower last (List.getLast?_concat ..)) (hnew last (by simp))
    rcases List.mem_append.mp hb with hb | hb
    · have hinit := (List.pairwise_append.mp (List.pairwise_append.mp h).1).2.2
      exact (hinit b hb last (List.mem_singleton_self _)).trans hlast
    · rw [List.mem_singleton.mp hb]
      exact hlast

theorem ascending_insertSorted (h : Ascending key xs) (hnew : ∀ b ∈ xs, key b ≠ key a) :
    Ascending key (insertSorted key a xs) := by
  obtain ⟨lower, upper, rfl, heq, hlower, hupper⟩ := insertSorted_eq h hnew
  obtain ⟨hl, hu, hlu⟩ := List.pairwise_append.mp h
  rw [heq]
  refine List.pairwise_append.mpr ⟨hl, List.pairwise_cons.mpr ⟨hupper, hu⟩, fun b hb c hc => ?_⟩
  rcases List.mem_cons.mp hc with rfl | hc
  · exact hlower b hb
  · exact hlu b hb c hc

theorem mem_insertSorted (h : Ascending key xs) (hnew : ∀ b ∈ xs, key b ≠ key a) {b : α} :
    b ∈ insertSorted key a xs ↔ b = a ∨ b ∈ xs := by
  obtain ⟨lower, upper, rfl, heq, -, -⟩ := insertSorted_eq h hnew
  rw [heq]
  simp only [List.mem_append, List.mem_cons]
  tauto

/-! ## What the changes do to the map -/

/-- The map has the new entry under its key, and what it had under the others. -/
theorem lookup_insertSorted (h : Ascending key xs) (hnew : ∀ b ∈ xs, key b ≠ key a) (k : κ) :
    lookup key (insertSorted key a xs) k = if k = key a then some a else lookup key xs k := by
  have h' := ascending_insertSorted h hnew
  split
  case isTrue hk =>
    exact (lookup_eq_some_iff h').mpr ⟨(mem_insertSorted h hnew).mpr (.inl rfl), hk.symm⟩
  case isFalse hk =>
    ext b
    rw [lookup_eq_some_iff h', lookup_eq_some_iff h, mem_insertSorted h hnew]
    constructor
    · rintro ⟨rfl | hb, hkey⟩
      · exact absurd hkey.symm hk
      · exact ⟨hb, hkey⟩
    · rintro ⟨hb, hkey⟩
      exact ⟨.inr hb, hkey⟩

/-- Replacing an entry by one with the same key. -/
theorem ascending_set (h : Ascending key xs) {i : Nat} (hi : i < xs.length)
    (hkey : key a = key xs[i]) : Ascending key (xs.set i a) := by
  have hmap : (xs.set i a).map key = xs.map key := by
    rw [List.map_set, hkey, ← List.getElem_map key (h := by simpa using hi)]
    exact List.set_getElem_self _
  rw [Ascending, ← List.pairwise_map (f := key) (R := (· < ·)), hmap, List.pairwise_map]
  exact h

theorem lookup_set (h : Ascending key xs) {i : Nat} (hi : i < xs.length)
    (hkey : key a = key xs[i]) (k : κ) :
    lookup key (xs.set i a) k = if k = key a then some a else lookup key xs k := by
  have h' := ascending_set h hi hkey
  split
  case isTrue hk =>
    exact (lookup_eq_some_iff h').mpr ⟨List.mem_set hi a, hk.symm⟩
  case isFalse hk =>
    ext b
    rw [lookup_eq_some_iff h', lookup_eq_some_iff h]
    refine and_congr_left fun hb => ?_
    constructor
    · intro hmem
      rcases List.mem_or_eq_of_mem_set hmem with hmem | rfl
      · exact hmem
      · exact absurd hb.symm hk
    · intro hmem
      obtain ⟨j, hj, rfl⟩ := List.getElem_of_mem hmem
      have hij : i ≠ j := fun hij => hk (by subst hij; rw [hkey, hb])
      exact List.mem_iff_getElem.mpr ⟨j, by simpa using hj, List.getElem_set_ne hij _⟩

/-- Removal at an index. -/
theorem ascending_eraseIdx (h : Ascending key xs) (i : Nat) : Ascending key (xs.eraseIdx i) :=
  h.sublist (List.eraseIdx_sublist ..)

theorem lookup_eraseIdx (h : Ascending key xs) {i : Nat} (hi : i < xs.length) (k : κ) :
    lookup key (xs.eraseIdx i) k = if k = key xs[i] then none else lookup key xs k := by
  have h' := ascending_eraseIdx h i
  split
  case isTrue hk =>
    refine lookup_eq_none_iff.mpr fun b hb hkey => ?_
    obtain ⟨j, hj, hne, rfl⟩ := (List.mem_eraseIdx_iff_getElem).mp hb
    rcases Nat.lt_trichotomy i j with hij | rfl | hij
    · exact (h.lt hj hij).ne (hk ▸ hkey.symm)
    · exact hne rfl
    · exact (h.lt hi hij).ne (hkey.trans hk)
  case isFalse hk =>
    ext b
    rw [lookup_eq_some_iff h', lookup_eq_some_iff h, List.mem_eraseIdx_iff_getElem]
    refine and_congr_left fun hb => ?_
    constructor
    · rintro ⟨j, hj, -, rfl⟩
      exact List.getElem_mem hj
    · intro hmem
      obtain ⟨j, hj, rfl⟩ := List.getElem_of_mem hmem
      exact ⟨j, hj, fun hij => hk (by subst hij; exact hb.symm), rfl⟩

end BcuSdk.Lib
