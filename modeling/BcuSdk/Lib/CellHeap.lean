/-
  BcuSdk.Lib.CellHeap

  A heap of linked cells, and the chains of cells in it.

  Addresses are numbers; a cell is live between its allocation and its
  release, and only finitely many are live at a time.  A read or a write at an
  address that is not live is a fault.  `Chain h p l q` says that following
  the next pointers from `p` on leads over the cells `l` to `q`; a change of
  the heap elsewhere keeps a chain (`Chain.congr`), and a chain may be cut at
  any place (`chain_append`).
-/
import BcuSdk.Lib.Checked
import Mathlib.Data.List.Perm.Subperm

namespace BcuSdk.Lib

variable {α : Type}

/-- An entry and the pointer to the next cell. -/
structure Cell (α : Type) where
  entry : α
  next : Option Nat

/-- The live cells; none of them has an address from `bound` on. -/
structure CellHeap (α : Type) where
  cells : Nat → Option (Cell α)
  bound : Nat
  dead_above : ∀ p, bound ≤ p → cells p = none

namespace CellHeap

/-- No cell is live. -/
def empty : CellHeap α where
  cells _ := none
  bound := 0
  dead_above _ _ := rfl

/-- The cell at `p` becomes `c`; `none` releases it. -/
def set (h : CellHeap α) (p : Nat) (c : Option (Cell α)) : CellHeap α where
  cells q := if q = p then c else h.cells q
  bound := max h.bound (p + 1)
  dead_above q hq := by
    rw [if_neg (by omega), h.dead_above q (by omega)]

@[simp] theorem set_cells (h : CellHeap α) (p q : Nat) (c : Option (Cell α)) :
    (h.set p c).cells q = if q = p then c else h.cells q := rfl

/-- `*p`. -/
def read (h : CellHeap α) (p : Nat) : Checked (Cell α) :=
  match h.cells p with
  | some c => .ok c
  | none => .error .outOfBounds

/-- `p->Next = next`. -/
def link (h : CellHeap α) (p : Nat) (next : Option Nat) : Checked (CellHeap α) := do
  let c ← h.read p
  return h.set p (some { c with next := next })

/-- `delete p`. -/
def delete (h : CellHeap α) (p : Nat) : Checked (CellHeap α) := do
  let _ ← h.read p
  return h.set p none

theorem read_of {h : CellHeap α} {p : Nat} {c : Cell α} (hp : h.cells p = some c) :
    h.read p = .ok c := by
  rw [read, hp]

theorem link_of {h : CellHeap α} {p : Nat} {c : Cell α} (hp : h.cells p = some c)
    (next : Option Nat) : h.link p next = .ok (h.set p (some { c with next := next })) := by
  rw [link, read_of hp]
  rfl

theorem delete_of {h : CellHeap α} {p : Nat} {c : Cell α} (hp : h.cells p = some c) :
    h.delete p = .ok (h.set p none) := by
  rw [delete, read_of hp]
  rfl

theorem lt_bound {h : CellHeap α} {p : Nat} (hp : h.cells p ≠ none) : p < h.bound := by
  by_contra hge
  exact hp (h.dead_above p (Nat.le_of_not_lt hge))

end CellHeap

/-! ## Chains -/

/-- From `p` on the cells `l`, addresses and entries, come one after the other; `q` is behind. -/
def Chain (h : CellHeap α) : Option Nat → List (Nat × α) → Option Nat → Prop
  | p, [], q => p = q
  | p, (a, x) :: l, q => p = some a ∧ ∃ next, h.cells a = some ⟨x, next⟩ ∧ Chain h next l q

variable {h h' : CellHeap α} {p q : Option Nat}

@[simp] theorem chain_nil : Chain h p [] q ↔ p = q := Iff.rfl

@[simp] theorem chain_cons {a : Nat} {x : α} {l : List (Nat × α)} :
    Chain h p ((a, x) :: l) q ↔
      p = some a ∧ ∃ next, h.cells a = some ⟨x, next⟩ ∧ Chain h next l q := Iff.rfl

theorem chain_append {l₁ l₂ : List (Nat × α)} :
    Chain h p (l₁ ++ l₂) q ↔ ∃ r, Chain h p l₁ r ∧ Chain h r l₂ q := by
  induction l₁ generalizing p with
  | nil => simp
  | cons c l₁ ih =>
      obtain ⟨a, x⟩ := c
      rw [List.cons_append, chain_cons]
      constructor
      · rintro ⟨hp, next, ha, hrest⟩
        obtain ⟨r, h₁, h₂⟩ := ih.mp hrest
        exact ⟨r, ⟨hp, next, ha, h₁⟩, h₂⟩
      · rintro ⟨r, ⟨hp, next, ha, h₁⟩, h₂⟩
        exact ⟨hp, next, ha, ih.mpr ⟨r, h₁, h₂⟩⟩

/-- A chain stays as long as its own cells do. -/
theorem Chain.congr {l : List (Nat × α)} (hc : Chain h p l q)
    (hsame : ∀ a ∈ l.map Prod.fst, h'.cells a = h.cells a) : Chain h' p l q := by
  induction l generalizing p with
  | nil => exact hc
  | cons c l ih =>
      obtain ⟨a, x⟩ := c
      obtain ⟨hp, next, ha, hrest⟩ := hc
      have hhere : h'.cells a = some ⟨x, next⟩ := by
        rw [hsame a (List.mem_cons_self ..), ha]
      exact ⟨hp, next, hhere, ih hrest fun b hb => hsame b (List.mem_cons_of_mem _ hb)⟩

theorem Chain.set_of_not_mem {l : List (Nat × α)} (hc : Chain h p l q) {a : Nat}
    {c : Option (Cell α)} (ha : a ∉ l.map Prod.fst) : Chain (h.set a c) p l q := by
  refine hc.congr fun b hb => ?_
  have hne : b ≠ a := by
    rintro rfl
    exact ha hb
  rw [CellHeap.set_cells, if_neg hne]

/-- The first cell of a chain up to its end. -/
theorem Chain.start {l : List (Nat × α)} (hc : Chain h p l none) : p = l.head?.map Prod.fst := by
  cases l with
  | nil => exact hc
  | cons c l => exact hc.1

theorem Chain.live {l : List (Nat × α)} (hc : Chain h p l q) :
    ∀ a ∈ l.map Prod.fst, h.cells a ≠ none := by
  induction l generalizing p with
  | nil => simp
  | cons c l ih =>
      obtain ⟨a, x⟩ := c
      obtain ⟨-, next, ha, hrest⟩ := hc
      intro b hb
      rcases List.mem_cons.mp hb with rfl | hb
      · rw [ha]
        simp
      · exact ih hrest b hb

/-- A new cell behind the last one of a chain. -/
theorem Chain.snoc {l : List (Nat × α)} {a b : Nat} {x y : α}
    (hc : Chain h p (l ++ [(a, x)]) none) (hnodup : ((l ++ [(a, x)]).map Prod.fst).Nodup)
    (hb : b ∉ (l ++ [(a, x)]).map Prod.fst) :
    Chain ((h.set b (some ⟨y, none⟩)).set a (some ⟨x, some b⟩)) p (l ++ [(a, x)] ++ [(b, y)])
      none := by
  obtain ⟨r, hinit, hlast⟩ := chain_append.mp hc
  obtain ⟨rfl, next, ha, rfl⟩ := hlast
  rw [List.map_append, List.nodup_append] at hnodup
  have hal : a ∉ l.map Prod.fst := fun hmem => hnodup.2.2 a hmem a (by simp) rfl
  have hbl : b ∉ l.map Prod.fst := fun hmem => hb (by simp [List.mem_map.mp hmem])
  have hba : b ≠ a := by
    rintro rfl
    exact hb (by simp)
  rw [List.append_assoc]
  refine chain_append.mpr ⟨some a, (hinit.set_of_not_mem hbl).set_of_not_mem hal, ?_⟩
  simp [hba]

/-- The cells of a chain without repetition are fewer than the bound. -/
theorem Chain.length_le {l : List (Nat × α)} (hc : Chain h p l q)
    (hnodup : (l.map Prod.fst).Nodup) : l.length ≤ h.bound := by
  have hsub : l.map Prod.fst ⊆ List.range h.bound := fun a ha =>
    List.mem_range.mpr (CellHeap.lt_bound (hc.live a ha))
  have hle := (List.subperm_of_subset hnodup hsub).length_le
  rwa [List.length_map, List.length_range] at hle

end BcuSdk.Lib
