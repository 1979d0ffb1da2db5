/-
  BcuSdk.Lib.CountedLoop

  `for` loops over the cells of a block of memory.

  `forLoop body lo hi` runs the body once for every index from `lo` on that is
  below `hi`; its rule is an invariant that knows the index.  `overwrite` is a
  block in which a window has been written, and `forLoop_fill` says that a loop
  which stores one element after the other leaves such a block.
-/
import BcuSdk.Lib.Checked

namespace BcuSdk.Lib

/-! ## The loop -/

section Loop

variable {σ : Type} {body : Nat → σ → Checked σ} {lo hi : Nat} {s : σ}

/-- `for (i = lo; i < hi; i++)`. -/
def forLoop (body : Nat → σ → Checked σ) (lo hi : Nat) (s : σ) : Checked σ :=
  (List.range' lo (hi - lo)).foldlM (fun s i => body i s) s

theorem forLoop_of_le (h : hi ≤ lo) : forLoop body lo hi s = .ok s := by
  rw [forLoop, Nat.sub_eq_zero_of_le h]
  rfl

theorem forLoop_of_lt (h : lo < hi) :
    forLoop body lo hi s = body lo s >>= forLoop body (lo + 1) hi := by
  have hlen : hi - lo = (hi - (lo + 1)) + 1 := by omega
  rw [forLoop, hlen, List.range'_succ, List.foldlM_cons]
  rfl

/-- If every round returns and takes the invariant to the next index, so does the loop. -/
theorem forLoop_spec (Inv : Nat → σ → Prop)
    (hbody : ∀ i s, lo ≤ i → i < hi → Inv i s → ∃ s', body i s = .ok s' ∧ Inv (i + 1) s')
    (hle : lo ≤ hi) (hinit : Inv lo s) : ∃ s', forLoop body lo hi s = .ok s' ∧ Inv hi s' := by
  induction hn : hi - lo generalizing lo s with
  | zero =>
      obtain rfl : hi = lo := by omega
      exact ⟨s, forLoop_of_le (Nat.le_refl _), hinit⟩
  | succ n ih =>
      obtain ⟨s₁, hfirst, hinv⟩ := hbody lo s (Nat.le_refl _) (by omega) hinit
      obtain ⟨s', hrest, hend⟩ := ih (fun i s hlo => hbody i s (by omega)) (by omega) hinv (by omega)
      refine ⟨s', ?_, hend⟩
      rw [forLoop_of_lt (by omega), hfirst, Checked.ok_bind, hrest]

end Loop

/-! ## Windows -/

variable {α : Type}

/-- The window of `part` at `start` is written. -/
def overwrite (data part : List α) (start : Nat) : List α :=
  data.take start ++ part ++ data.drop (start + part.length)

section Overwrite

variable {data part : List α} {start : Nat}

/-- Nothing has been written. -/
@[simp] theorem overwrite_nil (data : List α) (start : Nat) : overwrite data [] start = data := by
  rw [overwrite, List.append_nil]
  exact List.take_append_drop start data

/-- All that follows `pre` is written. -/
theorem overwrite_append (pre : List α) {rest : List α} (hpre : pre.length = start)
    (hrest : rest.length = part.length) : overwrite (pre ++ rest) part start = pre ++ part := by
  subst hpre
  rw [overwrite, List.take_left', List.drop_of_length_le, List.append_nil]
  · rw [List.length_append, hrest]
  · rfl

/-- A whole block is written. -/
theorem overwrite_all (h : data.length = part.length) : overwrite data part 0 = part :=
  overwrite_append [] rfl h

/-- One element more. -/
theorem set_overwrite (h : start + part.length < data.length) (x : α) :
    (overwrite data part start).set (start + part.length) x = overwrite data (part ++ [x]) start := by
  have hfront : (data.take start ++ part).length = start + part.length := by
    rw [List.length_append, List.length_take]
    omega
  rw [overwrite, overwrite, List.set_append_right _ _ (by omega), hfront, Nat.sub_self,
    List.drop_eq_getElem_cons h, List.set_cons_zero, List.length_append, List.length_singleton]
  simp only [List.append_assoc, List.singleton_append, Nat.add_assoc]

/-- The old contents behind the window. -/
theorem getElem?_overwrite_behind (hfit : start + part.length ≤ data.length) {i : Nat}
    (h : start + part.length ≤ i) : (overwrite data part start)[i]? = data[i]? := by
  have hfront : (data.take start ++ part).length = start + part.length := by
    rw [List.length_append, List.length_take]
    omega
  rw [overwrite, List.getElem?_append_right (by omega), hfront, List.getElem?_drop]
  congr 1
  omega

end Overwrite

/-! ## Cells -/

/-- `n` cells of memory. -/
abbrev Cells (α : Type) (n : Nat) := { xs : List α // xs.length = n }

/-- `xs[i]`. -/
def loadAt (xs : List α) (i : Nat) : Checked α :=
  match xs[i]? with
  | some x => .ok x
  | none => .error .outOfBounds

theorem loadAt_eq_ok {xs : List α} {i : Nat} {x : α} : loadAt xs i = .ok x ↔ xs[i]? = some x := by
  rw [loadAt]
  rcases xs[i]? with _ | y
  · exact iff_of_false (fun h => by cases h) (fun h => by cases h)
  · exact ⟨fun h => congrArg some (Except.ok.inj h), fun h => congrArg Except.ok (Option.some.inj h)⟩

theorem loadAt_of_getElem? {xs : List α} {i : Nat} {x : α} (h : xs[i]? = some x) :
    loadAt xs i = .ok x := by
  rw [loadAt, h]

theorem loadAt_of_lt {xs : List α} {i : Nat} (h : i < xs.length) : loadAt xs i = .ok xs[i] :=
  loadAt_of_getElem? (List.getElem?_eq_getElem h)

theorem loadAt_of_ge {xs : List α} {i : Nat} (h : xs.length ≤ i) :
    loadAt xs i = .error .outOfBounds := by
  rw [loadAt, List.getElem?_eq_none h]

/-- The element that follows `pre`. -/
theorem loadAt_append {xs pre rest : List α} {x : α} (hxs : xs = pre ++ x :: rest) {i : Nat}
    (hi : pre.length = i) : loadAt xs i = .ok x := by
  apply loadAt_of_getElem?
  rw [hxs, List.getElem?_append_right hi.le, hi, Nat.sub_self]
  rfl

namespace Cells

variable {n : Nat}

/-- `new T[n]`; `fresh` is what the memory happens to hold. -/
def alloc (fresh : Nat → α) (n : Nat) : Cells α n :=
  ⟨(List.range n).map fresh, by rw [List.length_map, List.length_range]⟩

@[simp] theorem length_val (b : Cells α n) : b.1.length = n := b.2

/-- Cell `i` of a new block. -/
theorem drop_alloc (fresh : Nat → α) {i : Nat} (h : i < n) :
    (alloc fresh n).1.drop i = fresh i :: (alloc fresh n).1.drop (i + 1) := by
  rw [List.drop_eq_getElem_cons (by rw [length_val]; exact h)]
  congr 1
  simp only [alloc, List.getElem_map, List.getElem_range]

/-- `b[i] = x`. -/
def store (b : Cells α n) (i : Nat) (x : α) : Checked (Cells α n) :=
  if i < n then .ok ⟨b.1.set i x, by rw [List.length_set, b.2]⟩ else .error .outOfBounds

theorem store_of_lt (b : Cells α n) {i : Nat} (h : i < n) (x : α) :
    b.store i x = .ok ⟨b.1.set i x, by rw [List.length_set, b.2]⟩ := if_pos h

theorem store_of_ge (b : Cells α n) {i : Nat} (h : n ≤ i) (x : α) :
    b.store i x = .error .outOfBounds := if_neg (Nat.not_lt.mpr h)

/-- The element that follows `pre` is replaced. -/
theorem store_append {b : Cells α n} {pre rest : List α} {x : α} (hb : b.1 = pre ++ x :: rest)
    {i : Nat} (hi : pre.length = i) (y : α) :
    ∃ d, b.store i y = .ok d ∧ d.1 = pre ++ y :: rest := by
  have hn : i < n := by
    rw [← b.2, hb, List.length_append, List.length_cons, hi]
    omega
  refine ⟨_, b.store_of_lt hn y, ?_⟩
  show b.1.set i y = _
  rw [hb, List.set_append_right _ _ hi.le, hi, Nat.sub_self]
  rfl

/-- A loop that stores the elements of `part` one after the other, the first one at `start`. -/
theorem forLoop_fill {b : Cells α n} (part : List α) (start : Nat) {lo hi : Nat}
    {body : Nat → Cells α n → Checked (Cells α n)} (hhi : hi = lo + part.length)
    (hfit : start + part.length ≤ n)
    (hbody : ∀ k (hk : k < part.length) (d : Cells α n),
      d.1 = overwrite b.1 (part.take k) start → body (lo + k) d = d.store (start + k) part[k]) :
    ∃ d, forLoop body lo hi b = .ok d ∧ d.1 = overwrite b.1 part start := by
  subst hhi
  have hround : ∀ i d, lo ≤ i → i < lo + part.length →
      d.1 = overwrite b.1 (part.take (i - lo)) start →
      ∃ d', body i d = .ok d' ∧ d'.1 = overwrite b.1 (part.take (i + 1 - lo)) start := by
    intro i d hlo hhi hd
    obtain ⟨k, rfl⟩ := Nat.exists_eq_add_of_le hlo
    rw [Nat.add_sub_cancel_left] at hd
    have hk : k < part.length := by omega
    have htake : (part.take k).length = k := by
      rw [List.length_take]
      omega
    refine ⟨_, (hbody k hk d hd).trans (d.store_of_lt (by omega) _), ?_⟩
    -- the window grows by the element stored
    have hgrows : start + (part.take k).length < b.1.length := by
      rw [htake, b.2]
      omega
    have hset := set_overwrite hgrows part[k]
    rw [htake] at hset
    show d.1.set (start + k) part[k] = _
    rw [hd, hset, Nat.add_assoc, Nat.add_sub_cancel_left, List.take_append_getElem hk]
  have hinit : b.1 = overwrite b.1 (part.take (lo - lo)) start := by
    rw [Nat.sub_self, List.take_zero, overwrite_nil]
  obtain ⟨d, hrun, hend⟩ := forLoop_spec _ hround (Nat.le_add_right ..) hinit
  refine ⟨d, hrun, hend.trans ?_⟩
  rw [Nat.add_sub_cancel_left, List.take_length]

end Cells

end BcuSdk.Lib
