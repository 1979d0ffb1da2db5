/-
  BcuSdk.Common.Array

  `Array` (common/array.h): the element count, the block of memory with the
  elements, and the loops that copy from one block to another.

  An `ArrayOf` always has a block of as many cells as it counts elements; seen
  from outside it is the list of them (`toList`).  Each operation is compared
  with the one on lists that it is for.  All but `insert` agree with it: that
  one copies the elements in front of the place into the new block, and then
  stores the element into the old one.

  `elem` is a value of its own, and an array passed to `set` or `setpart` lies
  elsewhere.  The source takes references and pointers, and none of its calls
  passes one into the array's own block, which `resize` deletes before it is
  read.

  `sort` compares every element with each one behind it, by their indices; it
  is `exchangeSort`, which follows the list instead.
-/
import BcuSdk.Lib.Buffer
import BcuSdk.Lib.CountedLoop
import BcuSdk.Lib.ExchangeSort

namespace BcuSdk.Common

open BcuSdk.Lib

variable {α : Type}

/-! ## The class -/

/-- `Array<T>`. -/
structure ArrayOf (α : Type) where
  count : Word32
  data : Cells α count.toNat
  deriving DecidableEq, Repr

namespace ArrayOf

/-- The elements. -/
def toList (a : ArrayOf α) : List α := a.data.1

@[simp] theorem length_toList (a : ArrayOf α) : a.toList.length = a.count.toNat := a.data.2

/-! A new block holds `fresh`, which is whatever the constructor of `T` leaves there. -/

/-- `resize`. -/
def resize (fresh : Nat → α) (a : ArrayOf α) (newcount : Word32) : Checked (ArrayOf α) :=
  -- no block at all
  if newcount = 0#32 then return ⟨0#32, ⟨[], rfl⟩⟩
  else do
    let kept := if a.count < newcount then a.count else newcount
    let d1 ← forLoop (fun i d1 => do d1.store i (← loadAt a.data.1 i)) 0 kept.toNat
      (Cells.alloc fresh newcount.toNat)
    return ⟨newcount, d1⟩

/-- `set`. -/
def set (fresh : Nat → α) (a : ArrayOf α) (elem : List α) (cnt : Word32) :
    Checked (ArrayOf α) := do
  let a ← a.resize fresh cnt
  let data ← forLoop (fun i data => do data.store i (← loadAt elem i)) 0 cnt.toNat a.data
  return { a with data }

/-- `setpart`. -/
def setpart (fresh : Nat → α) (a : ArrayOf α) (elem : List α) (start cnt : Word32) :
    Checked (ArrayOf α) := do
  let a ← (if cnt + start > a.count then a.resize fresh (cnt + start) else pure a)
  let data ← forLoop
    (fun i data => do data.store (BitVec.ofNat 32 i + start).toNat (← loadAt elem i))
    0 cnt.toNat a.data
  return { a with data }

/-- `deletepart`. -/
def deletepart (fresh : Nat → α) (a : ArrayOf α) (start cnt : Word32) : Checked (ArrayOf α) :=
  if start ≥ a.count then return a
  else if cnt = 0#32 then return a
  else do
    -- at most what there is
    let cnt := if start + cnt ≥ a.count then cnt - (start + cnt - a.count) else cnt
    let data ← forLoop
      (fun i data => do data.store (BitVec.ofNat 32 i - cnt).toNat (← loadAt data.1 i))
      (start + cnt).toNat a.count.toNat a.data
    resize fresh { a with data } (a.count - cnt)

/-- `add`. -/
def add (fresh : Nat → α) (a : ArrayOf α) (elem : α) : Checked (ArrayOf α) := do
  let a ← a.resize fresh (a.count + 1#32)
  let data ← a.data.store (a.count - 1#32).toNat elem
  return { a with data }

/-- `insert`. -/
def insert (fresh : Nat → α) (a : ArrayOf α) (pos : Word32) (elem : α) : Checked (ArrayOf α) :=
  if pos ≥ a.count then a.add fresh elem
  else do
    let d1 ← forLoop (fun i d1 => do d1.store i (← loadAt a.data.1 i)) 0 pos.toNat
      (Cells.alloc fresh (a.count + 1#32).toNat)
    -- into the old block, whose elements from `pos` on are copied next
    let data ← a.data.store pos.toNat elem
    let d1 ← forLoop (fun i d1 => do d1.store (i + 1) (← loadAt data.1 i)) pos.toNat
      a.count.toNat d1
    return ⟨a.count + 1#32, d1⟩

end ArrayOf

/-! ## Lists -/

/-- Truncation or extension to `n` elements. -/
def resizeTo (fresh : Nat → α) (xs : List α) (n : Nat) : List α :=
  xs.take n ++ (List.range' xs.length (n - xs.length)).map fresh

/-- `part` is written at `start`, and the list extended if that reaches past its end. -/
def overwriteAt (fresh : Nat → α) (xs part : List α) (start : Nat) : List α :=
  overwrite (resizeTo fresh xs (max xs.length (start + part.length))) part start

/-- At most `cnt` elements are removed, those there are from `start` on. -/
def removeAt (xs : List α) (start cnt : Nat) : List α := xs.take start ++ xs.drop (start + cnt)

/-- `x` is inserted in front of element `pos`, or at the end. -/
def insertBefore (xs : List α) (pos : Nat) (x : α) : List α := xs.take pos ++ x :: xs.drop pos

section Lists

variable {fresh : Nat → α} {xs : List α}

@[simp] theorem length_resizeTo (n : Nat) : (resizeTo fresh xs n).length = n := by
  rw [resizeTo, List.length_append, List.length_take, List.length_map, List.length_range']
  omega

@[simp] theorem resizeTo_length : resizeTo fresh xs xs.length = xs := by
  rw [resizeTo, Nat.sub_self, List.take_length]
  exact List.append_nil xs

theorem resizeTo_of_le {n : Nat} (h : n ≤ xs.length) : resizeTo fresh xs n = xs.take n := by
  rw [resizeTo, Nat.sub_eq_zero_of_le h]
  exact List.append_nil _

theorem length_removeAt_le (xs : List α) (start cnt : Nat) :
    (removeAt xs start cnt).length ≤ xs.length := by
  rw [removeAt, List.length_append, List.length_take, List.length_drop]
  omega

/-- The element behind `pre` is removed. -/
theorem removeAt_append (pre : List α) (x : α) {start : Nat} (h : pre.length = start) :
    removeAt (pre ++ x :: xs) start 1 = pre ++ xs := by
  subst h
  rw [removeAt, List.take_left', List.drop_append]
  · simp
  · rfl

/-- A new block into which the elements that fit have been copied. -/
theorem overwrite_alloc (n : Nat) :
    overwrite (Cells.alloc fresh n).1 (xs.take n) 0 = resizeTo fresh xs n := by
  rw [overwrite, resizeTo, List.take_zero, List.nil_append, Nat.zero_add, List.length_take]
  congr 1
  show ((List.range n).map fresh).drop (min n xs.length) = _
  rw [← List.map_drop, List.range_eq_range', List.drop_range']
  congr 1
  rcases Nat.le_total n xs.length with h | h
  · rw [Nat.min_eq_left h, Nat.sub_self, Nat.sub_eq_zero_of_le h]
    rfl
  · rw [Nat.min_eq_right h, Nat.zero_add, Nat.mul_one]

end Lists

/-! ## What each operation leaves -/

namespace ArrayOf

/-- The operation returns, and the elements are `xs` then. -/
def Leaves (r : Checked (ArrayOf α)) (xs : List α) : Prop := ∃ a, r = .ok a ∧ a.toList = xs

section Leaves

variable {fresh : Nat → α} {a : ArrayOf α}

theorem leaves_iff_of_eq_ok {r : Checked (ArrayOf α)} (h : r = .ok a) {xs : List α} :
    Leaves r xs ↔ a.toList = xs := by
  subst h
  constructor
  · rintro ⟨a', ha, hxs⟩
    cases ha
    exact hxs
  · intro hxs
    exact ⟨a, rfl, hxs⟩

theorem count_eq_of_length {n : Word32} (h : a.toList.length = n.toNat) : a.count = n := by
  rw [length_toList] at h
  exact BitVec.eq_of_toNat_eq h

/-- The cells of `part` are stored one after the other. -/
theorem fill_spec {n : Nat} (b : Cells α n) (elem : List α) {cnt : Nat} (start : Nat)
    (hcnt : cnt ≤ elem.length) (hfit : start + cnt ≤ n) {index : Nat → Nat}
    (hindex : ∀ i < cnt, index i = start + i) :
    ∃ d, forLoop (fun i d => do Cells.store d (index i) (← loadAt elem i)) 0 cnt b = .ok d ∧
      d.1 = overwrite b.1 (elem.take cnt) start := by
  have hlen : (elem.take cnt).length = cnt := by
    rw [List.length_take]
    omega
  refine Cells.forLoop_fill (elem.take cnt) start (by omega) (by omega) ?_
  intro k hk d _
  rw [hlen] at hk
  show (loadAt elem (0 + k) >>= _) = _
  rw [Nat.zero_add, loadAt_of_lt (by omega), Checked.ok_bind, hindex k hk, List.getElem_take]

theorem leaves_resize (fresh : Nat → α) (a : ArrayOf α) (newcount : Word32) :
    Leaves (a.resize fresh newcount) (resizeTo fresh a.toList newcount.toNat) := by
  by_cases hzero : newcount = 0#32
  · subst hzero
    exact ⟨_, if_pos rfl, (resizeTo_of_le (Nat.zero_le _)).symm⟩
  -- the smaller of the two counts is copied
  · have hkept : (if a.count < newcount then a.count else newcount).toNat =
        min newcount.toNat a.toList.length := by
      rw [length_toList]
      split
      · next h =>
        have := BitVec.lt_def.mp h
        omega
      · next h =>
        have := BitVec.not_lt.mp h
        have := BitVec.le_def.mp this
        omega
    obtain ⟨d, hloop, hd⟩ := fill_spec (Cells.alloc fresh newcount.toNat) a.toList 0
      (Nat.min_le_right newcount.toNat a.toList.length) (by omega) fun i _ => (Nat.zero_add i).symm
    refine ⟨⟨newcount, d⟩, ?_, ?_⟩
    · rw [resize, if_neg hzero]
      show (forLoop _ 0 (BitVec.toNat _) _ >>= _) = _
      rw [hkept]
      show (forLoop (fun i d1 => loadAt a.toList i >>= _) 0 _ _ >>= _) = _
      rw [hloop]
      rfl
    · show d.1 = _
      rw [hd, ← List.take_eq_take_min, overwrite_alloc]

theorem leaves_set (fresh : Nat → α) (a : ArrayOf α) {elem : List α} {cnt : Word32}
    (hcnt : cnt.toNat ≤ elem.length) :
    Leaves (a.set fresh elem cnt) (elem.take cnt.toNat) := by
  obtain ⟨a₁, hresize, hlist⟩ := leaves_resize fresh a cnt
  have hcount : a₁.count = cnt := by
    apply count_eq_of_length
    rw [hlist, length_resizeTo]
  obtain ⟨d, hloop, hd⟩ := fill_spec a₁.data elem 0 hcnt (by rw [hcount]; omega) fun i _ =>
    (Nat.zero_add i).symm
  refine ⟨⟨a₁.count, d⟩, ?_, ?_⟩
  · rw [set, hresize, Checked.ok_bind, hloop]
    rfl
  · show d.1 = _
    rw [hd]
    apply overwrite_all
    rw [a₁.data.2, hcount, List.length_take]
    omega

theorem leaves_setpart (fresh : Nat → α) (a : ArrayOf α) {elem : List α} {start cnt : Word32}
    (hcnt : cnt.toNat ≤ elem.length) (hend : start.toNat + cnt.toNat < 2 ^ 32) :
    Leaves (a.setpart fresh elem start cnt)
      (overwriteAt fresh a.toList (elem.take cnt.toNat) start.toNat) := by
  have hadd : (cnt + start).toNat = start.toNat + cnt.toNat := by
    rw [BitVec.add_comm]
    exact BitVec.toNat_add_of_lt hend
  have htake : (elem.take cnt.toNat).length = cnt.toNat := by
    rw [List.length_take]
    omega
  -- the array is extended only if the part reaches past its end
  have hgrow : Leaves (if cnt + start > a.count then a.resize fresh (cnt + start) else pure a)
      (resizeTo fresh a.toList (max a.toList.length (start.toNat + cnt.toNat))) := by
    rw [length_toList]
    split
    · next h =>
      have hlt : a.count.toNat < start.toNat + cnt.toNat := hadd ▸ BitVec.lt_def.mp h
      rw [Nat.max_eq_right hlt.le, ← hadd]
      exact leaves_resize fresh a (cnt + start)
    · next h =>
      have hle : start.toNat + cnt.toNat ≤ a.count.toNat :=
        hadd ▸ BitVec.le_def.mp (BitVec.not_lt.mp h)
      rw [Nat.max_eq_left hle, ← length_toList, resizeTo_length]
      exact ⟨a, rfl, rfl⟩
  obtain ⟨a₁, hresize, hlist⟩ := hgrow
  have hcount : start.toNat + cnt.toNat ≤ a₁.count.toNat := by
    rw [← length_toList, hlist, length_resizeTo]
    exact Nat.le_max_right ..
  have hindex : ∀ i < cnt.toNat, (BitVec.ofNat 32 i + start).toNat = start.toNat + i := by
    intro i hi
    rw [BitVec.toNat_add, BitVec.toNat_ofNat]
    omega
  obtain ⟨d, hloop, hd⟩ := fill_spec a₁.data elem start.toNat hcnt hcount hindex
  refine ⟨⟨a₁.count, d⟩, ?_, ?_⟩
  · rw [setpart, hresize, Checked.ok_bind, hloop]
    rfl
  · show d.1 = _
    rw [hd, overwriteAt, htake, ← hlist]
    rfl

theorem leaves_add_iff (fresh : Nat → α) (a : ArrayOf α) (x : α) :
    Leaves (a.add fresh x) (a.toList ++ [x]) ↔ a.count.toNat + 1 < 2 ^ 32 := by
  obtain ⟨a₁, hresize, hlist⟩ := leaves_resize fresh a (a.count + 1#32)
  have hcount : a₁.count = a.count + 1#32 := by
    apply count_eq_of_length
    rw [hlist, length_resizeTo]
  have hbits := a.count.isLt
  have hadd : (a.count + 1#32).toNat = (a.count.toNat + 1) % 2 ^ 32 := by
    rw [BitVec.toNat_add]
    rfl
  have hlast : (a₁.count - 1#32).toNat = a.count.toNat := by
    rw [hcount, BitVec.add_sub_cancel]
  by_cases hroom : a.count.toNat + 1 < 2 ^ 32
  · rw [Nat.mod_eq_of_lt hroom] at hadd
    refine iff_of_true ⟨⟨a₁.count, ⟨a₁.data.1.set a.count.toNat x, ?_⟩⟩, ?_, ?_⟩ hroom
    · rw [List.length_set, a₁.data.2]
    · rw [add, hresize, Checked.ok_bind, hlast, Cells.store_of_lt _ (by rw [hcount]; omega)]
      rfl
    · show a₁.toList.set a.count.toNat x = _
      rw [hlist, hadd, resizeTo, length_toList, Nat.add_sub_cancel_left,
        List.take_of_length_le (by rw [length_toList]; omega),
        List.set_append_right _ _ (by rw [length_toList]), length_toList, Nat.sub_self]
      rfl
  · -- the count has wrapped to 0, and the block is gone
    have hzero : a₁.count.toNat = 0 := by
      rw [hcount, hadd]
      omega
    refine iff_of_false ?_ hroom
    rintro ⟨a', hadd', -⟩
    rw [add, hresize, Checked.ok_bind, hlast, Cells.store_of_ge _ (by omega)] at hadd'
    cases hadd'

/-- The elements behind the removed ones move up, and the rest is cut off. -/
theorem leaves_moveUp (fresh : Nat → α) (a : ArrayOf α) (start cnt : Word32)
    (hend : start.toNat + cnt.toNat ≤ a.count.toNat) :
    Leaves (do
      let data ← forLoop
        (fun i data => do data.store (BitVec.ofNat 32 i - cnt).toNat (← loadAt data.1 i))
        (start + cnt).toNat a.count.toNat a.data
      resize fresh { a with data } (a.count - cnt))
      (removeAt a.toList start.toNat cnt.toNat) := by
  have hbits := a.count.isLt
  have hadd : (start + cnt).toNat = start.toNat + cnt.toNat :=
    BitVec.toNat_add_of_lt (by omega)
  have hlen : (a.toList.drop (start.toNat + cnt.toNat)).length =
      a.count.toNat - (start.toNat + cnt.toNat) := by
    rw [List.length_drop, length_toList]
  have hfill : ∃ d, forLoop
      (fun i data => do Cells.store data (BitVec.ofNat 32 i - cnt).toNat (← loadAt data.1 i))
        (start + cnt).toNat a.count.toNat a.data = .ok d ∧
      d.1 = overwrite a.data.1 (a.toList.drop (start.toNat + cnt.toNat)) start.toNat := by
    refine Cells.forLoop_fill _ start.toNat (by omega) (by omega) ?_
    intro k hk d hd
    rw [hlen] at hk
    have htake : ((a.toList.drop (start.toNat + cnt.toNat)).take k).length = k := by
      rw [List.length_take, hlen]
      omega
    have hindex : (BitVec.ofNat 32 (start.toNat + cnt.toNat + k) - cnt).toNat = start.toNat + k := by
      rw [BitVec.toNat_sub, BitVec.toNat_ofNat]
      omega
    -- what is read has not been written yet
    have hread : d.1[start.toNat + cnt.toNat + k]? =
        some (a.toList.drop (start.toNat + cnt.toNat))[k] := by
      rw [hd, getElem?_overwrite_behind, List.getElem_drop]
      · exact List.getElem?_eq_getElem _
      · rw [htake, a.data.2]
        omega
      · rw [htake]
        omega
    show (loadAt d.1 ((start + cnt).toNat + k) >>= _) = _
    rw [hadd, loadAt_of_getElem? hread, Checked.ok_bind, hindex]
  obtain ⟨d, hloop, hd⟩ := hfill
  have hsub : (a.count - cnt).toNat = a.count.toNat - cnt.toNat :=
    BitVec.toNat_sub_of_le (BitVec.le_def.mpr (by omega))
  rw [hloop, Checked.ok_bind]
  have hcut := leaves_resize fresh ⟨a.count, d⟩ (a.count - cnt)
  have hleft : resizeTo fresh (toList ⟨a.count, d⟩) (a.count - cnt).toNat =
      removeAt a.toList start.toNat cnt.toNat := by
    rw [resizeTo_of_le (by rw [length_toList, hsub]; exact Nat.sub_le ..), hsub]
    show d.1.take _ = _
    rw [hd, overwrite]
    apply List.take_left'
    rw [List.length_append, List.length_take, hlen, a.data.2]
    omega
  rwa [hleft] at hcut

theorem leaves_deletepart (fresh : Nat → α) (a : ArrayOf α) {start cnt : Word32}
    (hend : start.toNat + cnt.toNat < 2 ^ 32) :
    Leaves (a.deletepart fresh start cnt) (removeAt a.toList start.toNat cnt.toNat) := by
  have hbits := a.count.isLt
  have hadd : (start + cnt).toNat = start.toNat + cnt.toNat := BitVec.toNat_add_of_lt hend
  rw [deletepart]
  split
  · next h =>
    have hle : a.toList.length ≤ start.toNat := by
      rw [length_toList]
      exact BitVec.le_def.mp h
    refine ⟨a, rfl, ?_⟩
    rw [removeAt, List.take_of_length_le hle, List.drop_of_length_le (by omega)]
    exact (List.append_nil _).symm
  · next h =>
    have hlt : start.toNat < a.count.toNat := BitVec.lt_def.mp (BitVec.not_le.mp h)
    split
    · next hzero =>
      subst hzero
      exact ⟨a, rfl, (List.take_append_drop start.toNat a.toList).symm⟩
    · split
      -- the count is cut down to the entries that are there
      · next hpast =>
        have hpast : a.count.toNat ≤ start.toNat + cnt.toNat := hadd ▸ BitVec.le_def.mp hpast
        have hcut : (cnt - (start + cnt - a.count)).toNat = a.count.toNat - start.toNat := by
          rw [BitVec.toNat_sub, BitVec.toNat_sub, hadd]
          omega
        have hmove := leaves_moveUp fresh a start (cnt - (start + cnt - a.count)) (by omega)
        rw [hcut, removeAt, List.drop_of_length_le (by rw [length_toList]; omega)] at hmove
        rw [removeAt, List.drop_of_length_le (by rw [length_toList]; omega)]
        exact hmove
      · next hinside =>
        have hinside : start.toNat + cnt.toNat < a.count.toNat :=
          hadd ▸ BitVec.lt_def.mp (BitVec.not_le.mp hinside)
        exact leaves_moveUp fresh a start cnt hinside.le

theorem toList_of_deletepart {a' : ArrayOf α} {start cnt : Word32}
    (hend : start.toNat + cnt.toNat < 2 ^ 32) (h : a.deletepart fresh start cnt = .ok a') :
    a'.toList = removeAt a.toList start.toNat cnt.toNat :=
  (leaves_iff_of_eq_ok h).mp (leaves_deletepart fresh a hend)

/-- In front of an element: the cell at `pos` is left as it came, and the element at `pos` is
    lost. -/
theorem leaves_insert_inside (fresh : Nat → α) (a : ArrayOf α) {pos : Word32} (x : α)
    (hpos : pos.toNat < a.count.toNat) (hroom : a.count.toNat + 1 < 2 ^ 32) :
    Leaves (a.insert fresh pos x)
      (a.toList.take pos.toNat ++ fresh pos.toNat :: x :: a.toList.drop (pos.toNat + 1)) := by
  have hadd : (a.count + 1#32).toNat = a.count.toNat + 1 := BitVec.toNat_add_of_lt hroom
  have hmoved : (a.toList.set pos.toNat x).drop pos.toNat =
      x :: a.toList.drop (pos.toNat + 1) := by
    rw [List.drop_set, if_neg (Nat.lt_irrefl _), Nat.sub_self,
      List.drop_eq_getElem_cons (by rw [length_toList]; exact hpos), List.set_cons_zero]
  have hlen : ((a.toList.set pos.toNat x).drop pos.toNat).length =
      a.count.toNat - pos.toNat := by
    rw [List.length_drop, List.length_set, length_toList]
  have hle : pos.toNat ≤ a.toList.length := by
    rw [length_toList]
    exact hpos.le
  obtain ⟨d₁, hfront, hd₁⟩ := fill_spec (Cells.alloc fresh (a.count + 1#32).toNat) a.toList 0 hle
    (by omega) fun i _ => (Nat.zero_add i).symm
  have hcopy : ∃ d, forLoop
      (fun i d => do Cells.store d (i + 1) (← loadAt (a.toList.set pos.toNat x) i))
        pos.toNat a.count.toNat d₁ = .ok d ∧
      d.1 = overwrite d₁.1 ((a.toList.set pos.toNat x).drop pos.toNat) (pos.toNat + 1) := by
    refine Cells.forLoop_fill _ (pos.toNat + 1) (by omega) (by omega) ?_
    intro k hk d _
    rw [hlen] at hk
    show (loadAt (a.toList.set pos.toNat x) (pos.toNat + k) >>= _) = _
    rw [loadAt_of_lt (by rw [List.length_set, length_toList]; omega), Checked.ok_bind,
      List.getElem_drop, Nat.add_right_comm]
  obtain ⟨d, hback, hd⟩ := hcopy
  refine ⟨⟨a.count + 1#32, d⟩, ?_, ?_⟩
  · rw [insert, if_neg (BitVec.not_le.mpr (BitVec.lt_def.mpr hpos))]
    show (forLoop (fun i d1 => loadAt a.toList i >>= _) 0 _ _ >>= _) = _
    rw [hfront, Checked.ok_bind, Cells.store_of_lt _ hpos, Checked.ok_bind]
    show (forLoop (fun i d1 => loadAt (a.toList.set pos.toNat x) i >>= _) _ _ _ >>= _) = _
    rw [hback]
    rfl
  · show d.1 = _
    -- the first loop has not written the cell at `pos`, and the second one starts behind it
    have hunset : (Cells.alloc fresh (a.count + 1#32).toNat).1.drop pos.toNat =
        fresh pos.toNat :: (Cells.alloc fresh (a.count + 1#32).toNat).1.drop (pos.toNat + 1) :=
      Cells.drop_alloc fresh (by omega)
    have htake : (a.toList.take pos.toNat).length = pos.toNat := by
      rw [List.length_take, length_toList]
      omega
    have hblock : d₁.1 = (a.toList.take pos.toNat ++ [fresh pos.toNat]) ++
        (Cells.alloc fresh (a.count + 1#32).toNat).1.drop (pos.toNat + 1) := by
      rw [hd₁, overwrite, List.take_zero, List.nil_append, Nat.zero_add, htake, hunset,
        List.append_assoc]
      rfl
    rw [hd, hblock, overwrite_append, hmoved, List.append_assoc]
    · rfl
    · rw [List.length_append, htake]
      rfl
    · rw [hlen, List.length_drop, Cells.length_val]
      omega

/-- With 2^32 - 1 elements the new block has no cells. -/
theorem not_leaves_insert_inside (fresh : Nat → α) (a : ArrayOf α) {pos : Word32} (x : α)
    (hpos : pos.toNat < a.count.toNat) (hfull : ¬ a.count.toNat + 1 < 2 ^ 32) (xs : List α) :
    ¬ Leaves (a.insert fresh pos x) xs := by
  have hbits := a.count.isLt
  have hzero : (a.count + 1#32).toNat = 0 := by
    rw [BitVec.toNat_add]
    show (a.count.toNat + 1) % 2 ^ 32 = 0
    omega
  rintro ⟨a', hrun, -⟩
  rw [insert, if_neg (BitVec.not_le.mpr (BitVec.lt_def.mpr hpos))] at hrun
  obtain ⟨d₁, -, hrun⟩ := Checked.bind_eq_ok.mp hrun
  obtain ⟨data, -, hrun⟩ := Checked.bind_eq_ok.mp hrun
  obtain ⟨d, hback, -⟩ := Checked.bind_eq_ok.mp hrun
  rw [forLoop_of_lt hpos] at hback
  obtain ⟨_, hround, -⟩ := Checked.bind_eq_ok.mp hback
  obtain ⟨y, -, hstore⟩ := Checked.bind_eq_ok.mp hround
  rw [Cells.store_of_ge _ (by omega)] at hstore
  cases hstore

theorem leaves_insert_iff (fresh : Nat → α) (a : ArrayOf α) (pos : Word32) (x : α) :
    Leaves (a.insert fresh pos x) (insertBefore a.toList pos.toNat x) ↔
      a.count.toNat + 1 < 2 ^ 32 ∧
        (a.count ≤ pos ∨ a.toList[pos.toNat]? = some x ∧ fresh pos.toNat = x) := by
  by_cases hend : a.count ≤ pos
  · have hle : a.toList.length ≤ pos.toNat := by
      rw [length_toList]
      exact BitVec.le_def.mp hend
    have hlast : insertBefore a.toList pos.toNat x = a.toList ++ [x] := by
      rw [insertBefore, List.take_of_length_le hle, List.drop_of_length_le hle]
    rw [insert, if_pos hend, hlast, leaves_add_iff, and_iff_left (.inl hend)]
  -- inside, the cell at `pos` is not written, and the entry that was there is lost
  · have hpos : pos.toNat < a.count.toNat := BitVec.lt_def.mp (BitVec.not_le.mp hend)
    by_cases hroom : a.count.toNat + 1 < 2 ^ 32
    · have hlt : pos.toNat < a.toList.length := by
        rw [length_toList]
        exact hpos
      obtain ⟨a', hrun, hlist⟩ := leaves_insert_inside fresh a x hpos hroom
      rw [leaves_iff_of_eq_ok hrun, hlist, and_iff_right hroom, or_iff_right hend, insertBefore,
        List.append_cancel_left_eq, List.drop_eq_getElem_cons hlt, List.getElem?_eq_getElem hlt,
        Option.some_inj]
      constructor
      · intro h
        obtain ⟨hfresh, hrest⟩ := List.cons_eq_cons.mp h
        exact ⟨(List.cons_eq_cons.mp hrest).1.symm, hfresh⟩
      · rintro ⟨hsame, hfresh⟩
        rw [hfresh, hsame]
    · exact iff_of_false (not_leaves_insert_inside fresh a x hpos hroom _) fun h => hroom h.1

end Leaves

/-! ## The class as a list -/

/-- The six operations do to the list of the elements what they are for. -/
structure ImplementsList (fresh : Nat → α) (a : ArrayOf α) (elem : List α)
    (start cnt newcount pos : Word32) (x : α) : Prop where
  set : Leaves (a.set fresh elem cnt) (elem.take cnt.toNat)
  setpart : Leaves (a.setpart fresh elem start cnt)
    (overwriteAt fresh a.toList (elem.take cnt.toNat) start.toNat)
  deletepart : Leaves (a.deletepart fresh start cnt) (removeAt a.toList start.toNat cnt.toNat)
  add : Leaves (a.add fresh x) (a.toList ++ [x])
  insert : Leaves (a.insert fresh pos x) (insertBefore a.toList pos.toNat x)
  resize : Leaves (a.resize fresh newcount) (resizeTo fresh a.toList newcount.toNat)

/-- There is room for another element, and it is inserted at the end or is the one that was lost
    and, by chance, the one that the new block already held. -/
theorem implementsList_iff (fresh : Nat → α) (a : ArrayOf α) {elem : List α}
    {start cnt : Word32} (newcount pos : Word32) (x : α) (hcnt : cnt.toNat ≤ elem.length)
    (hend : start.toNat + cnt.toNat < 2 ^ 32) :
    ImplementsList fresh a elem start cnt newcount pos x ↔
      a.count.toNat + 1 < 2 ^ 32 ∧
        (a.count ≤ pos ∨ a.toList[pos.toNat]? = some x ∧ fresh pos.toNat = x) := by
  rw [← leaves_insert_iff]
  constructor
  · intro h
    exact h.insert
  · intro h
    exact {
      set := leaves_set fresh a hcnt
      setpart := leaves_setpart fresh a hcnt hend
      deletepart := leaves_deletepart fresh a hend
      add := (leaves_add_iff fresh a x).mpr ((leaves_insert_iff fresh a pos x).mp h).1
      insert := h
      resize := leaves_resize fresh a newcount }

/-- The array `{1}`, and the element 2. -/
theorem implementsList_iff_single :
    ImplementsList (fun _ => 0#8) ⟨1#32, ⟨[1#8], rfl⟩⟩ [2#8, 3#8] 3#32 2#32 1#32 1#32 2#8 ↔
      (1#32).toNat + 1 < 2 ^ 32 ∧
        (1#32 ≤ 1#32 ∨ [1#8][(1#32).toNat]? = some 2#8 ∧ 0#8 = 2#8) :=
  implementsList_iff (fun _ => 0#8) ⟨1#32, ⟨[1#8], rfl⟩⟩ 1#32 1#32 2#8 (by decide) (by decide)

/-- 2 is to be inserted in front of 1, and takes its place. -/
theorem insert_loses_element :
    insert (fun _ => 0#8) ⟨1#32, ⟨[1#8], rfl⟩⟩ 0#32 2#8 = .ok ⟨2#32, ⟨[0#8, 2#8], rfl⟩⟩ ∧
      ¬ ImplementsList (fun _ => 0#8) ⟨1#32, ⟨[1#8], rfl⟩⟩ [] 0#32 0#32 0#32 0#32 2#8 := by
  refine ⟨rfl, ?_⟩
  intro h
  obtain ⟨a, hrun, hlist⟩ := h.insert
  cases hrun
  revert hlist
  decide

/-! ## Arrays of bytes -/

theorem resizeTo_eq_regrow (fresh : Nat → Byte) (xs : List Byte) (n : Nat) :
    resizeTo fresh xs n = regrow fresh xs n := by
  apply List.ext_getElem (by rw [length_resizeTo, length_regrow])
  intro i hi _
  rw [length_resizeTo] at hi
  simp only [resizeTo, regrow, List.getElem_map, List.getElem_range]
  rcases Nat.lt_or_ge i xs.length with hlt | hge
  · rw [List.getElem_append_left (by rw [List.length_take]; omega), List.getElem_take,
      List.getD_eq_getElem?_getD, List.getElem?_eq_getElem hlt, Option.getD_some]
  · rw [List.getElem_append_right (by rw [List.length_take]; omega), List.getElem_map,
      List.getElem_range', List.length_take, List.getD_eq_getElem?_getD,
      List.getElem?_eq_none hge, Option.getD_none]
    congr 1
    omega

theorem overwriteAt_eq_setpart (fresh : Nat → Byte) {xs part : List Byte} {start : Nat}
    (h : start ≤ xs.length) : overwriteAt fresh xs part start = Lib.setpart xs part start := by
  rw [overwriteAt, overwrite, resizeTo, List.take_of_length_le (Nat.le_max_left ..),
    List.take_append_of_le_length h, List.drop_append, Lib.setpart]
  -- nothing of the extension is behind the part
  rw [List.drop_of_length_le (l := List.map _ _), List.append_nil]
  rw [List.length_map, List.length_range']
  omega

/-- A `CArray` does what the functions on byte lists do that the codecs are made of. -/
theorem byteArray_refines (fresh : Nat → Byte) (a : ArrayOf Byte) {elem : List Byte}
    {start cnt : Word32} (newcount : Word32) (hcnt : cnt.toNat ≤ elem.length)
    (hstart : start.toNat ≤ a.toList.length) (hend : start.toNat + cnt.toNat < 2 ^ 32) :
    Leaves (a.resize fresh newcount) (regrow fresh a.toList newcount.toNat) ∧
      Leaves (a.setpart fresh elem start cnt)
        (Lib.setpart a.toList (elem.take cnt.toNat) start.toNat) ∧
      Leaves (a.deletepart fresh start cnt)
        (Lib.deletepart a.toList start.toNat cnt.toNat) := by
  refine ⟨?_, ?_, leaves_deletepart fresh a hend⟩
  · rw [← resizeTo_eq_regrow]
    exact leaves_resize fresh a newcount
  · rw [← overwriteAt_eq_setpart fresh hstart]
    exact leaves_setpart fresh a hcnt hend

end ArrayOf

/-! ## Sorting -/

section Sorting

variable {κ : Type} [LinearOrder κ] {n : Nat}

/-- `if (data[i] > data[j])`: the two change places. -/
def exchange (key : α → κ) (i j : Nat) (data : Cells α n) : Checked (Cells α n) := do
  if key (← loadAt data.1 i) > key (← loadAt data.1 j) then
    let x ← loadAt data.1 i
    let data ← data.store i (← loadAt data.1 j)
    data.store j x
  else return data

/-- `sort`; the elements are compared by what `key` makes of them. -/
def sort (key : α → κ) (data : Cells α n) : Checked (Cells α n) :=
  forLoop (fun i data => forLoop (exchange key i) (i + 1) n data) 0 n data

variable {key : α → κ} {data : Cells α n} {pre done rest : List α} {x y : α} {i j : Nat}

theorem exchange_of_lt (hdata : data.1 = pre ++ x :: (done ++ y :: rest)) (hi : pre.length = i)
    (hj : (pre ++ x :: done).length = j) (h : key y < key x) :
    ∃ d, exchange key i j data = .ok d ∧ d.1 = pre ++ y :: (done ++ x :: rest) := by
  have hdata' : data.1 = (pre ++ x :: done) ++ y :: rest := by
    rw [hdata, List.append_assoc, List.cons_append]
  have hx : loadAt data.1 i = .ok x := loadAt_append hdata hi
  have hy : loadAt data.1 j = .ok y := loadAt_append hdata' hj
  obtain ⟨d₁, hfirst, hd₁⟩ := Cells.store_append hdata hi y
  have hd₁' : d₁.1 = (pre ++ y :: done) ++ y :: rest := by
    rw [hd₁, List.append_assoc, List.cons_append]
  have hj' : (pre ++ y :: done).length = j := by
    rw [← hj, List.length_append, List.length_append, List.length_cons, List.length_cons]
  obtain ⟨d, hsecond, hd⟩ := Cells.store_append hd₁' hj' x
  refine ⟨d, ?_, by rw [hd, List.append_assoc, List.cons_append]⟩
  rw [exchange, hx, hy]
  show (if key y < key x then _ else _) = _
  rw [if_pos h, Checked.ok_bind, Checked.ok_bind, hfirst, Checked.ok_bind, hsecond]

theorem exchange_of_not_lt (hdata : data.1 = pre ++ x :: (done ++ y :: rest))
    (hi : pre.length = i) (hj : (pre ++ x :: done).length = j) (h : ¬ key y < key x) :
    exchange key i j data = .ok data := by
  have hdata' : data.1 = (pre ++ x :: done) ++ y :: rest := by
    rw [hdata, List.append_assoc, List.cons_append]
  rw [exchange, loadAt_append hdata hi, loadAt_append hdata' hj]
  exact if_neg h

/-- The inner loop: `done` has been compared, `rest` is left. -/
theorem forLoop_exchange (hdata : data.1 = pre ++ x :: (done ++ rest)) (hi : pre.length = i)
    (hj : (pre ++ x :: done).length = j) :
    ∃ d, forLoop (exchange key i) j n data = .ok d ∧
      d.1 = pre ++ (sift key x rest).1 :: (done ++ (sift key x rest).2) := by
  have hn : j + rest.length = n := by
    rw [← data.2, hdata, ← hj]
    simp only [List.length_append, List.length_cons]
    omega
  -- `done` grows by what a round leaves behind
  induction rest generalizing x done j data with
  | nil =>
      exact ⟨data, forLoop_of_le hn.ge, hdata⟩
  | cons y ys ih =>
      rw [List.length_cons] at hn
      have hnext : ∀ z w : α, (pre ++ z :: (done ++ [w])).length = j + 1 := by
        intro z w
        rw [← hj]
        simp only [List.length_append, List.length_cons, List.length_nil]
        omega
      rw [forLoop_of_lt (by omega)]
      by_cases h : key y < key x
      · obtain ⟨d₁, hround, hd₁⟩ := exchange_of_lt hdata hi hj h
        rw [hround, Checked.ok_bind, sift_of_lt h]
        have hstart : d₁.1 = pre ++ y :: ((done ++ [x]) ++ ys) := by
          rw [hd₁, List.append_assoc, List.singleton_append]
        obtain ⟨d, hrest, hd⟩ := ih hstart (hnext y x) (by omega)
        exact ⟨d, hrest, by rw [hd, List.append_assoc, List.singleton_append]⟩
      · rw [exchange_of_not_lt hdata hi hj h, Checked.ok_bind, sift_of_not_lt h]
        have hstart : data.1 = pre ++ x :: ((done ++ [y]) ++ ys) := by
          rw [hdata, List.append_assoc, List.singleton_append]
        obtain ⟨d, hrest, hd⟩ := ih hstart (hnext x y) (by omega)
        exact ⟨d, hrest, by rw [hd, List.append_assoc, List.singleton_append]⟩

/-- The outer loop: what stands in front of index `i` is in its place. -/
theorem forLoop_sort (hdata : data.1 = pre ++ rest) (hi : pre.length = i) :
    ∃ d, forLoop (fun i data => forLoop (exchange key i) (i + 1) n data) i n data = .ok d ∧
      d.1 = pre ++ exchangeSort key rest := by
  have hn : i + rest.length = n := by
    rw [← data.2, hdata, List.length_append, hi]
  induction hm : rest.length generalizing rest pre i data with
  | zero =>
      rw [List.length_eq_zero_iff.mp hm] at hdata ⊢
      exact ⟨data, forLoop_of_le (by omega), hdata⟩
  | succ m ih =>
      obtain ⟨x, xs, rfl⟩ := List.exists_cons_of_length_eq_add_one hm
      have hnext : (pre ++ [x]).length = i + 1 := by
        rw [List.length_append, hi]
        rfl
      obtain ⟨d₁, hpass, hd₁⟩ : ∃ d, forLoop (exchange key i) (i + 1) n data = .ok d ∧
          d.1 = pre ++ (sift key x xs).1 :: ([] ++ (sift key x xs).2) :=
        forLoop_exchange hdata hi hnext
      have hstart : d₁.1 = (pre ++ [(sift key x xs).1]) ++ (sift key x xs).2 := by
        rw [hd₁, List.append_assoc, List.singleton_append]
        rfl
      have hlen : (sift key x xs).2.length = m := by
        rw [length_sift]
        exact Nat.succ.inj hm
      obtain ⟨d, hrest, hd⟩ := ih hstart (i := i + 1) (by rw [List.length_append, hi]; rfl)
        (by omega) hlen
      refine ⟨d, ?_, ?_⟩
      · rw [forLoop_of_lt (by omega), hpass, Checked.ok_bind, hrest]
      · rw [hd, exchangeSort_cons, List.append_assoc, List.singleton_append]

/-- The nested loops are the sort that follows the list. -/
theorem sort_eq (key : α → κ) (data : Cells α n) :
    ∃ d, sort key data = .ok d ∧ d.1 = exchangeSort key data.1 := by
  have hdata : data.1 = [] ++ data.1 := rfl
  exact forLoop_sort hdata rfl

end Sorting

end BcuSdk.Common
