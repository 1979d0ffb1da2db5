/-
  BcuSdk.Lib.Buffer

  A buffer that is allocated, written at given offsets and read back at given
  offsets.

  `resize` is a fresh allocation whose contents nobody has written yet,
  `setpart` overwrites a window, `ByteBlock n` is a value of exactly `n`
  bytes.  A read after a write is either the written block or the read before
  the write; with these lemmas an encoder and a decoder that each count their
  offsets by hand are compared offset by offset.
-/
import BcuSdk.Lib.Checked

namespace BcuSdk.Lib

/-! ## Writing -/

/-- `n` bytes of memory nobody has written; `fresh` is what they happen to hold. -/
def resize (fresh : Nat → Byte) (n : Nat) : List Byte := (List.range n).map fresh

/-- `Array::resize`, `realloc`: of the old contents as much is kept as fits; `fresh` is what the
    memory behind it happens to hold. -/
def regrow (fresh : Nat → Byte) (data : List Byte) (n : Nat) : List Byte :=
  (List.range n).map fun i => data.getD i (fresh i)

/-- `memcpy (data + start, part, …)`: the window of `part` at `start` is overwritten, and the
    buffer grows if the window reaches past its end. -/
def setpart (data part : List Byte) (start : Nat) : List Byte :=
  data.take start ++ part ++ data.drop (start + part.length)

/-- `Array::deletepart`: at most what is there is removed. -/
def deletepart (data : List Byte) (start cnt : Nat) : List Byte :=
  data.take start ++ data.drop (start + cnt)

@[simp] theorem deletepart_zero (data : List Byte) (cnt : Nat) :
    deletepart data 0 cnt = data.drop cnt := by
  rw [deletepart, Nat.zero_add]
  rfl

@[simp] theorem length_resize (fresh : Nat → Byte) (n : Nat) : (resize fresh n).length = n := by
  simp [resize]

@[simp] theorem length_regrow (fresh : Nat → Byte) (data : List Byte) (n : Nat) :
    (regrow fresh data n).length = n := by
  rw [regrow, List.length_map, List.length_range]

theorem length_setpart {data part : List Byte} {start : Nat} (h : start ≤ data.length) :
    (setpart data part start).length = max data.length (start + part.length) := by
  simp only [setpart, List.length_append, List.length_take, List.length_drop]
  omega

/-- A write inside the buffer keeps its length. -/
theorem length_setpart_inside {data part : List Byte} {start : Nat}
    (h : start + part.length ≤ data.length) :
    (setpart data part start).length = data.length := by
  rw [length_setpart (by omega)]
  omega

/-- Index `i` reads the written window inside of it and the old contents elsewhere. -/
theorem getElem?_setpart {data part : List Byte} {start : Nat} (h : start ≤ data.length)
    (i : Nat) :
    (setpart data part start)[i]? =
      if start ≤ i ∧ i < start + part.length then part[i - start]? else data[i]? := by
  have htake : (data.take start).length = start := by
    rw [List.length_take]
    omega
  simp only [setpart, List.append_assoc]
  by_cases hlo : i < start
  · rw [if_neg (by omega), List.getElem?_append_left (by omega), List.getElem?_take_of_lt hlo]
  · rw [List.getElem?_append_right (by omega), htake]
    by_cases hhi : i < start + part.length
    · rw [if_pos (by omega), List.getElem?_append_left (by omega)]
    · rw [if_neg (by omega), List.getElem?_append_right (by omega), List.getElem?_drop]
      congr 1
      omega

/-! ## Reading back -/

theorem readByte_of_getElem? {data : List Byte} {i : Nat} {b : Byte} (h : data[i]? = some b) :
    readByte data i = .ok b := by
  simp [readByte, h]

/-- A slice is determined by its bytes. -/
theorem readSlice_of_getElem? {data part : List Byte} {start : Nat}
    (hlen : start + part.length ≤ data.length)
    (h : ∀ i < part.length, data[start + i]? = part[i]?) :
    readSlice data start part.length = .ok part := by
  rw [readSlice_of_le hlen]
  congr 1
  apply List.ext_getElem?
  intro i
  by_cases hi : i < part.length
  · rw [List.getElem?_take_of_lt hi, List.getElem?_drop, h i hi]
  · rw [List.getElem?_eq_none (by rw [List.length_take]; omega),
      List.getElem?_eq_none (by omega)]

/-- The window just written reads back. -/
theorem readSlice_setpart {data part : List Byte} {start : Nat} (h : start ≤ data.length) :
    readSlice (setpart data part start) start part.length = .ok part := by
  apply readSlice_of_getElem?
  · rw [length_setpart h]
    omega
  · intro i hi
    rw [getElem?_setpart h, if_pos (by omega)]
    congr 1
    omega

/-- A slice next to the written window reads as before. -/
theorem readSlice_setpart_disjoint {data part : List Byte} {start i n : Nat}
    (h : start ≤ data.length) (hin : i + n ≤ data.length)
    (hd : i + n ≤ start ∨ start + part.length ≤ i) :
    readSlice (setpart data part start) i n = readSlice data i n := by
  have hlen : (setpart data part start).length = max data.length (start + part.length) :=
    length_setpart h
  rw [readSlice_of_le (by omega), readSlice_of_le hin]
  congr 1
  apply List.ext_getElem?
  intro j
  by_cases hj : j < n
  · rw [List.getElem?_take_of_lt hj, List.getElem?_take_of_lt hj, List.getElem?_drop,
      List.getElem?_drop, getElem?_setpart h, if_neg (by omega)]
  · rw [List.getElem?_eq_none (by rw [List.length_take]; omega),
      List.getElem?_eq_none (by rw [List.length_take]; omega)]

theorem readByte_setpart_disjoint {data part : List Byte} {start i : Nat}
    (h : start ≤ data.length) (hd : i < start ∨ start + part.length ≤ i) :
    readByte (setpart data part start) i = readByte data i := by
  unfold readByte
  rw [getElem?_setpart h, if_neg (by omega)]

/-- A part that starts at the end of a buffer is appended. -/
theorem setpart_end {data : List Byte} (part : List Byte) {start : Nat}
    (h : data.length = start) : setpart data part start = data ++ part := by
  simp [setpart, ← h]

/-- A part that starts where what is known of the buffer ends. -/
theorem setpart_append (pre junk part : List Byte) {start : Nat} (h : pre.length = start) :
    setpart (pre ++ junk) part start = pre ++ part ++ junk.drop part.length := by
  subst h
  simp [setpart, ← List.drop_drop]

/-! A read that ends before `rest` does not see it. -/

theorem readByte_append_left {data : List Byte} (rest : List Byte) {i : Nat}
    (h : i < data.length) : readByte (data ++ rest) i = readByte data i := by
  unfold readByte
  rw [List.getElem?_append_left h]

theorem readSlice_append_left {data : List Byte} (rest : List Byte) {i n : Nat}
    (h : i + n ≤ data.length) : readSlice (data ++ rest) i n = readSlice data i n := by
  rw [readSlice_of_le (by rw [List.length_append]; omega), readSlice_of_le h,
    List.drop_append_of_le_length (by omega), List.take_append_of_le_length]
  rw [List.length_drop]
  omega

/-- The end of a buffer is what follows its first part. -/
theorem readSlice_append_right (data rest : List Byte) :
    readSlice (data ++ rest) data.length rest.length = .ok rest := by
  rw [readSlice_of_le (by rw [List.length_append])]
  simp

/-- A loop that reads element `i` in its `i`-th round reads the list. -/
theorem mapM_range_eq_ok {α : Type} {f : Nat → Checked α} {l : List α}
    (h : ∀ (i : Nat) (hi : i < l.length), f i = .ok l[i]) :
    (List.range l.length).mapM f = .ok l := by
  -- for the induction the loop begins at any `s`
  have hfrom : ∀ (l : List α) (s : Nat), (∀ (i : Nat) (hi : i < l.length), f (s + i) = .ok l[i]) →
      (List.range' s l.length).mapM f = .ok l := by
    intro l
    induction l with
    | nil =>
        intro s _
        rfl
    | cons a l ih =>
        intro s hf
        have hhead : f s = .ok a := hf 0 (by simp)
        have htail : (List.range' (s + 1) l.length).mapM f = .ok l := by
          apply ih
          intro i hi
          have hnext := hf (i + 1) (by simpa using hi)
          rw [Nat.add_assoc, Nat.add_comm 1 i]
          simpa using hnext
        rw [List.length_cons, List.range'_succ, List.mapM_cons, hhead, Checked.ok_bind, htail]
        rfl
  rw [List.range_eq_range']
  apply hfrom
  simpa using h

/-! ## Blocks of fixed size -/

/-- `n` bytes. -/
abbrev ByteBlock (n : Nat) := { bs : List Byte // bs.length = n }

namespace ByteBlock

variable {n m : Nat}

/-- `new uchar[n]`. -/
def alloc (fresh : Nat → Byte) (n : Nat) : ByteBlock n := ⟨resize fresh n, length_resize fresh n⟩

/-- `memset (…, 0, n)`. -/
def zero (n : Nat) : ByteBlock n := ⟨List.replicate n 0#8, List.length_replicate⟩

/-- `part` is copied to offset `start`. -/
def write (b : ByteBlock n) (start : Nat) (part : ByteBlock m) (h : start + m ≤ n := by omega) :
    ByteBlock n :=
  ⟨setpart b.1 part.1 start, by
    rw [length_setpart_inside (by rw [b.2, part.2]; exact h), b.2]⟩

/-- `b[i] = x`. -/
def set (b : ByteBlock n) (i : Nat) (x : Byte) (h : i < n := by omega) : ByteBlock n :=
  b.write i (⟨[x], rfl⟩ : ByteBlock 1) h

/-- The `n` bytes of `data` from `start` on. -/
def read (data : List Byte) (start n : Nat) : Checked (ByteBlock n) :=
  if h : start + n ≤ data.length then
    .ok ⟨(data.drop start).take n, by rw [List.length_take, List.length_drop]; omega⟩
  else .error .outOfBounds

theorem read_eq_ok {data : List Byte} {start : Nat} {b : ByteBlock n} :
    read data start n = .ok b ↔ readSlice data start n = .ok b.1 := by
  unfold read readSlice
  split
  · simp [Subtype.ext_iff]
  · simp

theorem read_returns {data : List Byte} {start : Nat} (h : start + n ≤ data.length) :
    (read data start n).Returns := by
  rw [read, dif_pos h]
  exact ⟨_, rfl⟩

@[simp] theorem length_val (b : ByteBlock n) : b.1.length = n := b.2

/-! A block reads back what was written to it. -/

@[simp] theorem readSlice_write (b : ByteBlock n) (start : Nat) (part : ByteBlock m)
    (h : start + m ≤ n) : readSlice (b.write start part h).1 start m = .ok part.1 := by
  have hread : readSlice (setpart b.1 part.1 start) start part.1.length = .ok part.1 :=
    readSlice_setpart (by rw [b.2]; omega)
  rwa [part.2] at hread

theorem readSlice_write_disjoint (b : ByteBlock n) {start i k : Nat} (part : ByteBlock m)
    (h : start + m ≤ n) (hin : i + k ≤ n) (hd : i + k ≤ start ∨ start + m ≤ i) :
    readSlice (b.write start part h).1 i k = readSlice b.1 i k := by
  apply readSlice_setpart_disjoint
  · rw [b.2]
    omega
  · rw [b.2]
    exact hin
  · rwa [part.2]

/-- Byte `i` of the part that was written at `start`. -/
theorem readByte_write_at (b : ByteBlock n) {start i : Nat} (part : ByteBlock m)
    (h : start + m ≤ n) (hi : i < m) :
    readByte (b.write start part h).1 (start + i) = readByte part.1 i := by
  unfold readByte write
  rw [getElem?_setpart (by rw [b.2]; omega), if_pos (by rw [part.2]; omega),
    Nat.add_sub_cancel_left]

theorem readByte_write_disjoint (b : ByteBlock n) {start i : Nat} (part : ByteBlock m)
    (h : start + m ≤ n) (hd : i < start ∨ start + m ≤ i) :
    readByte (b.write start part h).1 i = readByte b.1 i := by
  apply readByte_setpart_disjoint
  · rw [b.2]
    omega
  · rwa [part.2]

@[simp] theorem readByte_set (b : ByteBlock n) (i : Nat) (x : Byte) (h : i < n) :
    readByte (b.set i x h).1 i = .ok x := by
  apply readByte_of_getElem?
  simp only [set, write]
  rw [getElem?_setpart (by rw [b.2]; omega), if_pos (by simp)]
  simp

theorem readByte_set_ne (b : ByteBlock n) {i j : Nat} (x : Byte) (h : i < n) (hne : j ≠ i) :
    readByte (b.set i x h).1 j = readByte b.1 j :=
  readByte_write_disjoint b _ h (by omega)

theorem readSlice_set_disjoint (b : ByteBlock n) {i j k : Nat} (x : Byte) (h : i < n)
    (hin : j + k ≤ n) (hd : j + k ≤ i ∨ i + 1 ≤ j) :
    readSlice (b.set i x h).1 j k = readSlice b.1 j k :=
  readSlice_write_disjoint b _ h hin hd

theorem readByte_append (b : ByteBlock n) (rest : List Byte) {i : Nat} (h : i < n) :
    readByte (b.1 ++ rest) i = readByte b.1 i :=
  readByte_append_left rest (by rw [b.2]; exact h)

theorem readSlice_append (b : ByteBlock n) (rest : List Byte) {i k : Nat} (h : i + k ≤ n) :
    readSlice (b.1 ++ rest) i k = readSlice b.1 i k :=
  readSlice_append_left rest (by rw [b.2]; exact h)

theorem getElem?_set (b : ByteBlock n) (i j : Nat) (x : Byte) (h : i < n) :
    (b.set i x h).1[j]? = if j = i then some x else b.1[j]? := by
  simp only [set, write]
  rw [getElem?_setpart (by rw [b.2]; omega)]
  by_cases hj : j = i
  · rw [if_pos (by simp only [List.length_singleton]; omega), if_pos hj, hj]
    simp
  · rw [if_neg (by simp only [List.length_singleton]; omega), if_neg hj]

/-- Writing a byte that is already there changes nothing. -/
theorem set_self (b : ByteBlock n) {i : Nat} {x : Byte} (h : i < n) (hx : b.1[i]? = some x) :
    b.set i x h = b := by
  apply Subtype.ext
  apply List.ext_getElem?
  intro j
  rw [getElem?_set]
  split
  · next hj => rw [hj, hx]
  · rfl

/-- A part keeps its contents if one of its own bytes is written to it again. -/
theorem readSlice_set_within (b : ByteBlock n) {start j : Nat} {x : Byte} (part : ByteBlock m)
    (h : start + m ≤ n) (hset : start + j < n) (hx : part.1[j]? = some x) :
    readSlice ((b.write start part h).set (start + j) x hset).1 start m = .ok part.1 := by
  have hlen : start + m ≤ b.1.length := by rw [b.2]; exact h
  have hread : readSlice ((b.write start part h).set (start + j) x hset).1 start
      part.1.length = .ok part.1 := by
    apply readSlice_of_getElem?
    · rw [length_val, length_val]
      exact h
    · intro i hi
      rw [length_val] at hi
      rw [getElem?_set]
      by_cases hj : i = j
      · rw [if_pos (by rw [hj]), hj, hx]
      · rw [if_neg (by omega)]
        simp only [write]
        rw [getElem?_setpart (by omega), if_pos (by rw [length_val]; omega),
          Nat.add_sub_cancel_left]
  rwa [part.2] at hread

end ByteBlock

end BcuSdk.Lib
