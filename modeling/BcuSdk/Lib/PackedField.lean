/-
  BcuSdk.Lib.PackedField

  Fields of a fixed number of bytes, and arrays of them.

  A `PackedField` packs a value into `size` bytes and reads it back at any offset.
  Its two laws say that a read finds what was packed and that nothing else
  is packed there; for an array of fields both follow by induction.
-/
import BcuSdk.Lib.Buffer

namespace BcuSdk.Lib

/-- A value that is stored in `size` bytes. -/
structure PackedField (α : Type) where
  size : Nat
  pack : α → List Byte
  read : List Byte → Nat → Checked α
  length_pack : ∀ a, (pack a).length = size
  read_pack : ∀ (a : α) (pre rest : List Byte), read (pre ++ pack a ++ rest) pre.length = .ok a
  pack_of_read : ∀ {data : List Byte} {i : Nat} {a : α}, read data i = .ok a →
    i + size ≤ data.length ∧ (data.drop i).take size = pack a
  read_returns : ∀ {data : List Byte} {i : Nat}, i + size ≤ data.length → (read data i).Returns

namespace PackedField

variable {α : Type} (f : PackedField α)

theorem length_flatMap_pack (as : List α) : (as.flatMap f.pack).length = f.size * as.length := by
  induction as with
  | nil => rfl
  | cons a as ih =>
      rw [List.flatMap_cons, List.length_append, f.length_pack, ih, List.length_cons,
        Nat.mul_succ, Nat.add_comm]

/-- Element `i` of an array is found `i` fields after its start. -/
theorem read_flatMap (as : List α) (pre rest : List Byte) (i : Nat) (hi : i < as.length) :
    f.read (pre ++ as.flatMap f.pack ++ rest) (pre.length + f.size * i) = .ok as[i] := by
  induction as generalizing pre i with
  | nil => simp at hi
  | cons a as ih =>
      rw [List.flatMap_cons]
      cases i with
      | zero =>
          have hread := f.read_pack a pre (as.flatMap f.pack ++ rest)
          simpa [List.append_assoc] using hread
      | succ i =>
          have hread := ih (pre ++ f.pack a) i (by simpa using hi)
          rw [List.length_append, f.length_pack] at hread
          have hindex : pre.length + f.size * (i + 1) = pre.length + f.size + f.size * i := by
            rw [Nat.mul_succ]
            omega
          rw [hindex]
          simpa [List.append_assoc] using hread

/-- Fields that are read one after the other are the bytes they were read from. -/
theorem flatMap_of_reads {as : List α} {data : List Byte} {start : Nat}
    (h : ∀ (i : Nat) (hi : i < as.length), f.read data (start + f.size * i) = .ok as[i]) :
    (data.drop start).take (f.size * as.length) = as.flatMap f.pack := by
  induction as generalizing start with
  | nil => simp
  | cons a as ih =>
      have hhead : f.read data start = .ok a := h 0 (by simp)
      have htail : (data.drop (start + f.size)).take (f.size * as.length) = as.flatMap f.pack := by
        apply ih
        intro i hi
        have hread := h (i + 1) (by simpa using hi)
        rw [Nat.mul_succ, Nat.add_comm (f.size * i), ← Nat.add_assoc] at hread
        simpa using hread
      obtain ⟨-, hpack⟩ := f.pack_of_read hhead
      rw [List.length_cons, Nat.mul_succ, Nat.add_comm, List.take_add, hpack, List.drop_drop,
        htail, List.flatMap_cons]

end PackedField

/-- What a loop over a range returns are the results of its rounds. -/
theorem mapM_range'_getElem {α : Type} {f : Nat → Checked α} {n s : Nat} {l : List α}
    (h : (List.range' s n).mapM f = .ok l) :
    l.length = n ∧ ∀ (i : Nat) (hi : i < l.length), f (s + i) = .ok l[i] := by
  induction n generalizing s l with
  | zero =>
      cases h
      exact ⟨rfl, fun i hi => absurd hi (Nat.not_lt_zero i)⟩
  | succ n ih =>
      rw [List.range'_succ, List.mapM_cons, Checked.bind_eq_ok] at h
      obtain ⟨a, ha, h⟩ := h
      rw [Checked.bind_eq_ok] at h
      obtain ⟨as, has, h⟩ := h
      cases h
      obtain ⟨hlen, hread⟩ := ih has
      refine ⟨by rw [List.length_cons, hlen], ?_⟩
      intro i hi
      cases i with
      | zero => exact ha
      | succ i =>
          have hnext := hread i (by simpa using hi)
          rw [Nat.add_assoc, Nat.add_comm 1 i] at hnext
          exact hnext

theorem mapM_range_getElem {α : Type} {f : Nat → Checked α} {n : Nat} {l : List α}
    (h : (List.range n).mapM f = .ok l) :
    l.length = n ∧ ∀ (i : Nat) (hi : i < l.length), f i = .ok l[i] := by
  rw [List.range_eq_range'] at h
  simpa using mapM_range'_getElem h

end BcuSdk.Lib
