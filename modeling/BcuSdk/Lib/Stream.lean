/-
  BcuSdk.Lib.Stream

  A byte stream as a reader sees it: pieces that arrive one after the other,
  and then the end of the file or an error.

  A read of at most `n` elements returns the first piece, or its first `n`
  elements, so that every sequence of read results is that of some list of
  pieces.  `read_part` says what a read returns and leaves behind, and
  `cutAt_of_part` where the cuts of the stream lie after it.
-/
import Mathlib.Data.List.Basic

namespace BcuSdk.Lib

variable {α : Type}

/-- How a stream ends. -/
inductive Ending where
  | endOfFile
  | error
  deriving DecidableEq, Repr

/-- What is still to be read, in the pieces in which it arrives. -/
structure Stream (α : Type) where
  chunks : List (List α)
  nonempty : ∀ chunk ∈ chunks, chunk ≠ []
  ending : Ending

/-- The result of a read; a read that succeeds returns something. -/
inductive ReadResult (α : Type) where
  | part (p : List α) (nonempty : p ≠ [])
  | ended (how : Ending)

namespace Stream

/-- All elements still to come. -/
def bytes (s : Stream α) : List α := s.chunks.flatten

/-- A read of at most `n` elements. -/
def read (s : Stream α) (n : Nat) (hn : 0 < n) : ReadResult α × Stream α :=
  match s with
  | ⟨[], h, ending⟩ => (.ended ending, ⟨[], h, ending⟩)
  | ⟨chunk :: rest, h, ending⟩ =>
      have hchunk : chunk ≠ [] := h chunk (List.mem_cons_self ..)
      if hlong : n < chunk.length then
        (.part (chunk.take n) (by simp [hchunk]; omega),
          ⟨chunk.drop n :: rest, by
            intro c hc
            rcases List.mem_cons.mp hc with rfl | hc
            · simpa using hlong
            · exact h c (List.mem_cons_of_mem _ hc), ending⟩)
      else
        (.part chunk hchunk, ⟨rest, fun c hc => h c (List.mem_cons_of_mem _ hc), ending⟩)

/-- A piece ends after the first `k` elements, and another one follows. -/
def CutAt (s : Stream α) (k : Nat) : Prop :=
  ∃ pre post, s.chunks = pre ++ post ∧ pre ≠ [] ∧ post ≠ [] ∧ pre.flatten.length = k

/-- The first piece is a single element. -/
def StartsSingle (s : Stream α) : Prop := ∃ a rest, s.chunks = [a] :: rest

theorem bytes_eq_nil {s : Stream α} : s.bytes = [] ↔ s.chunks = [] := by
  refine ⟨fun h => ?_, fun h => by rw [bytes, h]; rfl⟩
  rcases hc : s.chunks with _ | ⟨chunk, rest⟩
  · rfl
  · have hflat : chunk ++ rest.flatten = [] := by rw [← h, bytes, hc, List.flatten_cons]
    have hne := s.nonempty chunk (hc ▸ List.mem_cons_self ..)
    exact absurd (List.append_eq_nil_iff.mp hflat).1 hne

/-! ## One read -/

/-- A read ends exactly when nothing is left, and then as the stream does. -/
theorem read_of_nil {s : Stream α} {n : Nat} (hn : 0 < n) (h : s.bytes = []) :
    s.read n hn = (.ended s.ending, s) := by
  obtain ⟨chunks, hne, ending⟩ := s
  obtain rfl : chunks = [] := bytes_eq_nil.mp h
  rfl

theorem bytes_of_ended {s s' : Stream α} {n : Nat} {hn : 0 < n} {how : Ending}
    (h : s.read n hn = (.ended how, s')) : s.bytes = [] ∧ how = s.ending := by
  obtain ⟨_ | ⟨chunk, rest⟩, hne, ending⟩ := s
  · exact ⟨rfl, by cases h; rfl⟩
  · simp only [read] at h
    split at h <;> simp at h

/-- What a read returns is the front of the stream, and what it leaves is the rest. -/
theorem read_part {s s' : Stream α} {n : Nat} {hn : 0 < n} {p : List α} {hp : p ≠ []}
    (h : s.read n hn = (.part p hp, s')) :
    s.bytes = p ++ s'.bytes ∧ p.length ≤ n ∧ s'.ending = s.ending := by
  obtain ⟨_ | ⟨chunk, rest⟩, hne, ending⟩ := s
  · simp [read] at h
  · simp only [read] at h
    split at h
    · obtain ⟨hpart, rfl⟩ := Prod.mk.inj h
      obtain rfl := ReadResult.part.inj hpart
      refine ⟨?_, List.length_take_le _ _, rfl⟩
      simp [bytes, ← List.append_assoc]
    · obtain ⟨hpart, rfl⟩ := Prod.mk.inj h
      obtain rfl := ReadResult.part.inj hpart
      exact ⟨by simp [bytes], by omega, rfl⟩

/-- A read of a stream that is not at its end returns a part of it. -/
theorem read_of_ne_nil {s : Stream α} {n : Nat} (hn : 0 < n) (h : s.bytes ≠ []) :
    ∃ p hp s', s.read n hn = (.part p hp, s') := by
  rcases hr : s.read n hn with ⟨_ | how, s'⟩
  · exact ⟨_, _, _, rfl⟩
  · exact absurd (bytes_of_ended hr).1 h

/-! ## Cuts -/

theorem not_cutAt_zero (s : Stream α) : ¬ s.CutAt 0 := by
  rintro ⟨pre, post, hs, hpre, -, hlen⟩
  obtain ⟨chunk, rest, rfl⟩ := List.exists_cons_of_ne_nil hpre
  have hne := s.nonempty chunk (by rw [hs]; exact List.mem_append_left _ (List.mem_cons_self ..))
  have hpos := List.length_pos_iff.mpr hne
  simp only [List.flatten_cons, List.length_append] at hlen
  omega

/-- A cut lies inside the stream. -/
theorem CutAt.lt_length {s : Stream α} {k : Nat} (h : s.CutAt k) : k < s.bytes.length := by
  obtain ⟨pre, post, hs, -, hpost, hlen⟩ := h
  obtain ⟨chunk, rest, rfl⟩ := List.exists_cons_of_ne_nil hpost
  have hne := s.nonempty chunk (by
    rw [hs]; exact List.mem_append_right _ (List.mem_cons_self ..))
  have hpos := List.length_pos_iff.mpr hne
  simp only [bytes, hs, List.flatten_append, List.flatten_cons, List.length_append]
  omega

theorem cutAt_cons {chunk : List α} {rest : List (List α)}
    {h : ∀ c ∈ chunk :: rest, c ≠ []} {ending : Ending} {k : Nat} :
    CutAt ⟨chunk :: rest, h, ending⟩ k ↔
      (k = chunk.length ∧ rest ≠ []) ∨
        (chunk.length < k ∧ CutAt ⟨rest, fun c hc => h c (List.mem_cons_of_mem _ hc), ending⟩
          (k - chunk.length)) := by
  constructor
  · rintro ⟨pre, post, hs, hpre, hpost, hlen⟩
    obtain ⟨c, pre, rfl⟩ := List.exists_cons_of_ne_nil hpre
    obtain ⟨rfl, rfl⟩ := List.cons.inj hs
    rw [List.flatten_cons, List.length_append] at hlen
    -- the cut is behind the first chunk, or further on
    rcases pre with _ | ⟨c', pre⟩
    · exact .inl ⟨by simpa using hlen.symm, hpost⟩
    · have hlen' : (c' :: pre).flatten.length = k - chunk.length := by omega
      have hpos : k - chunk.length ≠ 0 := fun h0 =>
        not_cutAt_zero ⟨c' :: pre ++ post, fun c hc => h c (List.mem_cons_of_mem _ hc), ending⟩
          ⟨c' :: pre, post, rfl, by simp, hpost, by rw [hlen', h0]⟩
      exact .inr ⟨by omega, c' :: pre, post, rfl, by simp, hpost, hlen'⟩
  · rintro (⟨rfl, hrest⟩ | ⟨hlt, pre, post, hs, hpre, hpost, hlen⟩)
    · exact ⟨[chunk], rest, rfl, by simp, hrest, by simp⟩
    · refine ⟨chunk :: pre, post, by simpa using hs, by simp, hpost, ?_⟩
      rw [List.flatten_cons, List.length_append, hlen]
      omega

/-- Behind what has been read the cuts stay where they were. -/
theorem cutAt_of_part {s s' : Stream α} {n : Nat} {hn : 0 < n} {p : List α} {hp : p ≠ []}
    (h : s.read n hn = (.part p hp, s')) {k : Nat} (hk : 0 < k) :
    s'.CutAt k ↔ s.CutAt (p.length + k) := by
  obtain ⟨_ | ⟨chunk, rest⟩, hne, ending⟩ := s
  · simp [read] at h
  · simp only [read] at h
    split at h
    -- the rest of the chunk stays in front
    case isTrue hlong =>
      obtain ⟨hpart, rfl⟩ := Prod.mk.inj h
      obtain rfl := ReadResult.part.inj hpart
      rw [cutAt_cons, cutAt_cons, List.length_drop, List.length_take]
      have hmin : min n chunk.length = n := by omega
      have hsub : n + k - chunk.length = k - (chunk.length - n) := by omega
      rw [hmin, hsub]
      refine or_congr (and_congr ?_ Iff.rfl) (and_congr ?_ Iff.rfl) <;> omega
    case isFalse hshort =>
      obtain ⟨hpart, rfl⟩ := Prod.mk.inj h
      obtain rfl := ReadResult.part.inj hpart
      rw [cutAt_cons]
      simp [hk]
      omega

/-- A read stops short of `n` elements, with more to come, only at a cut. -/
theorem cutAt_of_short {s s' : Stream α} {n : Nat} {hn : 0 < n} {p : List α} {hp : p ≠ []}
    (h : s.read n hn = (.part p hp, s')) (hlen : p.length < n) (hmore : s'.bytes ≠ []) :
    s.CutAt p.length := by
  obtain ⟨_ | ⟨chunk, rest⟩, hne, ending⟩ := s
  · simp [read] at h
  · simp only [read] at h
    split at h
    · obtain ⟨hpart, rfl⟩ := Prod.mk.inj h
      obtain rfl := ReadResult.part.inj hpart
      rw [List.length_take] at hlen
      omega
    · obtain ⟨hpart, rfl⟩ := Prod.mk.inj h
      obtain rfl := ReadResult.part.inj hpart
      exact cutAt_cons.mpr (.inl ⟨rfl, fun hrest => hmore (bytes_eq_nil.mpr hrest)⟩)

/-- A read does not go past a cut. -/
theorem length_le_of_cutAt {s s' : Stream α} {n k : Nat} {hn : 0 < n} {p : List α} {hp : p ≠ []}
    (h : s.read n hn = (.part p hp, s')) (hcut : s.CutAt k) : p.length ≤ k := by
  obtain ⟨_ | ⟨chunk, rest⟩, hne, ending⟩ := s
  · simp [read] at h
  · have hp' : p.length ≤ chunk.length := by
      simp only [read] at h
      split at h
      all_goals
        obtain ⟨hpart, -⟩ := Prod.mk.inj h
        obtain rfl := ReadResult.part.inj hpart
      · exact List.length_take_le' _ _
      · exact Nat.le_refl _
    rcases cutAt_cons.mp hcut with ⟨rfl, -⟩ | ⟨hlt, -⟩ <;> omega

/-- A read that returns other than `n` elements returns the whole first piece. -/
theorem chunks_of_short {s s' : Stream α} {n : Nat} {hn : 0 < n} {p : List α} {hp : p ≠ []}
    (h : s.read n hn = (.part p hp, s')) (hlen : p.length ≠ n) :
    ∃ rest, s.chunks = p :: rest := by
  obtain ⟨_ | ⟨chunk, rest⟩, hne, ending⟩ := s
  · simp [read] at h
  · simp only [read] at h
    split at h
    · obtain ⟨hpart, -⟩ := Prod.mk.inj h
      obtain rfl := ReadResult.part.inj hpart
      rw [List.length_take] at hlen
      omega
    · obtain ⟨hpart, -⟩ := Prod.mk.inj h
      obtain rfl := ReadResult.part.inj hpart
      exact ⟨rest, rfl⟩

end Stream

end BcuSdk.Lib
