/-
  BcuSdk.Lib.Chunks

  Memories that are written chunk by chunk, and writes that break off.

  Of two writes to one address the later one counts (`writeAll_of_last`), and
  an address that no chunk covers keeps its contents (`writeAll_of_outside`).
  A write that breaks off leaves each byte either as it was or as it should
  be: `Partly`.
-/
import BcuSdk.Lib.Memory

namespace BcuSdk.Lib

variable {w : Nat}

/-- Bytes for the addresses from `addr` on. -/
structure Chunk (w : Nat) where
  addr : BitVec w
  data : List Byte
  deriving DecidableEq, Repr

/-- The chunk does not cover `x`. -/
def Chunk.Misses (b : Chunk w) (x : BitVec w) : Prop :=
  x.toNat < b.addr.toNat ∨ b.addr.toNat + b.data.length ≤ x.toNat

/-- The addresses of the chunk do not wrap around. -/
def Chunk.Fits (b : Chunk w) : Prop := b.addr.toNat + b.data.length ≤ 2 ^ w

instance (b : Chunk w) (x : BitVec w) : Decidable (b.Misses x) :=
  inferInstanceAs (Decidable (_ ∨ _))

instance (b : Chunk w) : Decidable b.Fits := inferInstanceAs (Decidable (_ ≤ _))

/-- The memory with the chunk in it. -/
def writeChunk (m : Memory w) (b : Chunk w) : Memory w := writeBytes m b.addr b.data

/-- One chunk after the other. -/
def writeAll (m : Memory w) (bs : List (Chunk w)) : Memory w := bs.foldl writeChunk m

@[simp] theorem writeAll_nil (m : Memory w) : writeAll m [] = m := rfl

@[simp] theorem writeAll_cons (m : Memory w) (b : Chunk w) (bs : List (Chunk w)) :
    writeAll m (b :: bs) = writeAll (writeChunk m b) bs := rfl

theorem writeAll_append (m : Memory w) (bs bs' : List (Chunk w)) :
    writeAll m (bs ++ bs') = writeAll (writeAll m bs) bs' := List.foldl_append

theorem writeChunk_of_misses {m : Memory w} {b : Chunk w} {x : BitVec w} (hb : b.Fits)
    (hx : b.Misses x) : writeChunk m b x = m x :=
  (updated_writeBytes m hb).outside x hx

theorem writeAll_of_outside {m : Memory w} {bs : List (Chunk w)} {x : BitVec w}
    (hbs : ∀ b ∈ bs, b.Fits) (hx : ∀ b ∈ bs, b.Misses x) : writeAll m bs x = m x := by
  induction bs generalizing m with
  | nil => rfl
  | cons b bs ih =>
      rw [writeAll_cons, ih (fun b hb => hbs b (List.mem_cons_of_mem _ hb))
        fun b hb => hx b (List.mem_cons_of_mem _ hb)]
      exact writeChunk_of_misses (hbs b (List.mem_cons_self ..)) (hx b (List.mem_cons_self ..))

/-- What the last chunk that covers an address holds there. -/
theorem writeAll_of_last {m : Memory w} {pre post : List (Chunk w)} {b : Chunk w} {x : BitVec w}
    {i : Nat} (hi : i < b.data.length) (hb : b.Fits) (hx : x.toNat = b.addr.toNat + i)
    (hpost : ∀ b ∈ post, b.Fits) (hmisses : ∀ b ∈ post, b.Misses x) :
    writeAll m (pre ++ b :: post) x = b.data[i] := by
  rw [writeAll_append, writeAll_cons, writeAll_of_outside hpost hmisses, eq_add_ofNat hx]
  exact (updated_writeBytes _ hb).inside i hi

/-- The same by the place of the chunk in the list. -/
theorem writeAll_of_getElem? {m : Memory w} {bs : List (Chunk w)} {k : Nat} {b : Chunk w}
    {x : BitVec w} {i : Nat} (hbs : ∀ b ∈ bs, b.Fits) (hk : bs[k]? = some b)
    (hi : i < b.data.length) (hx : x.toNat = b.addr.toNat + i)
    (hmisses : ∀ b ∈ bs.drop (k + 1), b.Misses x) : writeAll m bs x = b.data[i] := by
  obtain ⟨hlt, rfl⟩ := List.getElem?_eq_some_iff.mp hk
  have hsplit : bs = bs.take k ++ bs[k] :: bs.drop (k + 1) := by
    rw [← List.drop_eq_getElem_cons hlt, List.take_append_drop]
  calc writeAll m bs x
      = writeAll m (bs.take k ++ bs[k] :: bs.drop (k + 1)) x := by rw [← hsplit]
    _ = bs[k].data[i] := writeAll_of_last hi (hbs _ (List.getElem_mem hlt)) hx
        (fun b hb => hbs b (List.mem_of_mem_drop hb)) hmisses

/-- Each byte is as in `m`, or as it is with the chunk. -/
def Partly (m m' : Memory w) (b : Chunk w) : Prop := ∀ x, m' x = m x ∨ m' x = writeChunk m b x

theorem Partly.of_misses {m m' : Memory w} {b : Chunk w} {x : BitVec w} (h : Partly m m' b)
    (hb : b.Fits) (hx : b.Misses x) : m' x = m x := by
  rcases h x with h | h
  · exact h
  · rw [h, writeChunk_of_misses hb hx]

theorem Partly.refl (m : Memory w) (b : Chunk w) : Partly m m b := fun _ => .inl rfl

/-- If all bytes are there, they have all been written. -/
theorem Partly.eq_writeChunk {m m' : Memory w} {b : Chunk w} (h : Partly m m' b) (hb : b.Fits)
    (hread : readBytes m' b.addr b.data.length = b.data) : m' = writeChunk m b := by
  funext x
  by_cases hx : b.Misses x
  · rw [h.of_misses hb hx, writeChunk_of_misses hb hx]
  · rw [Chunk.Misses, not_or, Nat.not_lt, Nat.not_le] at hx
    have hi : x.toNat - b.addr.toNat < b.data.length := by omega
    have haddr : x = b.addr + BitVec.ofNat w (x.toNat - b.addr.toNat) := eq_add_ofNat (by omega)
    have hthere : m' x = b.data[x.toNat - b.addr.toNat] := by
      have hget := getElem_readBytes (m := m') (a := b.addr) (n := b.data.length)
        (i := x.toNat - b.addr.toNat) (by rwa [length_readBytes])
      rw [← haddr] at hget
      rw [← hget]
      exact List.getElem_of_eq hread _
    rw [hthere, writeChunk]
    conv_rhs => rw [haddr]
    exact ((updated_writeBytes m hb).inside _ hi).symm

theorem Partly.of_beyond {m m' : Memory w} {b : Chunk w} {x : BitVec w} (h : Partly m m' b)
    (hx : b.data.length ≤ (x - b.addr).toNat) : m' x = m x := by
  rcases h x with h | h
  · exact h
  · rw [h, writeChunk, writeBytes_of_beyond hx]

/-- The bytes that follow are written partly, too. -/
theorem Partly.append {m m' m'' : Memory w} {a : BitVec w} {xs ys : List Byte}
    (h : Partly m m' ⟨a, xs⟩) (h' : Partly m' m'' ⟨a + BitVec.ofNat w xs.length, ys⟩)
    (hfit : xs.length + ys.length ≤ 2 ^ w) : Partly m m'' ⟨a, xs ++ ys⟩ := by
  intro x
  rcases Nat.lt_or_ge (x - a).toNat xs.length with hlt | hge
  · have hsame : m'' x = m' x := h'.of_beyond (beyond_of_lt hlt hfit)
    have hwhole : writeChunk m ⟨a, xs ++ ys⟩ x = writeChunk m ⟨a, xs⟩ x :=
      writeBytes_append_left ys hlt
    rw [hsame, hwhole]
    exact h x
  · have hold : m' x = m x := h.of_beyond hge
    rcases h' x with hx | hx
    · exact .inl (hx.trans hold)
    · refine .inr ?_
      rw [hx, writeChunk, writeChunk, writeBytes_append_right ys hge, writeBytes, hold, writeBytes]

/-- A chunk of one byte is written, or it is not. -/
theorem Partly.single {m m' : Memory w} {a : BitVec w} {v : Byte} (h : Partly m m' ⟨a, [v]⟩)
    (ha : a.toNat + 1 ≤ 2 ^ w) : m' = m ∨ m' = writeChunk m ⟨a, [v]⟩ := by
  have hrest : ∀ x, x ≠ a → m' x = m x ∧ writeChunk m ⟨a, [v]⟩ x = m x := by
    intro x hx
    have hmisses : Chunk.Misses ⟨a, [v]⟩ x := by
      have hne : x.toNat ≠ a.toNat := fun h => hx (BitVec.eq_of_toNat_eq h)
      show x.toNat < a.toNat ∨ a.toNat + 1 ≤ x.toNat
      omega
    exact ⟨h.of_misses ha hmisses, writeChunk_of_misses ha hmisses⟩
  rcases h a with ha' | ha'
  · refine .inl (funext fun x => ?_)
    by_cases hx : x = a
    · rw [hx, ha']
    · exact (hrest x hx).1
  · refine .inr (funext fun x => ?_)
    by_cases hx : x = a
    · rw [hx, ha']
    · rw [(hrest x hx).1, (hrest x hx).2]

end BcuSdk.Lib
