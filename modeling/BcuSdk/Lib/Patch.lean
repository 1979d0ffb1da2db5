/-
  BcuSdk.Lib.Patch

  Runs of bytes that are stored into a buffer at places which need not be
  inside of it.

  A store outside of the buffer is a fault.  `storeAll_eq_ok` says when a
  sequence of stores gets through, and `getElem?_applyAll` that it leaves all
  bytes alone which none of the patches covers.
-/
import BcuSdk.Lib.Buffer

namespace BcuSdk.Lib

/-- Bytes for the places from `start` on. -/
structure Patch where
  start : Int
  bytes : List Byte
  deriving DecidableEq, Repr

namespace Patch

variable {data data' : List Byte} {p : Patch} {ps : List Patch} {n : Nat}

/-- All places of the patch are in a buffer of `n` bytes. -/
def Inside (n : Nat) (p : Patch) : Prop := 0 ≤ p.start ∧ p.start + p.bytes.length ≤ n

instance (n : Nat) (p : Patch) : Decidable (p.Inside n) := inferInstanceAs (Decidable (_ ∧ _))

/-- Place `k` is one of the patch. -/
def Covers (p : Patch) (k : Nat) : Prop := p.start ≤ k ∧ k < p.start + p.bytes.length

instance (p : Patch) (k : Nat) : Decidable (p.Covers k) := inferInstanceAs (Decidable (_ ∧ _))

/-- The buffer with the patch in it. -/
def apply (data : List Byte) (p : Patch) : List Byte := setpart data p.bytes p.start.toNat

/-- `data[start] = …; data[start + 1] = …; …`. -/
def store (data : List Byte) (p : Patch) : Checked (List Byte) :=
  if p.Inside data.length then .ok (apply data p) else .error .outOfBounds

/-- One patch after the other. -/
def applyAll (data : List Byte) (ps : List Patch) : List Byte := ps.foldl apply data

def storeAll (data : List Byte) (ps : List Patch) : Checked (List Byte) := ps.foldlM store data

theorem store_eq_ok : store data p = .ok data' ↔ p.Inside data.length ∧ apply data p = data' := by
  rw [store]
  split
  · next h => exact ⟨fun hd => ⟨h, Except.ok.inj hd⟩, fun hd => congrArg _ hd.2⟩
  · next h => exact ⟨nofun, fun hd => absurd hd.1 h⟩

theorem length_apply (h : p.Inside data.length) : (apply data p).length = data.length := by
  obtain ⟨hlo, hhi⟩ := h
  exact length_setpart_inside (by omega)

theorem getElem?_apply (h : p.Inside data.length) {k : Nat} (hk : ¬ p.Covers k) :
    (apply data p)[k]? = data[k]? := by
  obtain ⟨hlo, hhi⟩ := h
  rw [Covers] at hk
  rw [apply, getElem?_setpart (by omega), if_neg (by omega)]

/-- Byte `i` of the patch, read back. -/
theorem getElem?_apply_start (h : p.Inside data.length) {i : Nat} (hi : i < p.bytes.length) :
    (apply data p)[p.start.toNat + i]? = p.bytes[i]? := by
  obtain ⟨hlo, hhi⟩ := h
  rw [apply, getElem?_setpart (by omega), if_pos (by omega), Nat.add_sub_cancel_left]

theorem length_applyAll (h : ∀ p ∈ ps, p.Inside data.length) :
    (applyAll data ps).length = data.length := by
  induction ps generalizing data with
  | nil => rfl
  | cons p ps ih =>
      obtain ⟨hp, hps⟩ := List.forall_mem_cons.mp h
      rw [← length_apply hp] at hps
      show (applyAll (apply data p) ps).length = _
      rw [ih hps, length_apply hp]

/-- What no patch covers stays as it is. -/
theorem getElem?_applyAll (h : ∀ p ∈ ps, p.Inside data.length) {k : Nat}
    (hk : ∀ p ∈ ps, ¬ p.Covers k) : (applyAll data ps)[k]? = data[k]? := by
  induction ps generalizing data with
  | nil => rfl
  | cons p ps ih =>
      obtain ⟨hp, hps⟩ := List.forall_mem_cons.mp h
      obtain ⟨hkp, hkps⟩ := List.forall_mem_cons.mp hk
      rw [← length_apply hp] at hps
      show (applyAll (apply data p) ps)[k]? = _
      rw [ih hps hkps, getElem?_apply hp hkp]

theorem storeAll_eq_ok :
    storeAll data ps = .ok data' ↔
      (∀ p ∈ ps, p.Inside data.length) ∧ applyAll data ps = data' := by
  induction ps generalizing data with
  | nil => exact ⟨fun h => ⟨fun _ => (nomatch ·), Except.ok.inj h⟩, fun h => congrArg _ h.2⟩
  | cons p ps ih =>
      rw [storeAll, List.foldlM_cons, Checked.bind_eq_ok, List.forall_mem_cons]
      constructor
      · rintro ⟨d, hd, hrest⟩
        obtain ⟨hp, rfl⟩ := store_eq_ok.mp hd
        obtain ⟨hps, happly⟩ := ih.mp hrest
        rw [length_apply hp] at hps
        exact ⟨⟨hp, hps⟩, happly⟩
      · rintro ⟨⟨hp, hps⟩, happly⟩
        refine ⟨_, store_eq_ok.mpr ⟨hp, rfl⟩, ih.mpr ⟨?_, happly⟩⟩
        rw [length_apply hp]
        exact hps

theorem applyAll_append (data : List Byte) (ps qs : List Patch) :
    applyAll data (ps ++ qs) = applyAll (applyAll data ps) qs := List.foldl_append

end Patch

/-- `data[i]` where `i` is signed. -/
def readAt (data : List Byte) (i : Int) : Checked Byte :=
  if 0 ≤ i then readByte data i.toNat else .error .outOfBounds

/-- A read inside the buffer is the total one. -/
theorem readAt_eq_ok {data : List Byte} {i : Int} {b : Byte} :
    readAt data i = .ok b ↔ (0 ≤ i ∧ i < data.length) ∧ data.getD i.toNat 0#8 = b := by
  rw [readAt]
  split
  · next h =>
    by_cases hlt : i.toNat < data.length
    · rw [readByte_getD hlt, Except.ok.injEq]
      exact ⟨fun hb => ⟨⟨h, by omega⟩, hb⟩, fun hb => hb.2⟩
    · constructor
      · intro hb
        exact absurd (lt_of_readByte hb) hlt
      · rintro ⟨hin, -⟩
        omega
  · next h => exact ⟨nofun, fun hb => absurd hb.1.1 h⟩

end BcuSdk.Lib
