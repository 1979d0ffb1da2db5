/-
  BcuSdk.Eibd.MemoryBlockWrite

  `X_Memory_Write_Block` and `A_Memory_Write_Block` (eibd/libserver/layer7.cpp).

  The inner loop of `X_Memory_Write_Block` compares the bytes at an index
  before it tests whether the index is one of the array.  What lies behind the
  two arrays is a parameter: nothing, where a read there is a fault, or a byte
  that the loop then makes no use of.
-/
import BcuSdk.Eibd.MemoryBlock

namespace BcuSdk.Eibd

open BcuSdk.Lib

namespace Layer7Connection

variable {σ : Type} (d : Device σ) (unset : Byte × Byte)

/-! ## The loops -/

/-- What a read right behind `data` and `prev` gives. -/
structure Behind where
  data : Option Byte := none
  prev : Option Byte := none
  deriving DecidableEq, Repr

/-- `data[i]`, with what lies behind. -/
def fetch (behind : Option Byte) (data : CArray) (i : Nat) : Checked Byte :=
  match data[i]?, behind with
  | some b, _ => .ok b
  | none, some b => .ok b
  | none, none => .error .outOfBounds

/-- `X_Memory_Write`. -/
def xMemoryWrite (l : Layer7Connection σ) (addr : MemAddr) (data : CArray) :
    Checked (Layer7Connection σ × Int) := do
  let l ← l.aMemoryWrite d unset addr data
  match ← l.aMemoryRead d unset addr (BitVec.ofNat 8 data.length) with
  | (l, none) => return (l, -1)
  | (l, some d1) => return (l, if d1 ≠ data then -2 else 0)

/-- The inner loop, from `j` on; `left` is `blocksize - j`. -/
def scan (behind : Behind) (data prev : CArray) (i : Nat) : (j left : Nat) → Checked Nat
  | j, 0 => do
      let _ ← fetch behind.data data (i + j)
      let _ ← fetch behind.prev prev (i + j)
      return j
  | j, left + 1 => do
      let a ← fetch behind.data data (i + j)
      let b ← fetch behind.prev prev (i + j)
      if a ≠ b ∧ i + j < data.length then scan behind data prev i (j + 1) left else return j

theorem fetch_of_lt {behind : Option Byte} {data : CArray} {i : Nat} (h : i < data.length) :
    fetch behind data i = .ok data[i] := by
  simp [fetch, List.getElem?_eq_getElem h]

/-- The inner loop stays inside a block. -/
theorem le_of_scan {behind : Behind} {data prev : CArray} {i j left j' : Nat}
    (h : scan behind data prev i j left = .ok j') : j ≤ j' ∧ j' ≤ j + left := by
  induction left generalizing j with
  | zero =>
      obtain ⟨_, -, h⟩ := Checked.bind_eq_ok.mp h
      obtain ⟨_, -, h⟩ := Checked.bind_eq_ok.mp h
      cases h
      exact ⟨Nat.le_refl _, Nat.le_refl _⟩
  | succ left ih =>
      obtain ⟨a, -, h⟩ := Checked.bind_eq_ok.mp h
      obtain ⟨b, -, h⟩ := Checked.bind_eq_ok.mp h
      split at h
      · obtain ⟨hge, hle⟩ := ih h
        exact ⟨by omega, by omega⟩
      · cases h
        exact ⟨Nat.le_refl _, Nat.le_add_right ..⟩

/-- Where the bytes at `i` differ, the inner loop gets past them. -/
theorem pos_of_scan {behind : Behind} {data prev : CArray} {i left j' : Nat} {a b : Byte}
    (hi : i < data.length) (ha : fetch behind.data data i = .ok a)
    (hb : fetch behind.prev prev i = .ok b) (hab : a ≠ b)
    (h : scan behind data prev i 0 (left + 1) = .ok j') : 0 < j' := by
  rw [scan, Nat.add_zero, ha, hb] at h
  simp only [Checked.ok_bind] at h
  rw [if_pos ⟨hab, hi⟩] at h
  exact (le_of_scan h).1

/-- The outer loop of `X_Memory_Write_Block`. -/
def writeBlocks (behind : Behind) (addr : MemAddr) (data prev : CArray) (l : Layer7Connection σ)
    (i : Nat) (res : Int) : Checked (Layer7Connection σ × Int) :=
  if _hi : i < data.length then
    match _ha : fetch behind.data data i, _hb : fetch behind.prev prev i with
    | .ok a, .ok b =>
        if _hab : a = b then writeBlocks behind addr data prev l (i + 1) res
        else
          match _hj : scan behind data prev i 0 12 with
          | .ok j => do
              let (l, k) ← l.xMemoryWrite d unset (addr + BitVec.ofNat 16 i) ((data.drop i).take j)
              if k = -1 then return (l, -1)
              else writeBlocks behind addr data prev l (i + j) (if k = -2 then -2 else res)
          | .error f => .error f
    | .error f, _ => .error f
    | _, .error f => .error f
  else .ok (l, res)
termination_by data.length - i
decreasing_by
  · omega
  · have hpos := pos_of_scan _hi _ha _hb _hab _hj
    omega

/-- `X_Memory_Write_Block`. -/
def xMemoryWriteBlock (behind : Behind) (fresh : Nat → Byte) (l : Layer7Connection σ)
    (addr : MemAddr) (data : CArray) : Checked (Layer7Connection σ × Int) := do
  match ← l.xMemoryReadBlock d unset fresh addr data.length with
  | (l, none) => return (l, -1)
  | (l, some prev) => l.writeBlocks d unset behind addr data prev 0 0

/-- The loop of `A_Memory_Write_Block`. -/
def sendBlocks (addr : MemAddr) (data : CArray) (l : Layer7Connection σ) (i : Nat) :
    Checked (Layer7Connection σ × Int) :=
  if _hi : i < data.length then do
    let j := if i + 12 > data.length then data.length - i else 12
    let l ← l.aMemoryWrite d unset (addr + BitVec.ofNat 16 i) ((data.drop i).take j)
    sendBlocks addr data l (i + 12)
  else .ok (l, 0)
termination_by data.length - i

/-- `A_Memory_Write_Block`. -/
def aMemoryWriteBlock (l : Layer7Connection σ) (addr : MemAddr) (data : CArray) :
    Checked (Layer7Connection σ × Int) :=
  l.sendBlocks d unset addr data 0

variable {d unset}

/-! ## The inner loop -/

/-- There is something behind both arrays. -/
def Behind.Readable (behind : Behind) : Prop := behind.data.isSome ∧ behind.prev.isSome

instance (behind : Behind) : Decidable behind.Readable := inferInstanceAs (Decidable (_ ∧ _))

variable {behind : Behind} {data prev : CArray} {i j left : Nat}

/-- With nothing behind, what has been read lies inside. -/
theorem lt_of_fetch {a b : Byte} (hlen : prev.length = data.length) (hbehind : ¬ behind.Readable)
    (ha : fetch behind.data data i = .ok a) (hb : fetch behind.prev prev i = .ok b) :
    i < data.length := by
  by_contra hge
  have hdata : data[i]? = none := List.getElem?_eq_none (by omega)
  have hprev : prev[i]? = none := List.getElem?_eq_none (by omega)
  refine hbehind ⟨?_, ?_⟩
  · cases hx : behind.data with
    | none => simp [fetch, hdata, hx] at ha
    | some x => rfl
  · cases hx : behind.prev with
    | none => simp [fetch, hprev, hx] at hb
    | some x => rfl

theorem fetch_of_readable {behind : Option Byte} (h : behind.isSome) (data : CArray) (i : Nat) :
    ∃ b, fetch behind data i = .ok b := by
  obtain ⟨x, rfl⟩ := Option.isSome_iff_exists.mp h
  cases hx : data[i]? with
  | none => exact ⟨x, by simp [fetch, hx]⟩
  | some b => exact ⟨b, by simp [fetch, hx]⟩

/-- With nothing behind, the loop ends in front of the end. -/
theorem scan_lt (hlen : prev.length = data.length) (hbehind : ¬ behind.Readable) {j' : Nat}
    (h : scan behind data prev i j left = .ok j') : i + j' < data.length := by
  induction left generalizing j with
  | zero =>
      obtain ⟨a, ha, h⟩ := Checked.bind_eq_ok.mp h
      obtain ⟨b, hb, h⟩ := Checked.bind_eq_ok.mp h
      cases h
      exact lt_of_fetch hlen hbehind ha hb
  | succ left ih =>
      obtain ⟨a, ha, h⟩ := Checked.bind_eq_ok.mp h
      obtain ⟨b, hb, h⟩ := Checked.bind_eq_ok.mp h
      split at h
      · exact ih h
      · cases h
        exact lt_of_fetch hlen hbehind ha hb

/-- The last bytes in terms of their index. -/
theorem getElem_of_getLast? (hlen : prev.length = data.length)
    (hlast : data.getLast? = prev.getLast?) {i : Nat} (hi : i + 1 = data.length)
    (hdata : i < data.length) (hprev : i < prev.length) : data[i] = prev[i] := by
  have hend : data.length - 1 = i := by omega
  rw [List.getLast?_eq_getElem?, List.getLast?_eq_getElem?, hlen, hend,
    List.getElem?_eq_getElem hdata, List.getElem?_eq_getElem hprev] at hlast
  exact Option.some.inj hlast

variable (behind) in
/-- Both arrays can be read up to their end, and one byte further if something lies there. -/
theorem fetch_both (hlen : prev.length = data.length)
    (hi : i < data.length ∨ i = data.length ∧ behind.Readable) :
    ∃ a b, fetch behind.data data i = .ok a ∧ fetch behind.prev prev i = .ok b := by
  rcases hi with hlt | ⟨-, hbehind⟩
  · exact ⟨_, _, fetch_of_lt hlt, fetch_of_lt (by omega)⟩
  · obtain ⟨a, ha⟩ := fetch_of_readable hbehind.1 data i
    obtain ⟨b, hb⟩ := fetch_of_readable hbehind.2 prev i
    exact ⟨a, b, ha, hb⟩

/-- If the last bytes are equal, or something lies behind, the loop returns; what it has passed is
    inside the array. -/
theorem scan_returns (hlen : prev.length = data.length)
    (hok : behind.Readable ∨ data.getLast? = prev.getLast?)
    (hj : i + j < data.length ∨ i + j = data.length ∧ behind.Readable) :
    ∃ j', scan behind data prev i j left = .ok j' ∧ i + j' ≤ data.length := by
  induction left generalizing j with
  | zero =>
      obtain ⟨a, b, ha, hb⟩ := fetch_both behind hlen hj
      refine ⟨j, ?_, by omega⟩
      rw [scan, ha, hb]
      rfl
  | succ left ih =>
      obtain ⟨a, b, ha, hb⟩ := fetch_both behind hlen hj
      rw [scan, ha, hb]
      simp only [Checked.ok_bind]
      by_cases hne : a ≠ b ∧ i + j < data.length
      · rw [if_pos hne]
        have hnext : i + (j + 1) < data.length ∨ i + (j + 1) = data.length ∧ behind.Readable := by
          rcases Nat.lt_or_ge (i + (j + 1)) data.length with hlt | hge
          · exact .inl hlt
          · -- the byte passed is the last one, and differs
            refine .inr ⟨by omega, hok.resolve_right fun hlast => hne.1 ?_⟩
            have ha' := Except.ok.inj (ha.symm.trans (fetch_of_lt hne.2))
            have hb' := Except.ok.inj (hb.symm.trans (fetch_of_lt (by omega)))
            have hend := getElem_of_getLast? hlen hlast (by omega) hne.2 (by omega)
            exact ha'.trans (hend.trans hb'.symm)
        exact ih hnext
      · rw [if_neg hne]
        exact ⟨j, rfl, by omega⟩

/-! ## The passes of the outer loop -/

section Passes

variable {addr : MemAddr} {l : Layer7Connection σ} {res : Int} {a b : Byte}

theorem writeBlocks_end (hi : ¬ i < data.length) :
    l.writeBlocks d unset behind addr data prev i res = .ok (l, res) := by
  rw [writeBlocks, dif_neg hi]

/-- Equal bytes are skipped. -/
theorem writeBlocks_skip (hi : i < data.length) (ha : fetch behind.data data i = .ok a)
    (hb : fetch behind.prev prev i = .ok a) :
    l.writeBlocks d unset behind addr data prev i res =
      l.writeBlocks d unset behind addr data prev (i + 1) res := by
  rw [writeBlocks, dif_pos hi]
  split
  · next a' b' ha' hb' =>
    rw [dif_pos (Except.ok.inj (ha'.symm.trans (ha.trans (hb.symm.trans hb'))))]
  · next f hf => cases hf.symm.trans ha
  · next hf _ => cases hf.symm.trans hb

/-- Where the bytes differ, a block is written. -/
theorem writeBlocks_write (hi : i < data.length) (ha : fetch behind.data data i = .ok a)
    (hb : fetch behind.prev prev i = .ok b) (hab : a ≠ b)
    (hj : scan behind data prev i 0 12 = .ok j) :
    l.writeBlocks d unset behind addr data prev i res =
      (l.xMemoryWrite d unset (addr + BitVec.ofNat 16 i) ((data.drop i).take j) >>= fun p =>
        if p.2 = -1 then .ok (p.1, -1)
        else p.1.writeBlocks d unset behind addr data prev (i + j)
          (if p.2 = -2 then -2 else res)) := by
  rw [writeBlocks, dif_pos hi]
  split
  · next a' b' ha' hb' =>
    obtain rfl := Except.ok.inj (ha.symm.trans ha')
    obtain rfl := Except.ok.inj (hb.symm.trans hb')
    rw [dif_neg hab]
    split
    · next j' hj' =>
      obtain rfl := Except.ok.inj (hj.symm.trans hj')
      rfl
    · next f hf => cases hf.symm.trans hj
  · next f hf => cases hf.symm.trans ha
  · next hf _ => cases hf.symm.trans hb

/-- A fault of the inner loop is one of the outer loop. -/
theorem writeBlocks_fault (hi : i < data.length) (ha : fetch behind.data data i = .ok a)
    (hb : fetch behind.prev prev i = .ok b) (hab : a ≠ b) {f : Fault}
    (hj : scan behind data prev i 0 12 = .error f) :
    l.writeBlocks d unset behind addr data prev i res = .error f := by
  rw [writeBlocks, dif_pos hi]
  split
  · next a' b' ha' hb' =>
    obtain rfl := Except.ok.inj (ha.symm.trans ha')
    obtain rfl := Except.ok.inj (hb.symm.trans hb')
    rw [dif_neg hab]
    split
    · next j' hj' => cases hj.symm.trans hj'
    · next f' hf => cases hf.symm.trans hj; rfl
  · next f' hf => cases hf.symm.trans ha
  · next hf _ => cases hf.symm.trans hb

end Passes

/-- With nothing behind arrays whose last bytes differ, the outer loop does not return unless a
    write fails. -/
theorem not_returns_writeBlocks {addr : MemAddr} (hlen : prev.length = data.length)
    (hbehind : ¬ behind.Readable) (hlast : data.getLast? ≠ prev.getLast?)
    (hwrite : ∀ (l : Layer7Connection σ) a (block : CArray), block.length ≤ 12 →
      ∃ l' k, l.xMemoryWrite d unset a block = .ok (l', k) ∧ k ≠ -1)
    (l : Layer7Connection σ) (hi : i < data.length) (res : Int) :
    ¬ (l.writeBlocks d unset behind addr data prev i res).Returns := by
  induction hn : data.length - i using Nat.strong_induction_on generalizing i l res with
  | _ n ih =>
      obtain ⟨a, b, ha, hb⟩ := fetch_both behind hlen (.inl hi)
      by_cases hab : a = b
      · subst hab
        have hnext : i + 1 < data.length := by
          rcases Nat.lt_or_ge (i + 1) data.length with hlt | hge
          · exact hlt
          · -- the last bytes would be equal
            refine absurd ?_ hlast
            have hend : data.length - 1 = i := by omega
            rw [List.getLast?_eq_getElem?, List.getLast?_eq_getElem?, hlen, hend,
              List.getElem?_eq_getElem hi, List.getElem?_eq_getElem (by omega)]
            exact congrArg some (Except.ok.inj ((fetch_of_lt hi).symm.trans
              (ha.trans (hb.symm.trans (fetch_of_lt (by omega))))))
        rw [writeBlocks_skip hi ha hb]
        exact ih (data.length - (i + 1)) (by omega) l hnext res rfl
      · rcases hj : scan behind data prev i 0 12 with f | j
        · rw [writeBlocks_fault hi ha hb hab hj]
          exact Checked.not_returns_error f
        · have hpos := pos_of_scan hi ha hb hab hj
          have hlt := scan_lt hlen hbehind hj
          have hle := (le_of_scan hj).2
          have hblock : ((data.drop i).take j).length ≤ 12 := by
            rw [List.length_take]
            omega
          obtain ⟨l', k, hrun, hk⟩ := hwrite l (addr + BitVec.ofNat 16 i) _ hblock
          rw [writeBlocks_write hi ha hb hab hj, hrun, Checked.ok_bind, if_neg hk]
          exact ih (data.length - (i + j)) (by omega) l' hlt _ rfl

/-! ## Devices that are memories -/

/-- The device holds bytes, gives them back and stores what is written. -/
structure BehavesAsMemory (d : Device σ) (unset : Byte × Byte) (mem : σ → Memory 16) : Prop where
  read : ∀ s addr len, ∃ sent,
    (Layer7Call.aMemoryRead addr len).perform unset
        (d.answer s ((Layer7Call.aMemoryRead addr len).request.bytes unset)).2 =
      .ok (sent, some (.erg (readBytes (mem s) addr (len &&& 0x0f#8).toNat)))
  keeps : ∀ s addr len,
    mem (d.answer s ((Layer7Call.aMemoryRead addr len).request.bytes unset)).1 = mem s
  write : ∀ s addr (data : CArray), data.length ≤ 15 →
    mem (d.receive s ((APDU.aMemoryWrite (BitVec.ofNat 8 data.length) addr data).bytes unset)) =
      writeBytes (mem s) addr data

/-- The write requests. -/
def writes (services : List Service) : List (MemAddr × CArray) :=
  services.filterMap fun
    | .send (.aMemoryWrite _ addr data) => some (addr, data)
    | _ => none

@[simp] theorem writes_append (services services' : List Service) :
    writes (services ++ services') = writes services ++ writes services' :=
  List.filterMap_append

/-- A block of 1 to 12 bytes inside the range of `data`. -/
def BlockOf (addr : MemAddr) (data : CArray) (p : MemAddr × CArray) : Prop :=
  1 ≤ p.2.length ∧ p.2.length ≤ 12 ∧ addr.toNat ≤ p.1.toNat ∧
    p.1.toNat + p.2.length ≤ addr.toNat + data.length

/-- The addresses a write request covers. -/
def covered (p : MemAddr × CArray) : List Nat := List.range' p.1.toNat p.2.length

variable {mem : σ → Memory 16} {addr : MemAddr} {l : Layer7Connection σ}

theorem BehavesAsMemory.readsFrom (h : BehavesAsMemory d unset mem) (m : Memory 16) :
    ReadsFrom d unset m (fun s => mem s = m) False where
  answers s addr len sent result hm hperform := by
    obtain ⟨sent', hread⟩ := h.read s addr len
    rw [hread, hm] at hperform
    cases hperform
    exact .inl rfl
  keeps s addr len hm := (h.keeps s addr len).trans hm

/-- `A_Memory_Write` stores a block. -/
theorem BehavesAsMemory.aMemoryWrite_spec (h : BehavesAsMemory d unset mem) (addr : MemAddr)
    {data : CArray} (hlen : data.length ≤ 12) :
    ∃ l', l.aMemoryWrite d unset addr data = .ok l' ∧
      mem l'.device = writeBytes (mem l.device) addr data ∧
      writes l'.services = writes l.services ++ [(addr, data)] := by
  refine ⟨_, aMemoryWrite_eq d unset l addr (by omega), h.write _ _ _ (by omega), ?_⟩
  rw [writes_append]
  rfl

/-- `X_Memory_Write` stores a block and finds it there. -/
theorem BehavesAsMemory.xMemoryWrite_spec (h : BehavesAsMemory d unset mem) (addr : MemAddr)
    {data : CArray} (hlen : data.length ≤ 12) :
    ∃ l', l.xMemoryWrite d unset addr data = .ok (l', 0) ∧
      mem l'.device = writeBytes (mem l.device) addr data ∧
      writes l'.services = writes l.services ++ [(addr, data)] := by
  obtain ⟨l₁, hwrite, hmem, hwrites⟩ := h.aMemoryWrite_spec (l := l) addr hlen
  obtain ⟨l₂, e, hread, hmem₂, result, hservices, he⟩ :=
    (h.readsFrom (mem l₁.device)).aMemoryRead_cases (l := l₁) rfl addr hlen
  have hback : readBytes (mem l₁.device) addr data.length = data := by
    rw [hmem, readBytes_writeBytes _ _ (by omega)]
  obtain rfl : e = some data := he.elim (fun he => he.trans (congrArg some hback)) fun he => he.1.elim
  refine ⟨l₂, ?_, hmem₂.trans hmem, ?_⟩
  · rw [xMemoryWrite, hwrite, Checked.ok_bind, hread, Checked.ok_bind]
    simp
  · rw [hservices, writes_append, hwrites]
    simp [writes]

/-- A byte that is there already makes no difference. -/
theorem writeBytes_take_succ {m : Memory 16} (hfit : addr.toNat + data.length ≤ 2 ^ 16)
    (hi : i < data.length) (h : m (addr + BitVec.ofNat 16 i) = data[i]) :
    writeBytes m addr (data.take (i + 1)) = writeBytes m addr (data.take i) := by
  have hlen : (data.take i).length = i := by
    rw [List.length_take]
    omega
  have hkeep : writeBytes m addr (data.take i) (addr + BitVec.ofNat 16 i) = data[i] := by
    rw [writeBytes, toNat_add_sub (by omega), List.getElem?_eq_none (by omega), Option.getD_none, h]
  rw [List.take_succ_eq_append_getElem hi, ← writeBytes_append _ _ (by
    rw [hlen, List.length_singleton]
    omega), hlen, writeBytes_singleton_self hkeep]

/-- The block behind the first `i` bytes. -/
theorem writeBytes_take_add {m : Memory 16} (hfit : addr.toNat + data.length ≤ 2 ^ 16)
    (hj : i + j ≤ data.length) :
    writeBytes (writeBytes m addr (data.take i)) (addr + BitVec.ofNat 16 i)
        ((data.drop i).take j) =
      writeBytes m addr (data.take (i + j)) := by
  have hlen : (data.take i).length = i := by
    rw [List.length_take]
    omega
  have hblock : ((data.drop i).take j).length = j := by
    rw [List.length_take, List.length_drop]
    omega
  have hsum : (data.take i).length + ((data.drop i).take j).length ≤ 2 ^ 16 := by omega
  have happend := writeBytes_append m addr hsum
  rw [hlen] at happend
  rw [happend, List.take_add]

theorem blockOf_take (hfit : addr.toNat + data.length ≤ 2 ^ 16) (hj : i + j ≤ data.length)
    (hpos : 0 < j) (hle : j ≤ 12) :
    BlockOf addr data (addr + BitVec.ofNat 16 i, (data.drop i).take j) := by
  have hblock : ((data.drop i).take j).length = j := by
    rw [List.length_take, List.length_drop]
    omega
  have haddr : (addr + BitVec.ofNat 16 i).toNat = addr.toNat + i := by
    rw [BitVec.toNat_add, BitVec.toNat_ofNat, Nat.mod_eq_of_lt (by omega : i < 2 ^ 16),
      Nat.mod_eq_of_lt (by omega)]
  simp only [BlockOf, hblock, haddr]
  omega

/-- The outer loop from any of its passes: the memory holds the bytes up to `i`. -/
theorem BehavesAsMemory.writeBlocks_spec (h : BehavesAsMemory d unset mem) {m : Memory 16}
    (hfit : addr.toNat + data.length ≤ 2 ^ 16) (hprev : prev = readBytes m addr data.length)
    (hok : behind.Readable ∨ data.getLast? = prev.getLast?)
    (hmem : mem l.device = writeBytes m addr (data.take i)) (hi : i ≤ data.length) (res : Int) :
    ∃ l' blocks, l.writeBlocks d unset behind addr data prev i res = .ok (l', res) ∧
      mem l'.device = writeBytes m addr data ∧
      writes l'.services = writes l.services ++ blocks ∧ ∀ p ∈ blocks, BlockOf addr data p := by
  have hlen : prev.length = data.length := by rw [hprev, length_readBytes]
  induction hn : data.length - i using Nat.strong_induction_on generalizing i l with
  | _ n ih =>
      rcases Nat.lt_or_eq_of_le hi with hlt | rfl
      · obtain ⟨a, b, ha, hb⟩ := fetch_both behind hlen (.inl hlt)
        have ha' : data[i] = a := Except.ok.inj ((fetch_of_lt hlt).symm.trans ha)
        -- a byte that is there already is passed over
        by_cases hab : a = b
        · subst hab
          have hsame : m (addr + BitVec.ofNat 16 i) = data[i] := by
            have hin : i < prev.length := by omega
            have hb' : prev[i] = a :=
              Except.ok.inj ((fetch_of_lt (by omega)).symm.trans hb)
            subst hprev
            rw [getElem_readBytes] at hb'
            rw [hb', ha']
          rw [writeBlocks_skip hlt ha hb]
          exact ih (data.length - (i + 1)) (by omega)
            (hmem.trans (writeBytes_take_succ hfit hlt hsame).symm) hlt rfl
        -- the first byte that differs: `j` bytes go out in one block
        · obtain ⟨j, hj, hin⟩ : ∃ j, scan behind data prev i 0 12 = .ok j ∧ i + j ≤ data.length :=
            scan_returns hlen hok (.inl (by omega))
          have hpos := pos_of_scan hlt ha hb hab hj
          have hle := (le_of_scan hj).2
          have hblock : ((data.drop i).take j).length ≤ 12 := by
            rw [List.length_take]
            omega
          obtain ⟨l₁, hwrite, hmem₁, hwrites₁⟩ := h.xMemoryWrite_spec (l := l)
            (addr + BitVec.ofNat 16 i) hblock
          obtain ⟨l', blocks, hrun, hmem', hwrites', hblocks⟩ := ih (data.length - (i + j)) (by omega)
            (i := i + j) (l := l₁) (by rw [hmem₁, hmem, writeBytes_take_add hfit hin]) hin rfl
          refine ⟨l', (addr + BitVec.ofNat 16 i, (data.drop i).take j) :: blocks, ?_, hmem', ?_, ?_⟩
          · rw [writeBlocks_write hlt ha hb hab hj, hwrite, Checked.ok_bind]
            exact hrun
          · rw [hwrites', hwrites₁, List.append_assoc, List.singleton_append]
          · exact List.forall_mem_cons.mpr ⟨blockOf_take hfit hin hpos (by omega), hblocks⟩
      · refine ⟨l, [], writeBlocks_end (Nat.lt_irrefl _), ?_, (List.append_nil _).symm, ?_⟩
        · rw [hmem, List.take_length]
        · exact fun p hp => absurd hp List.not_mem_nil

/-- The loop of `A_Memory_Write_Block`: its blocks follow one another. -/
theorem BehavesAsMemory.sendBlocks_spec (h : BehavesAsMemory d unset mem) {m : Memory 16}
    (hfit : addr.toNat + data.length ≤ 2 ^ 16)
    (hmem : mem l.device = writeBytes m addr (data.take i)) :
    ∃ l' blocks, l.sendBlocks d unset addr data i = .ok (l', 0) ∧
      mem l'.device = writeBytes m addr data ∧
      writes l'.services = writes l.services ++ blocks ∧ (∀ p ∈ blocks, BlockOf addr data p) ∧
      blocks.flatMap covered = List.range' (addr.toNat + i) (data.length - i) := by
  induction hn : data.length - i using Nat.strong_induction_on generalizing i l with
  | _ n ih =>
      subst hn
      rw [sendBlocks]
      by_cases hi : i < data.length
      · rw [dif_pos hi]
        -- the length of this block
        let j := if i + 12 > data.length then data.length - i else 12
        have hj : 0 < j ∧ j ≤ 12 ∧ i + j ≤ data.length ∧ (j = 12 ∨ i + j = data.length) := by
          show 0 < ite _ _ _ ∧ ite _ _ _ ≤ _ ∧ i + ite _ _ _ ≤ _ ∧ (ite _ _ _ = _ ∨ i + ite _ _ _ = _)
          split <;> omega
        obtain ⟨hpos, hle, hin, hend⟩ := hj
        have hsmall : ((data.drop i).take j).length ≤ 12 := by
          rw [List.length_take]
          omega
        obtain ⟨l₁, hwrite, hmem₁, hwrites₁⟩ := h.aMemoryWrite_spec (l := l)
          (addr + BitVec.ofNat 16 i) hsmall
        -- `i` goes up by twelve, behind a short last block too
        have htake : data.take (i + 12) = data.take (i + j) := by
          rcases hend with hend | hend
          · rw [hend]
          · rw [hend, List.take_of_length_le (by omega), List.take_length]
        obtain ⟨l', blocks, hrun, hmem', hwrites', hblocks, hcovered⟩ :=
          ih (data.length - (i + 12)) (by omega) (i := i + 12) (l := l₁)
            (by rw [hmem₁, hmem, writeBytes_take_add hfit hin, htake]) rfl
        have hblock := blockOf_take hfit hin hpos hle
        refine ⟨l', (addr + BitVec.ofNat 16 i, (data.drop i).take j) :: blocks, ?_, hmem', ?_,
          List.forall_mem_cons.mpr ⟨hblock, hblocks⟩, ?_⟩
        · show (l.aMemoryWrite d unset (addr + BitVec.ofNat 16 i) ((data.drop i).take j) >>= _) = _
          rw [hwrite, Checked.ok_bind]
          exact hrun
        · rw [hwrites', hwrites₁, List.append_assoc, List.singleton_append]
        -- the addresses of this block, and then those of the rest
        · have hfirst : covered (addr + BitVec.ofNat 16 i, (data.drop i).take j) =
              List.range' (addr.toNat + i) j := by
            rw [covered, List.length_take, List.length_drop, Nat.min_eq_left (by omega),
              BitVec.toNat_add, BitVec.toNat_ofNat, Nat.mod_eq_of_lt (by omega : i < 2 ^ 16),
              Nat.mod_eq_of_lt (by omega)]
          rw [List.flatMap_cons, hcovered, hfirst]
          rcases hend with hend | hend
          · rw [hend, ← Nat.add_assoc, List.range'_append_1]
            congr 1
            omega
          · have hrest : data.length - (i + 12) = 0 := by omega
            rw [hrest, List.range'_zero, List.append_nil]
            congr 1
            omega
      · rw [dif_neg hi]
        refine ⟨l, [], rfl, ?_, (List.append_nil _).symm, fun p hp => absurd hp List.not_mem_nil, ?_⟩
        · rw [hmem, List.take_of_length_le (by omega)]
        · rw [Nat.sub_eq_zero_of_le (by omega)]
          rfl

/-! ## Whole writes -/

theorem writes_onlyReads {services : List Service} (h : OnlyReads services) :
    writes services = [] := by
  refine List.filterMap_eq_nil_iff.mpr fun x hx => ?_
  obtain ⟨addr, len, result, rfl⟩ := h x hx
  rfl

/-- `X_Memory_Write_Block` on a memory: the loop starts with what is there. -/
theorem BehavesAsMemory.xMemoryWriteBlock_eq (h : BehavesAsMemory d unset mem) (behind : Behind)
    (fresh : Nat → Byte) (l : Layer7Connection σ) (addr : MemAddr) (data : CArray) :
    ∃ l₁ : Layer7Connection σ, mem l₁.device = mem l.device ∧ writes l₁.services = writes l.services ∧
      l.xMemoryWriteBlock d unset behind fresh addr data =
        l₁.writeBlocks d unset behind addr data (readBytes (mem l.device) addr data.length) 0 0 := by
  obtain ⟨l₁, r, services, hread, hr, hmem, hservices, hreads, -⟩ :=
    (h.readsFrom (mem l.device)).xMemoryReadBlock_spec fresh (l := l) rfl addr data.length
  obtain rfl : r = some (readBytes (mem l.device) addr data.length) := hr.elim id fun hr => hr.1.elim
  refine ⟨l₁, hmem, ?_, ?_⟩
  · rw [hservices, writes_append, writes_onlyReads hreads, List.append_nil]
  · rw [xMemoryWriteBlock, hread, Checked.ok_bind]

/-- The result is 0; the memory holds `data` in its range and is unchanged elsewhere; and all
    write requests lie in the range. -/
def Stored (mem : σ → Memory 16) (l : Layer7Connection σ) (addr : MemAddr) (data : CArray)
    (r : Checked (Layer7Connection σ × Int)) : Prop :=
  ∃ l' blocks, r = .ok (l', 0) ∧ Updated (mem l.device) (mem l'.device) addr data ∧
    writes l'.services = writes l.services ++ blocks ∧ ∀ p ∈ blocks, BlockOf addr data p

/-- The same, with each byte of the range written once. -/
def StoredOnce (mem : σ → Memory 16) (l : Layer7Connection σ) (addr : MemAddr) (data : CArray)
    (r : Checked (Layer7Connection σ × Int)) : Prop :=
  ∃ l' blocks, r = .ok (l', 0) ∧ Updated (mem l.device) (mem l'.device) addr data ∧
    writes l'.services = writes l.services ++ blocks ∧ (∀ p ∈ blocks, BlockOf addr data p) ∧
    blocks.flatMap covered = List.range' addr.toNat data.length

theorem BehavesAsMemory.aMemoryWriteBlock_stores (h : BehavesAsMemory d unset mem)
    (hfit : addr.toNat + data.length ≤ 2 ^ 16) :
    StoredOnce mem l addr data (l.aMemoryWriteBlock d unset addr data) := by
  obtain ⟨l', blocks, hrun, hmem, hwrites, hblocks, hcovered⟩ :=
    h.sendBlocks_spec (l := l) (i := 0) (m := mem l.device) hfit (by
      rw [List.take_zero, writeBytes_nil])
  refine ⟨l', blocks, hrun, ?_, hwrites, hblocks, hcovered⟩
  rw [hmem]
  exact updated_writeBytes _ hfit

/-- With nothing behind, and other last bytes, `X_Memory_Write_Block` does not return. -/
theorem BehavesAsMemory.not_returns (h : BehavesAsMemory d unset mem) (hbehind : ¬ behind.Readable)
    (hlast : data.getLast? ≠ (readBytes (mem l.device) addr data.length).getLast?)
    (fresh : Nat → Byte) :
    ¬ (l.xMemoryWriteBlock d unset behind fresh addr data).Returns := by
  obtain ⟨l₁, -, -, hrun⟩ := h.xMemoryWriteBlock_eq behind fresh l addr data
  have hpos : 0 < data.length := by
    rcases data with _ | ⟨b, data⟩
    · exact absurd rfl hlast
    · exact Nat.succ_pos _
  rw [hrun]
  refine not_returns_writeBlocks (length_readBytes ..) hbehind hlast (fun l a block hlen => ?_) l₁
    hpos 0
  obtain ⟨l', hwrite, -⟩ := h.xMemoryWrite_spec (l := l) a hlen
  exact ⟨l', 0, hwrite, by decide⟩

/-- On a memory both functions write as they should exactly when the last byte of `data` is there
    already, or something can be read behind the arrays. -/
theorem blocks_stored_iff (h : BehavesAsMemory d unset mem) (behind : Behind)
    (fresh : Nat → Byte) (l : Layer7Connection σ) (addr : MemAddr) (data : CArray)
    (hfit : addr.toNat + data.length ≤ 2 ^ 16) :
    (Stored mem l addr data (l.xMemoryWriteBlock d unset behind fresh addr data) ∧
        StoredOnce mem l addr data (l.aMemoryWriteBlock d unset addr data)) ↔
      behind.Readable ∨
        data.getLast? = (readBytes (mem l.device) addr data.length).getLast? := by
  rw [and_iff_left (h.aMemoryWriteBlock_stores hfit)]
  constructor
  · rintro ⟨l', blocks, hrun, -⟩
    -- otherwise the comparison runs behind the arrays
    by_contra hnot
    obtain ⟨hbehind, hlast⟩ := not_or.mp hnot
    exact h.not_returns hbehind hlast fresh ⟨_, hrun⟩
  · intro hok
    obtain ⟨l₁, hmem₁, hwrites₁, hrun₁⟩ := h.xMemoryWriteBlock_eq behind fresh l addr data
    obtain ⟨l', blocks, hrun, hmem, hwrites, hblocks⟩ :=
      h.writeBlocks_spec (l := l₁) (i := 0) hfit rfl hok (by
        rw [hmem₁, List.take_zero, writeBytes_nil]) (Nat.zero_le _) 0
    refine ⟨l', blocks, hrun₁.trans hrun, ?_, by rw [hwrites, hwrites₁], hblocks⟩
    rw [hmem]
    exact updated_writeBytes _ hfit

variable (unset) in
theorem fromPacket_aMemoryWrite (addr : MemAddr) {data : CArray} (hlen : data.length ≤ 15) :
    APDU.fromPacket ((APDU.aMemoryWrite (BitVec.ofNat 8 data.length) addr data).bytes unset) =
      .aMemoryWrite (BitVec.ofNat 8 data.length) addr data := by
  have hmask : ∀ n ≤ 15, BitVec.ofNat 8 n &&& 0xf0#8 = 0#8 ∧ (BitVec.ofNat 8 n).toNat = n := by
    decide
  obtain ⟨hhigh, hnat⟩ := hmask data.length hlen
  exact APDU.fromPacket_bytes (by simp [APDU.asserts, hhigh, hnat]) trivial trivial trivial

/-- A device that is its memory. -/
def memoryDevice : Device (Memory 16) where
  answer m sent :=
    match APDU.fromPacket sent with
    | .aMemoryRead count addr => (m, some (memoryResponse m addr count))
    | _ => (m, none)
  receive m sent :=
    match APDU.fromPacket sent with
    | .aMemoryWrite _ addr data => writeBytes m addr data
    | _ => m

theorem memoryDevice_behaves : BehavesAsMemory memoryDevice unset id where
  read m addr len := by
    obtain ⟨sent, hright⟩ := perform_aMemoryRead unset
      (fromPacket_memoryResponse m addr len)
    refine ⟨sent, ?_⟩
    simp only [memoryDevice, fromPacket_aMemoryRead]
    exact hright
  keeps m addr len := by
    simp only [memoryDevice, fromPacket_aMemoryRead]
  write m addr data hlen := by
    simp only [memoryDevice, fromPacket_aMemoryWrite unset addr hlen]
    rfl

/-- The second of three bytes is another one. -/
theorem blocks_stored_iff_unchanged :
    let l : Layer7Connection (Memory 16) := { device := fun _ => 0#8 }
    (Stored id l 0x0100#16 [0x00#8, 0x01#8, 0x00#8]
        (l.xMemoryWriteBlock memoryDevice (0#8, 0#8) {} (fun _ => 0#8) 0x0100#16
          [0x00#8, 0x01#8, 0x00#8]) ∧
      StoredOnce id l 0x0100#16 [0x00#8, 0x01#8, 0x00#8]
        (l.aMemoryWriteBlock memoryDevice (0#8, 0#8) 0x0100#16 [0x00#8, 0x01#8, 0x00#8])) ↔
      Behind.Readable {} ∨ [0x00#8, 0x01#8, 0x00#8].getLast? =
        (readBytes (fun _ => 0#8) 0x0100#16 3).getLast? :=
  blocks_stored_iff memoryDevice_behaves {} (fun _ => 0#8) { device := fun _ => 0#8 } 0x0100#16
    [0x00#8, 0x01#8, 0x00#8] (by decide)

/-- A single byte that is another one. -/
theorem blocks_not_stored :
    let l : Layer7Connection (Memory 16) := { device := fun _ => 0#8 }
    ¬ (Stored id l 0x0100#16 [0x01#8]
        (l.xMemoryWriteBlock memoryDevice (0#8, 0#8) {} (fun _ => 0#8) 0x0100#16 [0x01#8]) ∧
      StoredOnce id l 0x0100#16 [0x01#8]
        (l.aMemoryWriteBlock memoryDevice (0#8, 0#8) 0x0100#16 [0x01#8])) := by
  rintro l ⟨⟨l', blocks, hrun, -⟩, -⟩
  have hlast : [0x01#8].getLast? ≠ (readBytes (id l.device) 0x0100#16 1).getLast? := by decide
  exact memoryDevice_behaves.not_returns (show ¬ Behind.Readable {} by decide) hlast (fun _ => 0#8)
    ⟨_, hrun⟩

/-! ## The indices -/

/-- A write of a block returns, whatever the device does. -/
theorem xMemoryWrite_returns (d : Device σ) (unset : Byte × Byte) (l : Layer7Connection σ)
    (addr : MemAddr) {block : CArray} (hlen : block.length ≤ 12) :
    (l.xMemoryWrite d unset addr block).Returns := by
  have hwrite := aMemoryWrite_eq d unset l addr (show block.length ≤ 15 by omega)
  rw [xMemoryWrite, hwrite, Checked.ok_bind]
  obtain ⟨sent, result, -, hread⟩ := aMemoryRead_eq d unset
    { device := d.receive l.device
        ((APDU.aMemoryWrite (BitVec.ofNat 8 block.length) addr block).bytes unset)
      services := l.services ++
        [.send (.aMemoryWrite (BitVec.ofNat 8 block.length) addr block)] }
    addr (BitVec.ofNat 8 block.length)
  rw [hread, Checked.ok_bind]
  cases ergOf result with
  | none => exact ⟨_, rfl⟩
  | some d1 => exact ⟨_, rfl⟩

/-- With equal last bytes, or something behind the arrays, the loops return, whatever the device
    does. -/
theorem writeBlocks_returns (hlen : prev.length = data.length)
    (hok : behind.Readable ∨ data.getLast? = prev.getLast?) (l : Layer7Connection σ)
    (addr : MemAddr) (i : Nat) (res : Int) :
    (l.writeBlocks d unset behind addr data prev i res).Returns := by
  induction hn : data.length - i using Nat.strong_induction_on generalizing i l res with
  | _ n ih =>
      by_cases hi : i < data.length
      · obtain ⟨a, b, ha, hb⟩ := fetch_both behind hlen (.inl hi)
        -- passed over, or written with a block that `scan` finds
        by_cases hab : a = b
        · subst hab
          rw [writeBlocks_skip hi ha hb]
          exact ih (data.length - (i + 1)) (by omega) l (i + 1) res rfl
        · obtain ⟨j, hj, hin⟩ : ∃ j, scan behind data prev i 0 12 = .ok j ∧ i + j ≤ data.length :=
            scan_returns hlen hok (.inl (by omega))
          have hpos := pos_of_scan hi ha hb hab hj
          have hle := (le_of_scan hj).2
          have hblock : ((data.drop i).take j).length ≤ 12 := by
            rw [List.length_take]
            omega
          obtain ⟨⟨l', k⟩, hwrite⟩ := xMemoryWrite_returns d unset l
            (addr + BitVec.ofNat 16 i) hblock
          rw [writeBlocks_write hi ha hb hab hj, hwrite, Checked.ok_bind]
          split
          · exact ⟨_, rfl⟩
          · exact ih (data.length - (i + j)) (by omega) l' (i + j) _ rfl
      · exact ⟨_, writeBlocks_end hi⟩

theorem xMemoryWriteBlock_returns (d : Device σ) (unset : Byte × Byte) (hbehind : behind.Readable)
    (fresh : Nat → Byte) (l : Layer7Connection σ) (addr : MemAddr) (data : CArray) :
    (l.xMemoryWriteBlock d unset behind fresh addr data).Returns := by
  obtain ⟨⟨l₁, prev⟩, hread⟩ := xMemoryReadBlock_returns d unset fresh l addr data.length
  rw [xMemoryWriteBlock, hread, Checked.ok_bind]
  cases prev with
  | none => exact ⟨_, rfl⟩
  | some prev =>
      exact writeBlocks_returns (length_of_xMemoryReadBlock hread) (.inl hbehind) l₁ addr 0 0

theorem aMemoryWriteBlock_returns (d : Device σ) (unset : Byte × Byte) (l : Layer7Connection σ)
    (addr : MemAddr) (data : CArray) : (l.aMemoryWriteBlock d unset addr data).Returns := by
  have hsend : ∀ (l : Layer7Connection σ) (i : Nat),
      (l.sendBlocks d unset addr data i).Returns := by
    intro l i
    induction hn : data.length - i using Nat.strong_induction_on generalizing l i with
    | _ n ih =>
        rw [sendBlocks]
        by_cases hi : i < data.length
        · rw [dif_pos hi]
          dsimp only
          rw [aMemoryWrite_eq d unset l _ (by rw [List.length_take]; split <;> omega),
            Checked.ok_bind]
          exact ih (data.length - (i + 12)) (by omega) _ _ rfl
        · rw [dif_neg hi]
          exact ⟨_, rfl⟩
  exact hsend l 0

/-- For every device each access to `data` and `prev` lies inside exactly when their last bytes are
    equal, or there are none. -/
theorem writeBlocks_inside_iff (data prev : CArray) (hlen : prev.length = data.length) :
    (∀ (σ : Type) (d : Device σ) (unset : Byte × Byte) (l : Layer7Connection σ) (addr : MemAddr),
        (l.writeBlocks d unset {} addr data prev 0 0).Returns) ↔
      data.getLast? = prev.getLast? := by
  constructor
  · intro h
    by_contra hlast
    have hpos : 0 < data.length := by
      rcases data with _ | ⟨b, data⟩
      · rw [List.eq_nil_of_length_eq_zero hlen] at hlast
        exact absurd rfl hlast
      · exact Nat.succ_pos _
    refine not_returns_writeBlocks hlen (show ¬ Behind.Readable {} by decide) hlast
      (fun l a block hle => ?_) { device := fun _ => 0#8 } hpos 0
      (h (Memory 16) memoryDevice (0#8, 0#8) _ 0#16)
    obtain ⟨l', hwrite, -⟩ := memoryDevice_behaves.xMemoryWrite_spec (l := l) a hle
    exact ⟨l', 0, hwrite, by decide⟩
  · intro hlast σ d unset l addr
    exact writeBlocks_returns hlen (.inr hlast) l addr 0 0

theorem writeBlocks_inside_iff_unchanged :
    (∀ (σ : Type) (d : Device σ) (unset : Byte × Byte) (l : Layer7Connection σ) (addr : MemAddr),
        (l.writeBlocks d unset {} addr [0x01#8, 0x02#8] [0x03#8, 0x02#8] 0 0).Returns) ↔
      [0x01#8, 0x02#8].getLast? = [0x03#8, 0x02#8].getLast? :=
  writeBlocks_inside_iff [0x01#8, 0x02#8] [0x03#8, 0x02#8] rfl

/-- A single byte that is another one is compared with what lies behind. -/
theorem writeBlocks_outside :
    ¬ ∀ (σ : Type) (d : Device σ) (unset : Byte × Byte) (l : Layer7Connection σ) (addr : MemAddr),
        (l.writeBlocks d unset {} addr [0x01#8] [0x00#8] 0 0).Returns := by
  intro h
  refine not_returns_writeBlocks (show [0x00#8].length = [0x01#8].length from rfl)
    (show ¬ Behind.Readable {} by decide) (by decide) (fun l a block hle => ?_)
    { device := fun _ => 0#8 } (by decide) 0
    (h (Memory 16) memoryDevice (0#8, 0#8) _ 0#16)
  obtain ⟨l', hwrite, -⟩ := memoryDevice_behaves.xMemoryWrite_spec (l := l) a hle
  exact ⟨l', 0, hwrite, by decide⟩

end Layer7Connection

end BcuSdk.Eibd
