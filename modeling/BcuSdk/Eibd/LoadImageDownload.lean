/-
  BcuSdk.Eibd.LoadImageDownload

  What a download to a BCU 1 leaves in the memory of the device
  (`LoadImage`, eibd/libserver/managementclient.cpp).

  The download is ten writes.  The first one sets the error flags at 0x10D,
  the last one clears them, so a device with half a program in it does not run
  that: whenever the connection breaks, the memory is as before, or the flags
  are set, or the program is complete.  Three places are never written: the
  manufacturer data at 0x101 and the individual address at 0x117.
-/
import BcuSdk.Eibd.LoadImageSafety
import BcuSdk.Lib.Chunks

namespace BcuSdk.Eibd

open BcuSdk.Lib BcuSdk.Common

/-! ## Devices with a memory -/

/-- The device has a memory, which only writes change; a write that fails may have stored a part of
    its bytes.  No write goes over the last address. -/
structure StoresChunks {σ : Type} (m : ManagementConnection σ) (mem : σ → Memory 16) : Prop where
  init : ∀ s, mem (m.init s).2 = mem s
  deviceDescriptorRead : ∀ s, mem (m.deviceDescriptorRead s).2 = mem s
  written : ∀ addr data s, Chunk.Fits ⟨addr, data⟩ → (m.memoryWriteBlock addr data s).1 = true →
    mem (m.memoryWriteBlock addr data s).2 = writeChunk (mem s) ⟨addr, data⟩
  broken : ∀ addr data s, Chunk.Fits ⟨addr, data⟩ → (m.memoryWriteBlock addr data s).1 = false →
    Partly (mem s) (mem (m.memoryWriteBlock addr data s).2) ⟨addr, data⟩

/-! ## The ten writes -/

/-- A write of the download, and the result if it fails. -/
structure Stage where
  result : BCULoadResult
  block : Chunk 16

/-- `/* set error flags in BCU (0x10D = 0x00) */` -/
def clearError : Stage := ⟨.clearError, ⟨0x010d#16, [0x00#8]⟩⟩

/-- `/* reset all error flags in the BCU (0x10D = 0xFF) */` -/
def prepareRun : Stage := ⟨.prepareRun, ⟨0x010d#16, [0xff#8]⟩⟩

/-- A part of the code, at its place in the EEPROM. -/
def codeChunk (code : CArray) (start len : Nat) : Chunk 16 :=
  ⟨BitVec.ofNat 16 (0x100 + start), (code.drop start).take len⟩

/-- The writes in between. -/
def loadStages (code : CArray) : List Stage :=
  [⟨.resetAddrTab, ⟨0x0116#16, [0x01#8]⟩⟩,
    ⟨.loadHeader, ⟨0x0100#16, [0xff#8]⟩⟩,
    ⟨.loadHeader, codeChunk code 0x03 10⟩,
    ⟨.loadHeader, codeChunk code 0x0e 8⟩,
    ⟨.loadMain, codeChunk code 0x19 (code.length - 0x19)⟩,
    ⟨.loadMain, codeChunk code 0x00 1⟩,
    ⟨.zeroRam, ⟨0x00ce#16, List.replicate 18 0#8⟩⟩,
    ⟨.finalizeAddrTab, codeChunk code 0x16 1⟩]

def bcu1Stages (code : CArray) : List Stage := clearError :: (loadStages code ++ [prepareRun])

/-- The code of a BCU 1 image that `PrepareLoadImage` has accepted. -/
structure BCU1Code (code : CArray) : Prop where
  atLeast : 0x19 ≤ code.length
  atMost : code.length ≤ 0xfe

namespace ManagementConnection

variable {σ : Type} (m : ManagementConnection σ)

/-- One write after the other. -/
def writeStages : List Stage → Download σ Unit
  | [] => pure ()
  | b :: bs => do
      m.writeBlock b.result b.block.addr b.block.data
      writeStages bs

theorem writeCode_eq {code : CArray} {start len : Nat} (h : start + len ≤ code.length)
    (r : BCULoadResult) (addr : Word16) :
    m.writeCode r addr code start len = m.writeBlock r addr ((code.drop start).take len) := by
  rw [writeCode, readSlice_of_le h]
  funext s
  rw [Download.bind_apply]
  rfl

/-- The download to a BCU 1 is the list of its writes. -/
theorem loadBCU1_eq {i : BCUImage} (hi : BCU1Code i.code) :
    m.loadBCU1 0x0012#16 i =
      m.writeStages (bcu1Stages i.code) >>= fun _ => .call m.restart := by
  have hlow := hi.atLeast
  have hhigh := hi.atMost
  have hmain : (BitVec.ofNat 32 i.code.length - 0x19#32).toNat = i.code.length - 0x19 := by
    rw [BitVec.toNat_sub, BitVec.toNat_ofNat]
    show (2 ^ 32 - 25 + i.code.length % 2 ^ 32) % 2 ^ 32 = i.code.length - 25
    omega
  rw [loadBCU1, if_neg (not_not.mpr rfl), hmain, m.writeCode_eq (by omega),
    m.writeCode_eq (by omega), m.writeCode_eq (by omega), m.writeCode_eq (by omega),
    m.writeCode_eq (by omega)]
  simp only [bcu1Stages, loadStages, List.cons_append, List.nil_append, writeStages, bind_assoc,
    pure_bind]
  rfl

variable {m} {mem : σ → Memory 16}

/-- A write of the download is made, or it breaks off and ends the download with its result. -/
theorem writeBlock_run (hm : StoresChunks m mem) {b : Stage} (hfits : b.block.Fits) (s : σ) :
    (∃ s', m.writeBlock b.result b.block.addr b.block.data s = .ok (.ok (), s') ∧
      mem s' = writeChunk (mem s) b.block) ∨
    ∃ s', m.writeBlock b.result b.block.addr b.block.data s = .ok (.error b.result, s') ∧
      Partly (mem s) (mem s') b.block := by
  rcases hdone : m.memoryWriteBlock b.block.addr b.block.data s with ⟨ok, s'⟩
  have hrun : m.writeBlock b.result b.block.addr b.block.data s =
      (if ok then pure () else throw b.result : Download σ Unit) s' := by
    rw [writeBlock, Download.bind_apply, Download.call, hdone, Checked.ok_bind]
  cases ok with
  | true =>
      have hmem := hm.written b.block.addr b.block.data s hfits (by rw [hdone])
      rw [hdone] at hmem
      exact .inl ⟨s', hrun, hmem⟩
  | false =>
      have hmem := hm.broken b.block.addr b.block.data s hfits (by rw [hdone])
      rw [hdone] at hmem
      exact .inr ⟨s', hrun, hmem⟩

/-- All writes are made, or the download breaks off in one of them. -/
theorem writeStages_run (hm : StoresChunks m mem) {bs : List Stage}
    (hfits : ∀ b ∈ bs, b.block.Fits) (s : σ) :
    (∃ s', m.writeStages bs s = .ok (.ok (), s') ∧
      mem s' = writeAll (mem s) (bs.map (·.block))) ∨
    ∃ s' pre b post, bs = pre ++ b :: post ∧ m.writeStages bs s = .ok (.error b.result, s') ∧
      Partly (writeAll (mem s) (pre.map (·.block))) (mem s') b.block := by
  induction bs generalizing s with
  | nil => exact .inl ⟨s, rfl, rfl⟩
  | cons b bs ih =>
      rw [writeStages, Download.bind_apply]
      obtain ⟨hfirst, hrest⟩ := List.forall_mem_cons.mp hfits
      rcases writeBlock_run hm hfirst s with ⟨s₁, hrun, hmem⟩ | ⟨s₁, hrun, hmem⟩
      · rw [hrun, Checked.ok_bind]
        rcases ih hrest s₁ with ⟨s', hrun', hend⟩ | ⟨s', pre, b', post, hbs, hrun', hpartly⟩
        · exact .inl ⟨s', hrun', by rw [hend, hmem]; rfl⟩
        · refine .inr ⟨s', b :: pre, b', post, by rw [hbs]; rfl, hrun', ?_⟩
          rw [List.map_cons, writeAll_cons, ← hmem]
          exact hpartly
      · rw [hrun]
        exact .inr ⟨s₁, [], b, bs, rfl, rfl, hmem⟩

end ManagementConnection

/-! ## The memory afterwards -/

/-- The places that the download of `code` leaves alone. -/
def Untouched (code : CArray) (x : BitVec 16) : Prop :=
  x.toNat < 0xce ∨ 0xdf < x.toNat ∧ x.toNat < 0x100 ∨ 0x100 + code.length ≤ x.toNat ∨
    x.toNat = 0x101 ∨ x.toNat = 0x102 ∨ x.toNat = 0x117 ∨ x.toNat = 0x118

/-- The memory `m` holds the program `code` and no error flags, and the user RAM is clear. -/
structure IsLoaded (code : CArray) (m : Memory 16) : Prop where
  flags : m 0x010d#16 = 0xff#8
  ram : ∀ x : BitVec 16, 0xce ≤ x.toNat → x.toNat ≤ 0xdf → m x = 0#8
  program : ∀ j (hj : j < code.length), j ∉ [0x01, 0x02, 0x0d, 0x17, 0x18] →
    ∀ x : BitVec 16, x.toNat = 0x100 + j → m x = code[j]

def bcu1Chunks (code : CArray) : List (Chunk 16) := (bcu1Stages code).map (·.block)

variable {code : CArray}

theorem bcu1_fits (hc : BCU1Code code) : ∀ b ∈ bcu1Chunks code, b.Fits := by
  have hlow := hc.atLeast
  have hhigh := hc.atMost
  simp only [bcu1Chunks, bcu1Stages, clearError, loadStages, codeChunk, prepareRun,
    List.cons_append, List.nil_append, List.map_cons, List.map_nil, List.forall_mem_cons,
    Chunk.Fits, List.length_take, List.length_drop, List.length_replicate, List.length_singleton,
    BitVec.toNat_ofNat]
  refine ⟨?_, ?_, ?_, ?_, ?_, ?_, ?_, ?_, ?_, ?_, fun b hb => absurd hb List.not_mem_nil⟩ <;> omega

theorem untouched_misses (hc : BCU1Code code) {x : BitVec 16} (hx : Untouched code x) :
    ∀ b ∈ bcu1Chunks code, b.Misses x := by
  have hlow := hc.atLeast
  have hhigh := hc.atMost
  rw [Untouched] at hx
  simp only [bcu1Chunks, bcu1Stages, clearError, loadStages, codeChunk, prepareRun,
    List.cons_append, List.nil_append, List.map_cons, List.map_nil, List.forall_mem_cons,
    Chunk.Misses, List.length_take, List.length_drop, List.length_replicate, List.length_singleton,
    BitVec.toNat_ofNat]
  refine ⟨?_, ?_, ?_, ?_, ?_, ?_, ?_, ?_, ?_, ?_, fun b hb => absurd hb List.not_mem_nil⟩ <;> omega

/-- What is at an address that a write covers and none of the later ones does. -/
theorem lastWritten {m : Memory 16} (hc : BCU1Code code) (k : Nat) {b : Chunk 16} {x : BitVec 16}
    {i : Nat} (hk : (bcu1Chunks code)[k]? = some b) (hi : i < b.data.length)
    (hx : x.toNat = b.addr.toNat + i) (hmisses : ∀ b ∈ (bcu1Chunks code).drop (k + 1), b.Misses x) :
    writeAll m (bcu1Chunks code) x = b.data[i] :=
  writeAll_of_getElem? (bcu1_fits hc) hk hi hx hmisses

theorem lastWritten_code {m : Memory 16} (hc : BCU1Code code) (k start len : Nat)
    (hk : (bcu1Chunks code)[k]? = some (codeChunk code start len)) {j : Nat} {hj : j < code.length}
    (hfirst : start ≤ j) (hlast : j < start + len) {x : BitVec 16} (hx : x.toNat = 0x100 + j)
    (hmisses : ∀ b ∈ (bcu1Chunks code).drop (k + 1), b.Misses x) :
    writeAll m (bcu1Chunks code) x = code[j] := by
  have hhigh := hc.atMost
  have hlt : j - start < (codeChunk code start len).data.length := by
    rw [codeChunk, List.length_take, List.length_drop]
    omega
  have hplace : x.toNat = (codeChunk code start len).addr.toNat + (j - start) := by
    rw [codeChunk, BitVec.toNat_ofNat, hx]
    omega
  have hcode : (codeChunk code start len).data[j - start] = code[start + (j - start)] := by
    simp only [codeChunk, List.getElem_take, List.getElem_drop]
  rw [lastWritten hc k hk hlt hplace hmisses, hcode]
  congr 1
  omega

theorem isLoaded_writeAll (hc : BCU1Code code) (m : Memory 16) :
    IsLoaded code (writeAll m (bcu1Chunks code)) := by
  have hlow := hc.atLeast
  have hhigh := hc.atMost
  refine ⟨?_, fun x hfirst hlast => ?_, fun j hj hskip x hx => ?_⟩
  · exact lastWritten (i := 0) hc 9 rfl Nat.one_pos rfl fun b hb => absurd hb List.not_mem_nil
  · have hmisses : ∀ b ∈ (bcu1Chunks code).drop 8, b.Misses x := by
      simp [bcu1Chunks, bcu1Stages, loadStages, codeChunk, prepareRun, Chunk.Misses]
      omega
    have hlt : x.toNat - 0xce < (List.replicate 18 0#8).length := by
      rw [List.length_replicate]
      omega
    calc writeAll m (bcu1Chunks code) x
        = (List.replicate 18 0#8)[x.toNat - 0xce] :=
          lastWritten hc 7 rfl hlt (Nat.add_sub_of_le hfirst).symm hmisses
      _ = 0#8 := List.getElem_replicate ..
  · have hskip' : j ≠ 0x01 ∧ j ≠ 0x02 ∧ j ≠ 0x0d ∧ j ≠ 0x17 ∧ j ≠ 0x18 := by simpa using hskip
    -- the write that puts byte `j` there for good
    rcases (by omega : j = 0 ∨ 0x03 ≤ j ∧ j < 0x0d ∨ 0x0e ≤ j ∧ j < 0x16 ∨ j = 0x16 ∨ 0x19 ≤ j)
      with rfl | ⟨hfirst, hlast⟩ | ⟨hfirst, hlast⟩ | rfl | hfirst
    · exact lastWritten_code hc 6 0x00 1 rfl (by omega) (by omega) hx (by
        simp [bcu1Chunks, bcu1Stages, loadStages, codeChunk, prepareRun, Chunk.Misses]; omega)
    · exact lastWritten_code hc 3 0x03 10 rfl (by omega) (by omega) hx (by
        simp [bcu1Chunks, bcu1Stages, loadStages, codeChunk, prepareRun, Chunk.Misses]; omega)
    · exact lastWritten_code hc 4 0x0e 8 rfl (by omega) (by omega) hx (by
        simp [bcu1Chunks, bcu1Stages, loadStages, codeChunk, prepareRun, Chunk.Misses]; omega)
    · exact lastWritten_code hc 8 0x16 1 rfl (by omega) (by omega) hx (by
        simp [bcu1Chunks, bcu1Stages, loadStages, codeChunk, prepareRun, Chunk.Misses]; omega)
    · exact lastWritten_code hc 5 0x19 (code.length - 0x19) rfl hfirst (by omega) hx (by
        simp [bcu1Chunks, bcu1Stages, loadStages, codeChunk, prepareRun, Chunk.Misses]; omega)

/-- The writes in between leave the error flags alone. -/
theorem flags_misses (hc : BCU1Code code) : ∀ b ∈ loadStages code, b.block.Misses 0x010d#16 := by
  have hlow := hc.atLeast
  simp only [loadStages, codeChunk, List.forall_mem_cons, Chunk.Misses, List.length_take,
    List.length_drop, List.length_replicate, List.length_singleton, BitVec.toNat_ofNat]
  refine ⟨?_, ?_, ?_, ?_, ?_, ?_, ?_, ?_, fun b hb => absurd hb List.not_mem_nil⟩ <;> omega

/-- The error flags are set behind the first write. -/
theorem flags_set (hc : BCU1Code code) (m : Memory 16) {done : List Stage}
    (hdone : ∀ b ∈ done, b ∈ loadStages code) :
    writeAll m (clearError.block :: done.map (·.block)) 0x010d#16 = 0x00#8 := by
  have hmem : ∀ b ∈ done.map (·.block), b ∈ bcu1Chunks code ∧ b.Misses 0x010d#16 := by
    intro b hb
    obtain ⟨d, hd, rfl⟩ := List.mem_map.mp hb
    refine ⟨List.mem_map_of_mem ?_, flags_misses hc d (hdone d hd)⟩
    rw [bcu1Stages]
    exact List.mem_cons_of_mem _ (List.mem_append_left _ (hdone d hd))
  show writeAll m ([] ++ clearError.block :: done.map (·.block)) 0x010d#16 = _
  exact writeAll_of_last (b := clearError.block) (i := 0) Nat.one_pos (by decide) rfl
    (fun b hb => bcu1_fits hc b (hmem b hb).1) fun b hb => (hmem b hb).2

/-- What a download to a BCU 1 that breaks off makes of the memory `before`. -/
structure BrokenOff (code : CArray) (before after : Memory 16) : Prop where
  untouched : ∀ x, Untouched code x → after x = before x
  harmless : after = before ∨ after 0x010d#16 = 0x00#8 ∨ IsLoaded code after

/-- The writes up to a place where the download breaks off. -/
theorem brokenOff_of_partly (hc : BCU1Code code) {pre post : List Stage} {b : Stage}
    (hsplit : bcu1Stages code = pre ++ b :: post) {before after : Memory 16}
    (hafter : Partly (writeAll before (pre.map (·.block))) after b.block) :
    BrokenOff code before after := by
  have hchunks : bcu1Chunks code = pre.map (·.block) ++ b.block :: post.map (·.block) := by
    rw [bcu1Chunks, hsplit, List.map_append, List.map_cons]
  have hfits : b.block.Fits := bcu1_fits hc _ (by rw [hchunks]; simp)
  refine ⟨fun x hx => ?_, ?_⟩
  · have hmisses := untouched_misses hc hx
    rw [hafter.of_misses hfits (hmisses _ (by rw [hchunks]; simp))]
    exact writeAll_of_outside (fun b hb => bcu1_fits hc b (by rw [hchunks]; simp [hb]))
      fun b hb => hmisses b (by rw [hchunks]; simp [hb])
  · rw [bcu1Stages] at hsplit
    rcases List.cons_eq_append_iff.mp hsplit with ⟨rfl, hfirst⟩ | ⟨done, rfl, hrest⟩
    · -- the first write
      obtain ⟨rfl, -⟩ := List.cons.inj hfirst
      rcases hafter.single (by decide) with hafter | hafter
      · exact .inl hafter
      · refine .inr (.inl ?_)
        rw [hafter]
        exact flags_set hc before fun b (hb : b ∈ []) => absurd hb List.not_mem_nil
    · rcases List.eq_nil_or_concat post with rfl | ⟨post, last, rfl⟩
      · -- the last write
        obtain ⟨hdone, hlast⟩ := List.append_inj' hrest.symm rfl
        obtain ⟨rfl, -⟩ := List.cons.inj hlast
        rw [hdone] at hafter
        rcases hafter.single (by decide) with hafter | hafter
        · refine .inr (.inl ?_)
          rw [hafter]
          exact flags_set hc before fun b hb => hb
        · refine .inr (.inr ?_)
          rw [hafter]
          exact isLoaded_writeAll hc before
      · -- a write in between
        have hmid : loadStages code = done ++ b :: post := by
          have hrest' : loadStages code ++ [prepareRun] = (done ++ b :: post) ++ [last] := by
            rw [hrest]
            simp
          exact (List.append_inj' hrest' rfl).1
        have hmisses := flags_misses hc b (by rw [hmid]; simp)
        refine .inr (.inl ?_)
        rw [hafter.of_misses hfits hmisses]
        exact flags_set hc before fun b hb => by rw [hmid]; simp [hb]

namespace ManagementConnection

variable {σ : Type} {m : ManagementConnection σ} {mem : σ → Memory 16}

theorem loadBCU1_run (hm : StoresChunks m mem) {i : BCUImage} (hc : BCU1Code i.code)
    (maskver : Word16) (s : σ) :
    (∃ s', m.loadBCU1 maskver i s = .ok (.ok (), (m.restart s').2) ∧
      mem s' = writeAll (mem s) (bcu1Chunks i.code)) ∨
    ∃ r s', m.loadBCU1 maskver i s = .ok (.error r, s') ∧ r ≠ .loaded ∧
      BrokenOff i.code (mem s) (mem s') := by
  by_cases hmask : maskver = 0x0012#16
  · subst hmask
    rw [loadBCU1_eq m hc, Download.bind_apply]
    rcases writeStages_run hm (fun b hb => bcu1_fits hc b.block (List.mem_map_of_mem hb)) s with
      ⟨s', hrun, hmem⟩ | ⟨s', pre, b, post, hsplit, hrun, hpartly⟩
    · rw [hrun]
      exact .inl ⟨s', rfl, hmem⟩
    · have hresult : ∀ b ∈ bcu1Stages i.code, b.result ≠ .loaded := by
        simp [bcu1Stages, clearError, loadStages, prepareRun]
      rw [hrun]
      exact .inr ⟨b.result, s', rfl, hresult b (by rw [hsplit]; simp),
        brokenOff_of_partly hc hsplit hpartly⟩
  · rw [loadBCU1, if_pos hmask]
    exact .inr ⟨.wrongMaskVersion, s, rfl, by decide, fun _ _ => rfl, .inl rfl⟩

theorem load_run (hm : StoresChunks m mem) {i : BCUImage} (htype : i.bcuType = .bcu1)
    (hc : BCU1Code i.code) (s : σ) :
    (∃ s', m.load i s = .ok (.ok (), (m.restart s').2) ∧
      mem s' = writeAll (mem s) (bcu1Chunks i.code)) ∨
    ∃ r s', m.load i s = .ok (.error r, s') ∧ r ≠ .loaded ∧
      BrokenOff i.code (mem s) (mem s') := by
  have hinit : mem (m.init s).2 = mem s := hm.init s
  have hdescr : mem (m.deviceDescriptorRead (m.init s).2).2 = mem s :=
    (hm.deviceDescriptorRead _).trans hinit
  cases hok : (m.init s).1 with
  | false =>
      have hrun : m.load i s = .ok (.error .noDeviceConnection, (m.init s).2) := by
        rw [load, Download.bind_apply, Download.call, Checked.ok_bind, hok]
        rfl
      exact .inr ⟨_, _, hrun, by decide, fun _ _ => by rw [hinit], .inl hinit⟩
  | true =>
      cases hread : (m.deviceDescriptorRead (m.init s).2).1 with
      | none =>
          have hrun : m.load i s =
              .ok (.error .maskReadFailed, (m.deviceDescriptorRead (m.init s).2).2) := by
            rw [load, Download.bind_apply, Download.call, Checked.ok_bind, hok]
            show (Download.call m.deviceDescriptorRead >>= _) (m.init s).2 = _
            rw [Download.bind_apply, Download.call, Checked.ok_bind, hread]
            rfl
          exact .inr ⟨_, _, hrun, by decide, fun _ _ => by rw [hdescr], .inl hdescr⟩
      | some maskver =>
          have hrun : m.load i s =
              m.loadBCU1 maskver i (m.deviceDescriptorRead (m.init s).2).2 := by
            rw [load, Download.bind_apply, Download.call, Checked.ok_bind, hok, htype]
            show (Download.call m.deviceDescriptorRead >>= _) (m.init s).2 = _
            rw [Download.bind_apply, Download.call, Checked.ok_bind, hread]
          rw [hrun, ← hdescr]
          exact loadBCU1_run hm hc maskver _

/-- The code of an image for a BCU 1 that `PrepareLoadImage` lets through. -/
theorem bcu1Code_of_prepareLoadImage {unset : Word16} {c : CArray} {i : BCUImage}
    (h : PrepareLoadImage unset c (.ok (.imageLoadable, some i))) (htype : i.bcuType = .bcu1) :
    BCU1Code i.code := by
  obtain ⟨o, hfrom, hr⟩ := h
  obtain ⟨img, rfl, hprepare⟩ := Checked.bind_eq_ok.mp hr.symm
  cases img with
  | none => cases hprepare
  | some img =>
      obtain ⟨l | l, hcheck, hprepare⟩ := Checked.bind_eq_ok.mp hprepare
      · cases hprepare
      obtain ⟨i', hi, heq⟩ := Checked.bind_eq_ok.mp hprepare
      cases heq
      have hl := checks_of_checkImage hcheck
      cases l with
      | bcu1 code =>
          obtain ⟨_, -, hi⟩ := Checked.bind_eq_ok.mp hi
          obtain ⟨_, hread, hi⟩ := Checked.bind_eq_ok.mp hi
          have hcode : 0x19 ≤ code.length := lt_of_readByte hread
          cases hi
          exact ⟨hcode, hl.2⟩
      | bcu2 bcuType code s1 s2 =>
          obtain ⟨_, -, hi⟩ := Checked.bind_eq_ok.mp hi
          obtain ⟨_, -, hi⟩ := Checked.bind_eq_ok.mp hi
          obtain ⟨_, -, hi⟩ := Checked.bind_eq_ok.mp hi
          obtain ⟨_, -, hi⟩ := Checked.bind_eq_ok.mp hi
          obtain ⟨_, -, hi⟩ := Checked.bind_eq_ok.mp hi
          cases hi
          exact absurd htype hl.bcu2

/-- A device whose connection breaks at any time in a download is as it was before, or its error
    flags are set, or it has got the whole program. -/
theorem loadImage_run (hm : StoresChunks m mem) {unset : Word16} {c : CArray} {i : BCUImage}
    (hprepare : PrepareLoadImage unset c (.ok (.imageLoadable, some i)))
    (htype : i.bcuType = .bcu1) (s : σ) :
    (∃ s', m.loadImage i s = .ok (.loaded, (m.restart s').2) ∧ IsLoaded i.code (mem s') ∧
      ∀ x, Untouched i.code x → mem s' x = mem s x) ∨
    ∃ r s', m.loadImage i s = .ok (r, s') ∧ r ≠ .loaded ∧ BrokenOff i.code (mem s) (mem s') := by
  have hc := bcu1Code_of_prepareLoadImage hprepare htype
  rcases load_run hm htype hc s with ⟨s', hrun, hmem⟩ | ⟨r, s', hrun, hr, hbroken⟩
  · refine .inl ⟨s', by rw [loadImage, hrun]; rfl, ?_, fun x hx => ?_⟩
    · rw [hmem]
      exact isLoaded_writeAll hc _
    · rw [hmem]
      exact writeAll_of_outside (bcu1_fits hc) (untouched_misses hc hx)
  · exact .inr ⟨r, s', by rw [loadImage, hrun]; rfl, hr, hbroken⟩

end ManagementConnection

end BcuSdk.Eibd
