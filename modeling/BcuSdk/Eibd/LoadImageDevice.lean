/-
  BcuSdk.Eibd.LoadImageDevice

  A download over a `Layer7_Connection`: the calls that `LoadImage` makes are
  those of layer7.cpp, and at the other end is a device whose connection may
  fail.

  `X_Memory_Write_Block` reads what is there, and reads back each block that it
  has written.  From a device that tells the truth or nothing, its result says
  which bytes have arrived: with 0 all of them, and otherwise some.
-/
import BcuSdk.Eibd.LoadImageDownload
import BcuSdk.Eibd.MemoryBlockWrite

namespace BcuSdk.Eibd

open BcuSdk.Lib BcuSdk.Common

/-! ## The calls -/

namespace Layer7Connection

variable {σ : Type} (d : Device σ) (unset : Byte × Byte)

/-- `Management_Connection` as `LoadImage` uses it; `opened` is what its `init` returns.  Something
    lies behind the arrays that `X_Memory_Write_Block` compares. -/
def managementConnection {behind : Behind} (hbehind : behind.Readable) (fresh : Nat → Byte)
    (opened : Bool) : ManagementConnection (Layer7Connection σ) where
  init l := (opened, l)
  deviceDescriptorRead := ask d unset maskverOf (.aDeviceDescriptorRead 0#8)
  memoryWriteBlock addr data l :=
    let r := total (l.xMemoryWriteBlock d unset behind fresh addr data)
      (xMemoryWriteBlock_returns d unset hbehind fresh l addr data)
    (r.1 = 0, r.2)
  authorize key := ask d unset levelOf (.aAuthorize key)
  keyWrite key level := ask d unset levelOf (.aKeyWrite key level)
  propertyWrite obj prop start count data :=
    ask d unset ergOf (.aPropertyWrite obj prop start count data)
  restart l := ((), l.aRestart d unset)

/-! ## Devices whose connection fails -/

/-- The device holds bytes, which only writes change.  Of a write it stores all bytes, some or none;
    to a read it answers with the bytes that are there, or not at all. -/
structure HoldsBytes (d : Device σ) (unset : Byte × Byte) (mem : σ → Memory 16) : Prop where
  read : ∀ s addr len sent result,
    (Layer7Call.aMemoryRead addr len).perform unset
        (d.answer s ((Layer7Call.aMemoryRead addr len).request.bytes unset)).2 =
      .ok (sent, result) →
    result = some (.erg (readBytes (mem s) addr (len &&& 0x0f#8).toNat)) ∨ result = none
  keeps : ∀ s addr len,
    mem (d.answer s ((Layer7Call.aMemoryRead addr len).request.bytes unset)).1 = mem s
  describes : ∀ s type,
    mem (d.answer s ((Layer7Call.aDeviceDescriptorRead type).request.bytes unset)).1 = mem s
  write : ∀ s addr (data : CArray), data.length ≤ 15 →
    Partly (mem s)
      (mem (d.receive s ((APDU.aMemoryWrite (BitVec.ofNat 8 data.length) addr data).bytes unset)))
      ⟨addr, data⟩

variable {d unset} {mem : σ → Memory 16} {behind : Behind} {addr : MemAddr} {data prev : CArray}
  {l : Layer7Connection σ}

theorem HoldsBytes.readsFrom (h : HoldsBytes d unset mem) (m : Memory 16) :
    ReadsFrom d unset m (fun s => mem s = m) True where
  answers s addr len sent result hm hperform := by
    rw [← hm]
    exact (h.read s addr len sent result hperform).imp_right fun hnone => ⟨trivial, hnone⟩
  keeps s addr len hm := (h.keeps s addr len).trans hm

/-- `X_Memory_Write` stores a part of its block, and all of it unless it reports a failure. -/
theorem HoldsBytes.xMemoryWrite_spec (h : HoldsBytes d unset mem) (l : Layer7Connection σ)
    (addr : MemAddr) {data : CArray} (hlen : data.length ≤ 12)
    (hfit : addr.toNat + data.length ≤ 2 ^ 16) :
    ∃ l' k, l.xMemoryWrite d unset addr data = .ok (l', k) ∧
      Partly (mem l.device) (mem l'.device) ⟨addr, data⟩ ∧
      (k ≠ -1 → k ≠ -2 → mem l'.device = writeBytes (mem l.device) addr data) := by
  have hpartly := h.write l.device addr data (by omega)
  have hwrite := aMemoryWrite_eq d unset l addr (show data.length ≤ 15 by omega)
  rw [xMemoryWrite, hwrite, Checked.ok_bind]
  generalize d.receive l.device
    ((APDU.aMemoryWrite (BitVec.ofNat 8 data.length) addr data).bytes unset) = s₁ at hpartly ⊢
  obtain ⟨l₂, e, hread, hmem₂, result, -, he⟩ := (h.readsFrom (mem s₁)).aMemoryRead_cases
    (l := { device := s₁, services := l.services ++ [.send (.aMemoryWrite _ addr data)] }) rfl addr
    hlen
  rw [hread, Checked.ok_bind]
  rcases he with rfl | ⟨-, rfl, -⟩
  · refine ⟨l₂, _, rfl, by rwa [hmem₂], fun _ hright => ?_⟩
    have hback : readBytes (mem s₁) addr data.length = data := by
      by_contra hne
      exact hright (if_pos hne)
    rw [hmem₂]
    exact hpartly.eq_writeChunk hfit hback
  · exact ⟨l₂, -1, rfl, by rwa [hmem₂], fun hk => absurd rfl hk⟩

/-- The outer loop of `X_Memory_Write_Block` from any of its passes: a part of the bytes up to `i`
    has been stored, and all of them if no block has been found wrong. -/
theorem HoldsBytes.writeBlocks_spec (h : HoldsBytes d unset mem) (hbehind : behind.Readable)
    {m : Memory 16} (hfit : addr.toNat + data.length ≤ 2 ^ 16)
    (hprev : prev = readBytes m addr data.length) {i : Nat} (hi : i ≤ data.length) {res : Int}
    (hpartly : Partly m (mem l.device) ⟨addr, data.take i⟩)
    (hstored : res = 0 → mem l.device = writeBytes m addr (data.take i)) :
    ∃ l' k, l.writeBlocks d unset behind addr data prev i res = .ok (l', k) ∧
      Partly m (mem l'.device) ⟨addr, data⟩ ∧
      (k = 0 → mem l'.device = writeBytes m addr data) := by
  have hlen : prev.length = data.length := by rw [hprev, length_readBytes]
  induction hn : data.length - i using Nat.strong_induction_on generalizing i l res with
  | _ n ih =>
      rcases Nat.lt_or_eq_of_le hi with hlt | rfl
      · obtain ⟨a, b, ha, hb⟩ := fetch_both behind hlen (.inl hlt)
        by_cases hab : a = b
        · -- the byte is the one that was there before
          subst hab
          have hthere : m (addr + BitVec.ofNat 16 i) = data[i] := by
            have hin : i < prev.length := by omega
            have ha' := Except.ok.inj ((fetch_of_lt hlt).symm.trans ha)
            have hb' := Except.ok.inj ((fetch_of_lt hin).symm.trans hb)
            subst hprev
            rw [ha', ← hb', getElem_readBytes]
          have hsame : writeBytes m addr (data.take (i + 1)) = writeBytes m addr (data.take i) :=
            writeBytes_take_succ hfit hlt hthere
          rw [writeBlocks_skip hlt ha hb]
          refine ih (data.length - (i + 1)) (by omega) hlt (fun x => ?_) (fun hres => ?_) rfl
          · rw [writeChunk, hsame]
            exact hpartly x
          · rw [hsame]
            exact hstored hres
        · -- a block of `j` bytes goes out, and is read back
          obtain ⟨j, hj, hin⟩ : ∃ j, scan behind data prev i 0 12 = .ok j ∧ i + j ≤ data.length :=
            scan_returns hlen (.inl hbehind) (.inl (by omega))
          have hpos := pos_of_scan hlt ha hb hab hj
          have hle := (le_of_scan hj).2
          have hfirst : (data.take i).length = i := by
            rw [List.length_take]
            omega
          have hblock : ((data.drop i).take j).length = j := by
            rw [List.length_take, List.length_drop]
            omega
          have haddr : (addr + BitVec.ofNat 16 i).toNat = addr.toNat + i := by
            rw [BitVec.toNat_add, BitVec.toNat_ofNat, Nat.mod_eq_of_lt (by omega : i < 2 ^ 16),
              Nat.mod_eq_of_lt (by omega)]
          have htake : data.take (i + j) = data.take i ++ (data.drop i).take j := List.take_add ..
          obtain ⟨l₁, k, hwrite, hpartly₁, hstored₁⟩ := h.xMemoryWrite_spec l
            (addr + BitVec.ofNat 16 i) (show ((data.drop i).take j).length ≤ 12 by omega) (by omega)
          have hnext : Partly m (mem l₁.device) ⟨addr, data.take (i + j)⟩ := by
            rw [htake]
            exact hpartly.append (by rwa [hfirst]) (by omega)
          rw [writeBlocks_write hlt ha hb hab hj, hwrite, Checked.ok_bind]
          dsimp only
          by_cases hbroken : k = -1
          · rw [if_pos hbroken]
            refine ⟨l₁, -1, rfl, ?_, fun hk => absurd hk (by decide)⟩
            have hrest := hnext.append (.refl _ ⟨_, data.drop (i + j)⟩) (by
              rw [← List.length_append, List.take_append_drop]
              omega)
            rwa [List.take_append_drop] at hrest
          · rw [if_neg hbroken]
            refine ih (data.length - (i + j)) (by omega) hin hnext (fun hres => ?_) rfl
            -- a block that is found wrong makes the result -2 for good
            by_cases hwrong : k = -2
            · rw [if_pos hwrong] at hres
              exact absurd hres (by decide)
            · rw [if_neg hwrong] at hres
              rw [hstored₁ hbroken hwrong, hstored hres]
              exact writeBytes_take_add hfit hin
      · refine ⟨l, res, writeBlocks_end (Nat.lt_irrefl _), ?_, fun hk => ?_⟩
        · rwa [List.take_length] at hpartly
        · rw [hstored hk, List.take_length]

/-- `X_Memory_Write_Block` stores a part of the bytes, and all of them when it returns 0. -/
theorem HoldsBytes.xMemoryWriteBlock_spec (h : HoldsBytes d unset mem) (hbehind : behind.Readable)
    (fresh : Nat → Byte) (l : Layer7Connection σ) (hfit : addr.toNat + data.length ≤ 2 ^ 16) :
    ∃ l' k, l.xMemoryWriteBlock d unset behind fresh addr data = .ok (l', k) ∧
      Partly (mem l.device) (mem l'.device) ⟨addr, data⟩ ∧
      (k = 0 → mem l'.device = writeBytes (mem l.device) addr data) := by
  obtain ⟨l₁, prev, -, hread, hprev, hsame, -⟩ :=
    (h.readsFrom (mem l.device)).xMemoryReadBlock_spec fresh (l := l) rfl addr data.length
  rw [xMemoryWriteBlock, hread, Checked.ok_bind]
  rcases hprev with rfl | ⟨-, rfl, -⟩
  · refine h.writeBlocks_spec hbehind hfit rfl (Nat.zero_le _) ?_ fun _ => ?_
    · rw [hsame]
      exact .refl _ _
    · rw [hsame, List.take_zero, writeBytes_nil]
  · exact ⟨l₁, -1, rfl, by rw [hsame]; exact .refl _ _, fun hk => absurd hk (by decide)⟩

/-! ## The download -/

variable {hbehind : behind.Readable} {fresh : Nat → Byte} {opened : Bool}

/-- `memoryWriteBlock` is `X_Memory_Write_Block`, with what it has stored. -/
theorem HoldsBytes.memoryWriteBlock_spec (h : HoldsBytes d unset mem) (l : Layer7Connection σ)
    (hfit : addr.toNat + data.length ≤ 2 ^ 16) :
    let r := (managementConnection d unset hbehind fresh opened).memoryWriteBlock addr data l
    Partly (mem l.device) (mem r.2.device) ⟨addr, data⟩ ∧
      (r.1 = true → mem r.2.device = writeBytes (mem l.device) addr data) := by
  obtain ⟨l', k, hrun, hpartly, hstored⟩ := h.xMemoryWriteBlock_spec hbehind fresh l hfit
  have hcall : (managementConnection d unset hbehind fresh opened).memoryWriteBlock addr data l =
      (decide (k = 0), l') := by
    dsimp only [managementConnection]
    rw [total_of_ok hrun]
  rw [hcall]
  exact ⟨hpartly, fun hk => hstored (of_decide_eq_true hk)⟩

/-- A connection to such a device keeps what the download needs. -/
theorem HoldsBytes.storesChunks (h : HoldsBytes d unset mem) :
    StoresChunks (managementConnection d unset hbehind fresh opened) fun l => mem l.device where
  init _ := rfl
  deviceDescriptorRead l := by
    obtain ⟨sent, result, -, hask⟩ := ask_eq d unset maskverOf (.aDeviceDescriptorRead 0#8) l
    show mem (ask d unset maskverOf (.aDeviceDescriptorRead 0#8) l).2.device = _
    rw [hask]
    exact h.describes l.device 0#8
  written _ _ l hfits hdone := (h.memoryWriteBlock_spec l hfits).2 hdone
  broken _ _ l hfits _ := (h.memoryWriteBlock_spec l hfits).1

/-- A BCU 1 that falls silent at any time in a download, or stores a write only in part, is as it
    was before, or its error flags are set, or it has got the whole program. -/
theorem loadImage_leaves (h : HoldsBytes d unset mem) (hbehind : behind.Readable)
    (fresh : Nat → Byte) (opened : Bool) {noaddr : Word16} {c : CArray} {i : BCUImage}
    (hprepare : PrepareLoadImage noaddr c (.ok (.imageLoadable, some i)))
    (htype : i.bcuType = .bcu1) (l : Layer7Connection σ) :
    let m := managementConnection d unset hbehind fresh opened
    (∃ l', m.loadImage i l = .ok (.loaded, (m.restart l').2) ∧ IsLoaded i.code (mem l'.device) ∧
      ∀ x, Untouched i.code x → mem l'.device x = mem l.device x) ∨
    ∃ r l', m.loadImage i l = .ok (r, l') ∧ r ≠ .loaded ∧
      BrokenOff i.code (mem l.device) (mem l'.device) :=
  ManagementConnection.loadImage_run h.storesChunks hprepare htype l

/-- A BCU 1 that falls silent.  Its state are the packets until then and its memory. -/
def silentDevice : Device (Nat × Memory 16) where
  answer s sent :=
    match s.1, APDU.fromPacket sent with
    | n + 1, .aMemoryRead count addr => ((n, s.2), some (memoryResponse s.2 addr count))
    | n + 1, .aDeviceDescriptorRead type =>
        ((n, s.2), some [0x03#8, 0x40#8 ||| type, 0x00#8, 0x12#8])
    | n, _ => ((n - 1, s.2), none)
  receive s sent :=
    match s.1, APDU.fromPacket sent with
    | n + 1, .aMemoryWrite _ addr data => (n, writeBytes s.2 addr data)
    | n, _ => (n - 1, s.2)

theorem silentDevice_holdsBytes : HoldsBytes silentDevice unset Prod.snd where
  read s addr len sent result hperform := by
    obtain ⟨sent', hright⟩ := perform_aMemoryRead unset (fromPacket_memoryResponse s.2 addr len)
    obtain ⟨_ | n, m⟩ := s
    · simp only [silentDevice, Layer7Call.perform_none] at hperform
      cases hperform
      exact .inr rfl
    · simp only [silentDevice, fromPacket_aMemoryRead, hright] at hperform
      cases hperform
      exact .inl rfl
  keeps s addr len := by
    obtain ⟨_ | n, m⟩ := s <;> simp only [silentDevice, fromPacket_aMemoryRead]
  describes s type := by
    have hrequest : APDU.fromPacket ((Layer7Call.aDeviceDescriptorRead type).request.bytes unset) =
        .aDeviceDescriptorRead (type &&& 0x3f#8) :=
      APDU.fromPacket_bytes (Layer7Call.request_asserts _) trivial trivial trivial
    obtain ⟨_ | n, m⟩ := s <;> simp only [silentDevice, hrequest]
  write s addr data hlen := by
    have hback := fromPacket_aMemoryWrite unset addr hlen
    obtain ⟨_ | n, m⟩ := s <;> simp only [silentDevice, hback]
    · exact .refl m _
    · exact fun x => .inr rfl

/-- The shortest image, and a device that falls silent in the main part. -/
theorem loadImage_leaves_silent :
    let code : CArray := List.replicate 0x19 9#8
    let l : Layer7Connection (Nat × Memory 16) := { device := (18, fun _ => 0x55#8) }
    let m := managementConnection silentDevice (0#8, 0#8)
      (show Behind.Readable ⟨some 0#8, some 0#8⟩ by decide) (fun _ => 0#8) true
    (∃ l', m.loadImage ⟨.bcu1, code, [], 0x0909#16, 0#32, []⟩ l =
        .ok (.loaded, (m.restart l').2) ∧ IsLoaded code l'.device.2 ∧
      ∀ x, Untouched code x → l'.device.2 x = l.device.2 x) ∨
    ∃ r l', m.loadImage ⟨.bcu1, code, [], 0x0909#16, 0#32, []⟩ l = .ok (r, l') ∧ r ≠ .loaded ∧
      BrokenOff code l.device.2 l'.device.2 := by
  intro code l m
  have haccepts : Accepts (Image.array ⟨[.bcuType ⟨0x0012#16⟩,
      .bcu1Size ⟨0x0019#16, 0#16, 0#16, 0#16⟩, .code ⟨code⟩]⟩) (.bcu1 code) :=
    ⟨_, Image.fromArray_array (by simp [STRStream.InRange, code]) (by decide), by decide⟩
  exact loadImage_leaves silentDevice_holdsBytes (by decide) (fun _ => 0#8) true
    (i := ⟨.bcu1, code, [], 0x0909#16, 0#32, []⟩)
    ((prepareLoadImage_iff haccepts 0#16 _).mpr rfl) rfl l

end Layer7Connection

end BcuSdk.Eibd
