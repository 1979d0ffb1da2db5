/-
  BcuSdk.Eibd.LoadImageSafety

  What a client can do with an image it submits.

  The decoder comes to an end for whatever a message holds.  The download
  reads the code at places that the image names; `PrepareLoadImage` checks
  some of them, and the exact conditions under which all of the copies stay
  inside of the code are derived here.
-/
import BcuSdk.Common.ImageSafety
import BcuSdk.Eibd.ManagementClient

namespace BcuSdk.Eibd

open BcuSdk.Lib BcuSdk.Common

/-! ## Decoding -/

/-- Whatever a client submits, the position of the stream loop moves forward and stays inside of
    the array, and the decoder comes to an end. -/
theorem Message.fromArray_terminates (m : Message) :
    (∀ pos pos' stream, Image.nextStream m.image pos = .ok (some (stream, pos')) →
      pos.toNat < pos'.toNat ∧ pos'.toNat ≤ m.image.length) ∧
    (∀ decode, ∃ r, Image.loop decode m.image (m.image.length + 1) 10#16 = some r) ∧
    ∃ r, Image.FromArray m.image r := by
  have hlen : m.image.length ≤ 65535 := by
    have hmax := m.max
    rw [Message.image, List.length_drop]
    omega
  exact ⟨fun _ _ _ h => Image.nextStream_progress hlen h,
    fun decode => Image.loop_terminates decode hlen (by omega), Image.fromArray_ends hlen⟩

/-! ## Parts of a download -/

namespace Download

variable {σ α β : Type}

/-- The part does not fault, whatever state the device is in. -/
def Safe (x : Download σ α) : Prop := ∀ s, Checked.Returns (x s)

theorem bind_apply (x : Download σ α) (f : α → Download σ β) (s : σ) :
    (x >>= f) s = (x s : Checked (Except BCULoadResult α × σ)) >>= fun p =>
      match p.1 with
      | .ok a => f a p.2
      | .error r => .ok (.error r, p.2) := by
  show ((x s : Checked (Except BCULoadResult α × σ)) >>= fun p => ExceptT.bindCont f p.1 p.2) = _
  congr 1
  funext p
  cases p.1 <;> rfl

theorem safe_pure (a : α) : Safe (pure a : Download σ α) := fun s => ⟨(.ok a, s), rfl⟩

theorem safe_throw (r : BCULoadResult) : Safe (throw r : Download σ α) :=
  fun s => ⟨(.error r, s), rfl⟩

theorem safe_call (f : σ → α × σ) : Safe (call f) := fun s => ⟨(.ok (f s).1, (f s).2), rfl⟩

theorem safe_copy {x : Checked α} (h : x.Returns) : Safe (copy x : Download σ α) := by
  obtain ⟨a, rfl⟩ := h
  exact fun s => ⟨(.ok a, s), rfl⟩

theorem safe_bind {x : Download σ α} {f : α → Download σ β} (hx : Safe x)
    (hf : ∀ a, Safe (f a)) : Safe (x >>= f) := by
  intro s
  obtain ⟨⟨r, s'⟩, hr⟩ := hx s
  rw [bind_apply, hr, Checked.ok_bind]
  cases r with
  | ok a => exact hf a s'
  | error r => exact ⟨_, rfl⟩

theorem safe_forM {l : List β} {f : β → Download σ PUnit} (h : ∀ b ∈ l, Safe (f b)) :
    Safe (l.forM f) := by
  induction l with
  | nil => exact safe_pure _
  | cons b l ih =>
      show Safe (f b >>= fun _ => l.forM f)
      exact safe_bind (h b List.mem_cons_self) fun _ =>
        ih fun b hb => h b (List.mem_cons_of_mem _ hb)

theorem safe_guard {p : Prop} [Decidable p] {r : BCULoadResult} {x : Download σ α}
    (hx : ¬ p → Safe x) : Safe (if p then throw r else x) := by
  by_cases hp : p
  · rw [if_pos hp]
    exact safe_throw r
  · rw [if_neg hp]
    exact hx hp

theorem safe_exit {p : Prop} [Decidable p] {a : α} {x : Download σ α} (hx : ¬ p → Safe x) :
    Safe (if p then pure a else x) := by
  by_cases hp : p
  · rw [if_pos hp]
    exact safe_pure a
  · rw [if_neg hp]
    exact hx hp

end Download

/-! ## The copies out of the code -/

open ManagementConnection

/-- The reads of the image that a download makes if the device lets it get to its end. -/
def Copies (i : BCUImage) : Prop :=
  match i.bcuType with
  | .bcu1 =>
      (readSlice i.code 0x03 10).Returns ∧ (readSlice i.code 0x0e 8).Returns ∧
        (readSlice i.code 0x19 (BitVec.ofNat 32 i.code.length - 0x19#32).toNat).Returns ∧
        (readSlice i.code 0x00 1).Returns ∧ (readSlice i.code 0x16 1).Returns
  | _ => ∀ e ∈ i.load, e.memaddr ≠ 0xffff#16 → (codeAt i.code e.memaddr e.len).Returns

namespace ManagementConnection

section AnyDevice

variable {σ : Type} (m : ManagementConnection σ)

theorem safe_writeBlock (r : BCULoadResult) (addr : Word16) (data : CArray) :
    (m.writeBlock r addr data).Safe := by
  refine Download.safe_bind (Download.safe_call _) fun ok => ?_
  cases ok with
  | true => exact Download.safe_pure _
  | false => exact Download.safe_throw _

theorem safe_writeCode {code : CArray} {start len : Nat} (h : (readSlice code start len).Returns)
    (r : BCULoadResult) (addr : Word16) : (m.writeCode r addr code start len).Safe :=
  Download.safe_bind (Download.safe_copy h) fun _ => m.safe_writeBlock _ _ _

theorem safe_writeKey {keys : List Word32} {j : Nat} (h : j < keys.length) :
    (m.writeKey keys j).Safe := by
  refine Download.safe_bind (Download.safe_copy ?_) fun key => ?_
  · rw [List.getElem?_eq_getElem h]
    exact ⟨_, rfl⟩
  refine Download.safe_bind (Download.safe_call _) fun level => ?_
  cases level with
  | none => exact Download.safe_throw _
  | some level => exact Download.safe_guard fun _ => Download.safe_pure _

theorem safe_loadProperty (e : EIBLoadRequest) : (m.loadProperty e).Safe := by
  refine Download.safe_exit fun _ => ?_
  refine Download.safe_bind (Download.safe_call _) fun erg => ?_
  cases erg with
  | none => exact Download.safe_throw _
  | some erg => exact Download.safe_guard fun _ => Download.safe_pure _

theorem safe_loadRequest {code : CArray} {e : EIBLoadRequest}
    (h : e.memaddr ≠ 0xffff#16 → (codeAt code e.memaddr e.len).Returns) :
    (m.loadRequest code e).Safe := by
  refine Download.safe_bind (m.safe_loadProperty e) fun _ => ?_
  refine Download.safe_exit fun hmem => ?_
  exact Download.safe_bind (Download.safe_copy (h hmem)) fun _ => m.safe_writeBlock _ _ _

theorem safe_loadBCU2 {i : BCUImage} (hkeys : i.keys.length = 3)
    (hload : ∀ e ∈ i.load, e.memaddr ≠ 0xffff#16 → (codeAt i.code e.memaddr e.len).Returns)
    (expected maskver : Word16) : (m.loadBCU2 expected maskver i).Safe := by
  refine Download.safe_guard fun _ => ?_
  refine Download.safe_bind (Download.safe_call _) fun level => ?_
  cases level with
  | none => exact Download.safe_throw _
  | some level =>
      refine Download.safe_guard fun _ => ?_
      refine Download.safe_bind (Download.safe_forM fun j hj => ?_) fun _ => ?_
      · have hlt : j < 3 := by
          simp at hj
          omega
        exact m.safe_writeKey (by omega)
      refine Download.safe_bind (Download.safe_forM fun e he => ?_) fun _ => ?_
      · exact m.safe_loadRequest (hload e he)
      · exact Download.safe_call _

theorem safe_loadBCU1 {i : BCUImage} (h03 : (readSlice i.code 0x03 10).Returns)
    (h0e : (readSlice i.code 0x0e 8).Returns)
    (h19 : (readSlice i.code 0x19 (BitVec.ofNat 32 i.code.length - 0x19#32).toNat).Returns)
    (h00 : (readSlice i.code 0x00 1).Returns) (h16 : (readSlice i.code 0x16 1).Returns)
    (maskver : Word16) : (m.loadBCU1 maskver i).Safe := by
  refine Download.safe_guard fun _ => ?_
  refine Download.safe_bind (m.safe_writeBlock _ _ _) fun _ => ?_
  refine Download.safe_bind (m.safe_writeBlock _ _ _) fun _ => ?_
  refine Download.safe_bind (m.safe_writeBlock _ _ _) fun _ => ?_
  refine Download.safe_bind (m.safe_writeCode h03 _ _) fun _ => ?_
  refine Download.safe_bind (m.safe_writeCode h0e _ _) fun _ => ?_
  refine Download.safe_bind (m.safe_writeCode h19 _ _) fun _ => ?_
  refine Download.safe_bind (m.safe_writeCode h00 _ _) fun _ => ?_
  refine Download.safe_bind (m.safe_writeBlock _ _ _) fun _ => ?_
  refine Download.safe_bind (m.safe_writeCode h16 _ _) fun _ => ?_
  refine Download.safe_bind (m.safe_writeBlock _ _ _) fun _ => ?_
  exact Download.safe_call _

/-- No device can make the download read anything else. -/
theorem loadImage_returns {i : BCUImage} (hkeys : i.bcuType ≠ .bcu1 → i.keys.length = 3)
    (h : Copies i) (s : σ) : (m.loadImage i s).Returns := by
  have hsafe : (m.load i).Safe := by
    refine Download.safe_bind (Download.safe_call _) fun ok => ?_
    cases ok with
    | false => exact Download.safe_throw _
    | true =>
        refine Download.safe_bind (Download.safe_call _) fun maskver => ?_
        cases maskver with
        | none => exact Download.safe_throw _
        | some maskver =>
            rw [Copies] at h
            dsimp only
            -- the two versions of BCU 2 differ in the mask version only
            cases htype : i.bcuType with
            | bcu1 =>
                rw [htype] at h
                obtain ⟨h03, h0e, h19, h00, h16⟩ := h
                exact m.safe_loadBCU1 h03 h0e h19 h00 h16 maskver
            | bcu20 =>
                rw [htype] at h
                exact m.safe_loadBCU2 (hkeys (by rw [htype]; nofun)) h _ maskver
            | bcu21 =>
                rw [htype] at h
                exact m.safe_loadBCU2 (hkeys (by rw [htype]; nofun)) h _ maskver
  obtain ⟨⟨r, s'⟩, hr⟩ := hsafe s
  rw [loadImage, hr, Checked.ok_bind]
  cases r with
  | ok _ => exact ⟨_, rfl⟩
  | error r => exact ⟨_, rfl⟩

end AnyDevice

/-- A device with the mask version `maskver` that complies with everything.  Its state are its
    answers to the property writes to come. -/
def obliging (maskver : Word16) : ManagementConnection (List CArray) where
  init s := (true, s)
  deviceDescriptorRead s := (some maskver, s)
  memoryWriteBlock _ _ s := (true, s)
  authorize _ s := (some 0#8, s)
  keyWrite _ level s := (some level, s)
  propertyWrite _ _ _ _ _ s := (s.head?, s.tail)
  restart s := ((), s)

section Obliging

variable {maskver : Word16} {α : Type} {f : Unit → Download (List CArray) α} {s : List CArray}

theorem obliging_writeBlock (r : BCULoadResult) (addr : Word16) (data : CArray) :
    ((obliging maskver).writeBlock r addr data >>= f) s = f () s := by
  rw [Download.bind_apply]
  rfl

theorem obliging_restart : Download.call (obliging maskver).restart s = .ok (.ok (), s) := by
  rw [Download.call]
  rfl

theorem obliging_writeCode (r : BCULoadResult) (addr : Word16) (code : CArray) (start len : Nat) :
    ((obliging maskver).writeCode r addr code start len >>= f) s =
      readSlice code start len >>= fun _ => f () s := by
  rw [writeCode]
  cases readSlice code start len <;> rfl

theorem obliging_loadBCU1 (i : BCUImage) :
    (obliging maskver).loadBCU1 0x0012#16 i s =
      (readSlice i.code 0x03 10 >>= fun _ => readSlice i.code 0x0e 8 >>= fun _ =>
        readSlice i.code 0x19 (BitVec.ofNat 32 i.code.length - 0x19#32).toNat >>= fun _ =>
        readSlice i.code 0x00 1 >>= fun _ => readSlice i.code 0x16 1 >>= fun _ =>
        .ok (.ok (), s)) := by
  rw [loadBCU1, if_neg (not_not.mpr rfl)]
  simp only [obliging_writeBlock, obliging_writeCode, obliging_restart]

theorem obliging_load (i : BCUImage) :
    (obliging maskver).load i s =
      (match i.bcuType with
      | .bcu1 => (obliging maskver).loadBCU1 maskver i
      | .bcu20 => (obliging maskver).loadBCU2 0x0020#16 maskver i
      | .bcu21 => (obliging maskver).loadBCU2 0x0021#16 maskver i : Download _ _) s := by
  rw [load, Download.bind_apply]
  rfl

end Obliging

/-- The property writes that a list of load requests waits for. -/
def answers (load : List EIBLoadRequest) : List CArray :=
  (load.filter fun e => e.obj ≠ 0xff#8).map (·.result)

/-- The obliging device answers what the first request waits for. -/
theorem obliging_loadProperty {maskver : Word16} (e : EIBLoadRequest) (load : List EIBLoadRequest) :
    (obliging maskver).loadProperty e (answers (e :: load)) = .ok (.ok (), answers load) := by
  by_cases hobj : e.obj = 0xff#8
  · rw [loadProperty, if_pos hobj, answers, List.filter_cons_of_neg (by simpa using hobj)]
    rfl
  · have hhead : answers (e :: load) = e.result :: answers load := by
      rw [answers, List.filter_cons_of_pos (by simpa using hobj)]
      rfl
    rw [loadProperty, if_neg hobj, hhead, Download.bind_apply]
    show (if e.result ≠ e.result then throw e.error else pure () : Download _ _) (answers load) = _
    rw [if_neg (not_not.mpr rfl)]
    rfl

/-- A round on the obliging device, and what follows it. -/
theorem obliging_loadRequest {maskver : Word16} {code : CArray} (e : EIBLoadRequest)
    (load : List EIBLoadRequest) (f : Unit → Download (List CArray) Unit) :
    ((obliging maskver).loadRequest code e >>= f) (answers (e :: load)) =
      if e.memaddr = 0xffff#16 then f () (answers load)
      else codeAt code e.memaddr e.len >>= fun _ => f () (answers load) := by
  have hrequest : (obliging maskver).loadRequest code e (answers (e :: load)) =
      (obliging maskver).loadMemory code e (answers load) := by
    rw [loadRequest, Download.bind_apply, obliging_loadProperty]
    rfl
  rw [Download.bind_apply, hrequest, loadMemory]
  split
  · rfl
  · cases codeAt code e.memaddr e.len <;> rfl

/-- The rounds that are made read what their requests name. -/
theorem copies_of_loadRequests {maskver : Word16} {code : CArray} {load : List EIBLoadRequest}
    {f : Unit → Download (List CArray) Unit}
    (h : Checked.Returns
      ((load.forM ((obliging maskver).loadRequest code) >>= f) (answers load))) :
    ∀ e ∈ load, e.memaddr ≠ 0xffff#16 → (codeAt code e.memaddr e.len).Returns := by
  induction load with
  | nil => exact fun e he => absurd he List.not_mem_nil
  | cons e load ih =>
      -- the first round in front of the others
      have hround : Checked.Returns (((obliging maskver).loadRequest code e >>= fun _ =>
          load.forM ((obliging maskver).loadRequest code) >>= f) (answers (e :: load))) := by
        rw [← bind_assoc]
        exact h
      rw [obliging_loadRequest] at hround
      intro e' he' hmem
      by_cases hskip : e.memaddr = 0xffff#16
      · rw [if_pos hskip] at hround
        obtain rfl | he' := List.mem_cons.mp he'
        · exact absurd hskip hmem
        · exact ih hround e' he' hmem
      · rw [if_neg hskip, Checked.returns_bind] at hround
        obtain ⟨part, hpart, hround⟩ := hround
        obtain rfl | he' := List.mem_cons.mp he'
        · exact ⟨part, hpart⟩
        · exact ih hround e' he' hmem

theorem obliging_writeKey {maskver : Word16} {keys : List Word32} {j : Nat} (hj : j < 256)
    (hkey : j < keys.length) (s : List CArray) (f : Unit → Download (List CArray) Unit) :
    ((obliging maskver).writeKey keys j >>= f) s = f () s := by
  have hlevel : (BitVec.ofNat 8 j).toNat = j := by
    rw [BitVec.toNat_ofNat]
    exact Nat.mod_eq_of_lt hj
  have hwrite : (obliging maskver).writeKey keys j s =
      (if j ≠ (BitVec.ofNat 8 j).toNat then throw .keyWrite else pure () : Download _ _) s := by
    rw [writeKey, List.getElem?_eq_getElem hkey]
    rfl
  rw [Download.bind_apply, hwrite, if_neg (not_not.mpr hlevel.symm)]
  rfl

theorem obliging_loadBCU2 {maskver : Word16} {i : BCUImage} (hkeys : i.keys.length = 3)
    (s : List CArray) :
    (obliging maskver).loadBCU2 maskver maskver i s =
      (i.load.forM ((obliging maskver).loadRequest i.code) >>= fun _ =>
        .call (obliging maskver).restart) s := by
  have hkey : ∀ j < 3, ∀ f : Unit → Download (List CArray) Unit,
      ((obliging maskver).writeKey i.keys j >>= f) s = f () s :=
    fun j hj f => obliging_writeKey (by omega) (by omega) s f
  rw [loadBCU2, if_neg (not_not.mpr rfl)]
  show (((obliging maskver).writeKey i.keys 0 >>= fun _ => (obliging maskver).writeKey i.keys 1 >>=
    fun _ => (obliging maskver).writeKey i.keys 2 >>= fun _ => pure ()) >>= _) s = _
  rw [bind_assoc, hkey 0 (by omega), bind_assoc, hkey 1 (by omega), bind_assoc, hkey 2 (by omega)]
  rfl

/-- What the download to the obliging device reads. -/
theorem copies_of_loadImage {i : BCUImage} (hkeys : i.bcuType ≠ .bcu1 → i.keys.length = 3)
    (h : ∀ (σ : Type) (m : ManagementConnection σ) (s : σ), (m.loadImage i s).Returns) :
    Copies i := by
  have hload : ∀ maskver s, Checked.Returns ((obliging maskver).load i s) := by
    intro maskver s
    obtain ⟨r, hr, -⟩ := Checked.returns_bind.mp (h _ (obliging maskver) s)
    exact ⟨r, hr⟩
  rw [Copies]
  cases htype : i.bcuType with
  | bcu1 =>
      -- five blocks of the EEPROM, one behind the other
      have hrun := hload 0x0012#16 []
      rw [obliging_load, htype] at hrun
      dsimp only at hrun
      rw [obliging_loadBCU1] at hrun
      obtain ⟨_, h03, hrun⟩ := Checked.returns_bind.mp hrun
      obtain ⟨_, h0e, hrun⟩ := Checked.returns_bind.mp hrun
      obtain ⟨_, h19, hrun⟩ := Checked.returns_bind.mp hrun
      obtain ⟨_, h00, hrun⟩ := Checked.returns_bind.mp hrun
      obtain ⟨_, h16, -⟩ := Checked.returns_bind.mp hrun
      exact ⟨⟨_, h03⟩, ⟨_, h0e⟩, ⟨_, h19⟩, ⟨_, h00⟩, ⟨_, h16⟩⟩
  | bcu20 =>
      have hrun := hload 0x0020#16 (answers i.load)
      rw [obliging_load, htype] at hrun
      dsimp only at hrun
      rw [obliging_loadBCU2 (hkeys (by rw [htype]; nofun))] at hrun
      exact copies_of_loadRequests hrun
  | bcu21 =>
      have hrun := hload 0x0021#16 (answers i.load)
      rw [obliging_load, htype] at hrun
      dsimp only at hrun
      rw [obliging_loadBCU2 (hkeys (by rw [htype]; nofun))] at hrun
      exact copies_of_loadRequests hrun

end ManagementConnection

/-! ## What the checks of PrepareLoadImage give -/

/-- What holds of the streams of a BCU 2 once all checks are passed. -/
structure ChecksBCU2 (bcuType : BCUType) (code : CArray) (s1 : STRBCU2Start)
    (s2 : Option STRBCU2Key) : Prop where
  bcu2 : bcuType ≠ .bcu1
  atLeast : 0x18 ≤ code.length
  atMost : code.length ≤ 0x36f
  addrtabStart : s1.addrtabStart = 0x116#16
  addrtabSize : 4 ≤ s1.addrtabSize.toNat
  readonly : s1.readonlyStart.toNat ≤ s1.readonlyEnd.toNat
  eeprom : s1.eepromStart.toNat ≤ s1.eepromEnd.toNat
  param : s1.paramStart.toNat ≤ s1.paramEnd.toNat
  paramEnd : s1.paramEnd.toNat ≤ code.length + 0x100
  keys : ∀ key, s2 = some key → key.keys.length = 3

/-- What holds of the streams once all checks are passed. -/
def Checks : Loadable → Prop
  | .bcu1 code => 0x18 ≤ code.length ∧ code.length ≤ 0xfe
  | .bcu2 bcuType code s1 s2 => ChecksBCU2 bcuType code s1 s2

theorem checks_of_checkImage {img : Image} {l : Loadable} (h : checkImage img = .ok (.ok l)) :
    Checks l := by
  obtain ⟨c, hbcu1 | ⟨bcuType, htype, hbcu2⟩⟩ := passed_of_checkImage h
  · obtain ⟨rfl, hsize⟩ := passed_of_checkBCU1 hbcu1
    exact hsize
  · obtain ⟨s1, hpassed, rfl⟩ := passed_of_checkBCU2 hbcu2
    show ChecksBCU2 ..
    exact
      { bcu2 := htype
        atLeast := hpassed.atLeast
        atMost := hpassed.atMost
        addrtabStart := hpassed.addrtabStart
        addrtabSize := hpassed.addrtabSize
        readonly := hpassed.readonly
        eeprom := hpassed.eeprom
        param := hpassed.param
        paramEnd := hpassed.paramEnd
        keys := hpassed.keys }

/-! ## What the download needs -/

/-- `n` bytes from the memory address `start` on are inside of the code, which begins at 0x100. -/
def Inside (code : CArray) (start : Word16) (n : Nat) : Prop :=
  0x100 ≤ start.toNat ∧ start.toNat + n ≤ code.length + 0x100

/-- The ranges that are copied are inside of the code.  A start of 0xffff takes a segment out of
    the download; a read-only segment of one byte, an empty EEPROM segment and a parameter segment
    of at most one byte are left out. -/
def Fits : Loadable → Prop
  | .bcu1 code => 0x19 ≤ code.length
  | .bcu2 _ code s1 _ =>
      0x19 ≤ code.length ∧ s1.addrtabSize.toNat + 0x15 ≤ code.length ∧
        (s1.assoctabStart = 0xffff#16 ∨
          1 ≤ s1.assoctabSize.toNat ∧ Inside code s1.assoctabStart (s1.assoctabSize.toNat - 1)) ∧
        (s1.readonlyStart = 0xffff#16 ∨ s1.readonlyEnd.toNat = s1.readonlyStart.toNat + 1 ∨
          s1.readonlyStart.toNat < s1.readonlyEnd.toNat ∧
            Inside code s1.readonlyStart (s1.readonlyEnd.toNat - s1.readonlyStart.toNat - 1)) ∧
        (s1.eepromStart = 0xffff#16 ∨ s1.eepromStart = s1.eepromEnd ∨
          Inside code s1.eepromStart (s1.eepromEnd.toNat - s1.eepromStart.toNat)) ∧
        (s1.paramStart = 0xffff#16 ∨ s1.paramEnd.toNat ≤ s1.paramStart.toNat + 1 ∨
          0x100 ≤ s1.paramStart.toNat)

/-- The copies that a list of load requests makes. -/
def CopiesOf (code : CArray) (load : List EIBLoadRequest) : Prop :=
  ∀ e ∈ load, e.memaddr ≠ 0xffff#16 → (codeAt code e.memaddr e.len).Returns

theorem codeAt_returns {code : CArray} {memaddr len : Word16} :
    (codeAt code memaddr len).Returns ↔ Inside code memaddr len.toNat := by
  rw [codeAt, Inside]
  split
  · constructor
    · rintro ⟨_, h⟩
      cases h
    · omega
  · rw [readSlice]
    split
    · exact ⟨fun _ => by omega, fun _ => ⟨_, rfl⟩⟩
    · constructor
      · rintro ⟨_, h⟩
        cases h
      · omega

theorem copiesOf_append {code : CArray} {load load' : List EIBLoadRequest} :
    CopiesOf code (load ++ load') ↔ CopiesOf code load ∧ CopiesOf code load' :=
  List.forall_mem_append

theorem copiesOf_nil {code : CArray} : CopiesOf code [] := fun _ he => absurd he List.not_mem_nil

theorem copiesOf_cons {code : CArray} {e : EIBLoadRequest} {load : List EIBLoadRequest} :
    CopiesOf code (e :: load) ↔
      (e.memaddr = 0xffff#16 ∨ Inside code e.memaddr e.len.toNat) ∧ CopiesOf code load := by
  rw [CopiesOf, List.forall_mem_cons, codeAt_returns, ← or_iff_not_imp_left]
  rfl

theorem copiesOf_ite {code : CArray} {p : Prop} [Decidable p] {e : EIBLoadRequest} :
    CopiesOf code (if p then [e] else []) ↔
      (p → e.memaddr = 0xffff#16 ∨ Inside code e.memaddr e.len.toNat) := by
  by_cases hp : p
  · rw [if_pos hp, copiesOf_cons]
    simp [hp, copiesOf_nil]
  · rw [if_neg hp]
    simp [hp, copiesOf_nil]

theorem setTable_returns {code : CArray} (h : 0x18 ≤ code.length) (start : Word16) :
    (setTable code start).Returns := by
  rw [setTable, readByte_of_lt (by omega), Checked.ok_bind, readSlice_of_le (by omega)]
  exact ⟨_, rfl⟩

theorem copiesOf_addrRequests {code : CArray} {s1 : STRBCU2Start} {len : Word16}
    {load : List EIBLoadRequest} (hcode : 0x18 ≤ code.length)
    (hstart : s1.addrtabStart = 0x116#16) (hsize : 4 ≤ s1.addrtabSize.toNat)
    (h : addrRequests code s1 len = .ok load) :
    CopiesOf code load ↔ s1.addrtabSize.toNat + 0x15 ≤ code.length := by
  obtain ⟨req, -, h⟩ := Checked.bind_eq_ok.mp h
  cases h
  have hrest : (s1.addrtabSize - 4#16).toNat = s1.addrtabSize.toNat - 4 := by
    bv_omega
  simp only [copiesOf_cons, copiesOf_nil, hstart]
  simp [Inside, hrest]
  omega

theorem copiesOf_assocRequests {code : CArray} {s1 : STRBCU2Start} {len : Word16}
    {load : List EIBLoadRequest} (hlong : code.length ≤ 0x36f)
    (h : assocRequests code s1 len = .ok load) :
    CopiesOf code load ↔ s1.assoctabStart = 0xffff#16 ∨
      1 ≤ s1.assoctabSize.toNat ∧ Inside code s1.assoctabStart (s1.assoctabSize.toNat - 1) := by
  obtain ⟨req, -, h⟩ := Checked.bind_eq_ok.mp h
  cases h
  have hlen : Inside code s1.assoctabStart (s1.assoctabSize - 1#16).toNat ↔
      1 ≤ s1.assoctabSize.toNat ∧ Inside code s1.assoctabStart (s1.assoctabSize.toNat - 1) := by
    by_cases hsize : 1 ≤ s1.assoctabSize.toNat
    · have hrest : (s1.assoctabSize - 1#16).toNat = s1.assoctabSize.toNat - 1 := by
        bv_omega
      rw [hrest]
      simp [hsize]
    · -- a size of 0 wraps to a length that no code has
      have hwrap : (s1.assoctabSize - 1#16).toNat = 0xffff := by
        bv_omega
      rw [hwrap, Inside]
      omega
  simp only [copiesOf_cons, copiesOf_nil, hlen]
  simp

theorem addrRequests_returns {code : CArray} (h : 0x18 ≤ code.length) (s1 : STRBCU2Start)
    (len : Word16) : (addrRequests code s1 len).Returns := by
  obtain ⟨req, hreq⟩ := setTable_returns h s1.addrtabStart
  exact Checked.returns_bind.mpr ⟨req, hreq, ⟨_, rfl⟩⟩

theorem assocRequests_returns {code : CArray} (h : 0x18 ≤ code.length) (s1 : STRBCU2Start)
    (len : Word16) : (assocRequests code s1 len).Returns := by
  obtain ⟨req, hreq⟩ := setTable_returns h s1.assoctabStart
  exact Checked.returns_bind.mpr ⟨req, hreq, ⟨_, rfl⟩⟩

theorem progRequests_returns {code : CArray} (h : 0x18 ≤ code.length) (s1 : STRBCU2Start)
    (len : Word16) : (progRequests code s1 len).Returns := by
  obtain ⟨req, hreq⟩ := setTable_returns h s1.runaddr
  exact Checked.returns_bind.mpr ⟨req, hreq, ⟨_, rfl⟩⟩

theorem copiesOf_unloadRequests {code : CArray} {unset : Word16} :
    CopiesOf code (unloadRequests unset) := by
  simp [unloadRequests, copiesOf_cons, copiesOf_nil]

theorem readonly_copy_iff {code : CArray} {start stop : Word16} (hlong : code.length ≤ 0x36f)
    (hle : start.toNat ≤ stop.toNat) :
    (stop - start - 1#16 ≠ 0 →
      start = 0xffff#16 ∨ Inside code start (stop - start - 1#16).toNat) ↔
    start = 0xffff#16 ∨ stop.toNat = start.toNat + 1 ∨
      start.toNat < stop.toNat ∧ Inside code start (stop.toNat - start.toNat - 1) := by
  have hzero : stop - start - 1#16 = 0 ↔ stop.toNat = start.toNat + 1 := by
    bv_omega
  rw [ne_eq, hzero]
  by_cases hlt : start.toNat < stop.toNat
  · have hrest : (stop - start - 1#16).toNat = stop.toNat - start.toNat - 1 := by
      bv_omega
    rw [hrest]
    simp only [hlt, true_and]
    tauto
  · -- an empty segment wraps to a length that no code has
    have hwrap : (stop - start - 1#16).toNat = 0xffff := by
      bv_omega
    have hout : ¬ Inside code start 0xffff := by
      rw [Inside]
      omega
    rw [hwrap]
    simp only [hlt, hout, false_and, or_false]
    constructor
    · exact fun h => .inl (h (by omega))
    · rintro (h | h) _
      · exact h
      · omega

theorem eeprom_copy_iff {code : CArray} {start stop : Word16} (hle : start.toNat ≤ stop.toNat) :
    (stop - start ≠ 0 → start = 0xffff#16 ∨ Inside code start (stop - start).toNat) ↔
    start = 0xffff#16 ∨ start = stop ∨ Inside code start (stop.toNat - start.toNat) := by
  have hzero : stop - start = 0 ↔ start = stop := by
    bv_omega
  have hrest : (stop - start).toNat = stop.toNat - start.toNat := by
    bv_omega
  rw [ne_eq, hzero, hrest]
  tauto

theorem param_copy_iff {code : CArray} {start stop : Word16} (hle : start.toNat ≤ stop.toNat)
    (hend : stop.toNat ≤ code.length + 0x100) :
    ((stop - start).toNat > 1 → start = 0xffff#16 ∨ Inside code start (stop - start).toNat) ↔
    start = 0xffff#16 ∨ stop.toNat ≤ start.toNat + 1 ∨ 0x100 ≤ start.toNat := by
  have hrest : (stop - start).toNat = stop.toNat - start.toNat := by
    bv_omega
  have hinside : Inside code start (stop.toNat - start.toNat) ↔ 0x100 ≤ start.toNat := by
    rw [Inside]
    omega
  have hmore : stop.toNat - start.toNat > 1 ↔ ¬ stop.toNat ≤ start.toNat + 1 := by
    omega
  rw [hrest, hinside, hmore]
  tauto

theorem copiesOf_progRequests {bcuType : BCUType} {code : CArray} {s1 : STRBCU2Start}
    {s2 : Option STRBCU2Key} {len : Word16} {load : List EIBLoadRequest}
    (hl : ChecksBCU2 bcuType code s1 s2) (h : progRequests code s1 len = .ok load) :
    CopiesOf code load ↔
      (s1.readonlyStart = 0xffff#16 ∨ s1.readonlyEnd.toNat = s1.readonlyStart.toNat + 1 ∨
        s1.readonlyStart.toNat < s1.readonlyEnd.toNat ∧
          Inside code s1.readonlyStart (s1.readonlyEnd.toNat - s1.readonlyStart.toNat - 1)) ∧
      (s1.eepromStart = 0xffff#16 ∨ s1.eepromStart = s1.eepromEnd ∨
        Inside code s1.eepromStart (s1.eepromEnd.toNat - s1.eepromStart.toNat)) ∧
      (s1.paramStart = 0xffff#16 ∨ s1.paramEnd.toNat ≤ s1.paramStart.toNat + 1 ∨
        0x100 ≤ s1.paramStart.toNat) := by
  obtain ⟨req, -, h⟩ := Checked.bind_eq_ok.mp h
  cases h
  have hcode := hl.atLeast
  -- the first bytes of the EEPROM are always there
  have hinit : Inside code 0x100#16 1 := ⟨by decide, by show 0x100 + 1 ≤ _; omega⟩
  have hrest : Inside code 0x103#16 0x13 := ⟨by decide, by show 0x103 + 0x13 ≤ _; omega⟩
  simp only [copiesOf_append, copiesOf_cons, copiesOf_nil, copiesOf_ite,
    readonly_copy_iff hl.atMost hl.readonly, eeprom_copy_iff hl.eeprom,
    param_copy_iff hl.param hl.paramEnd]
  simp [hinit, hrest, and_assoc]

/-! ## PrepareLoadImage and LoadImage -/

theorem copies_bcu1 {i : BCUImage} (htype : i.bcuType = .bcu1) (hshort : 0x19 ≤ i.code.length)
    (hlong : i.code.length ≤ 0xfe) : Copies i := by
  have hwrap : (BitVec.ofNat 32 i.code.length).toNat = i.code.length := by
    rw [BitVec.toNat_ofNat]
    omega
  have hmain : (BitVec.ofNat 32 i.code.length - 0x19#32).toNat = i.code.length - 0x19 := by
    rw [BitVec.toNat_sub, hwrap]
    show (2 ^ 32 - 25 + i.code.length) % 2 ^ 32 = i.code.length - 25
    omega
  rw [Copies, htype]
  refine ⟨⟨_, readSlice_of_le (by omega)⟩, ⟨_, readSlice_of_le (by omega)⟩, ?_,
    ⟨_, readSlice_of_le (by omega)⟩, ⟨_, readSlice_of_le (by omega)⟩⟩
  rw [hmain]
  exact ⟨_, readSlice_of_le (by omega)⟩

/-- The streams of a BCU 2 image become a `BCUImage` with the requests for its three tables. -/
theorem toBCUImage_bcu2 {bcuType : BCUType} {code : CArray} {s1 : STRBCU2Start}
    {s2 : Option STRBCU2Key} {unset : Word16} {i : BCUImage} (htype : bcuType ≠ .bcu1)
    (h : (Loadable.bcu2 bcuType code s1 s2).toBCUImage unset = .ok i) :
    0x19 ≤ code.length ∧ ∃ addrtab assoctab prog, addrRequests code s1 unset = .ok addrtab ∧
      assocRequests code s1 (s1.addrtabSize - 4#16) = .ok assoctab ∧
      progRequests code s1 (s1.assoctabSize - 1#16) = .ok prog ∧
      (Copies i ↔ CopiesOf code (unloadRequests unset ++ addrtab ++ assoctab ++ prog)) := by
  obtain ⟨_, -, h⟩ := Checked.bind_eq_ok.mp h
  obtain ⟨_, hread, h⟩ := Checked.bind_eq_ok.mp h
  obtain ⟨addrtab, haddrtab, h⟩ := Checked.bind_eq_ok.mp h
  obtain ⟨assoctab, hassoctab, h⟩ := Checked.bind_eq_ok.mp h
  obtain ⟨prog, hprog, h⟩ := Checked.bind_eq_ok.mp h
  refine ⟨lt_of_readByte hread, addrtab, assoctab, prog, haddrtab, hassoctab, hprog, ?_⟩
  cases h
  cases bcuType with
  | bcu1 => exact absurd rfl htype
  | bcu20 => exact Iff.rfl
  | bcu21 => exact Iff.rfl

theorem toBCUImage_returns {l : Loadable} (hl : Checks l) (hfits : Fits l) (unset : Word16) :
    (l.toBCUImage unset).Returns := by
  cases l with
  | bcu1 code =>
      have hcode : 0x19 ≤ code.length := hfits
      rw [Loadable.toBCUImage, readByte_of_lt (by omega), Checked.ok_bind,
        readByte_of_lt (by omega), Checked.ok_bind]
      exact ⟨_, rfl⟩
  | bcu2 bcuType code s1 s2 =>
      have hcode : 0x19 ≤ code.length := hfits.1
      have hlong := hl.atLeast
      obtain ⟨addrtab, haddrtab⟩ := addrRequests_returns hlong s1 unset
      obtain ⟨assoctab, hassoctab⟩ := assocRequests_returns hlong s1 (s1.addrtabSize - 4#16)
      obtain ⟨prog, hprog⟩ := progRequests_returns hlong s1 (s1.assoctabSize - 1#16)
      refine Checked.returns_bind.mpr ⟨_, readByte_of_lt (by omega), ?_⟩
      refine Checked.returns_bind.mpr ⟨_, readByte_of_lt (by omega), ?_⟩
      refine Checked.returns_bind.mpr ⟨addrtab, haddrtab, ?_⟩
      refine Checked.returns_bind.mpr ⟨assoctab, hassoctab, ?_⟩
      exact Checked.returns_bind.mpr ⟨prog, hprog, ⟨_, rfl⟩⟩

/-- The download of a `BCUImage` stays inside of the code exactly if all that is copied does. -/
theorem copies_iff {l : Loadable} (hl : Checks l) {unset : Word16} {i : BCUImage}
    (hi : l.toBCUImage unset = .ok i) : Copies i ↔ Fits l := by
  cases l with
  | bcu1 code =>
      obtain ⟨_, -, hi⟩ := Checked.bind_eq_ok.mp hi
      obtain ⟨_, hread, hi⟩ := Checked.bind_eq_ok.mp hi
      have hcode : 0x19 ≤ code.length := lt_of_readByte hread
      cases hi
      exact ⟨fun _ => hcode, fun _ => copies_bcu1 rfl hcode hl.2⟩
  | bcu2 bcuType code s1 s2 =>
      obtain ⟨hcode, addrtab, assoctab, prog, haddrtab, hassoctab, hprog, hcopies⟩ :=
        toBCUImage_bcu2 hl.bcu2 hi
      rw [hcopies, copiesOf_append, copiesOf_append, copiesOf_append,
        copiesOf_addrRequests hl.atLeast hl.addrtabStart hl.addrtabSize haddrtab,
        copiesOf_assocRequests hl.atMost hassoctab, copiesOf_progRequests hl hprog, Fits]
      simp only [copiesOf_unloadRequests, hcode, true_and, and_assoc]

/-- The keys that the download writes. -/
theorem length_keys {l : Loadable} (hl : Checks l) {unset : Word16} {i : BCUImage}
    (hi : l.toBCUImage unset = .ok i) : i.bcuType ≠ .bcu1 → i.keys.length = 3 := by
  cases l with
  | bcu1 code =>
      obtain ⟨_, -, hi⟩ := Checked.bind_eq_ok.mp hi
      obtain ⟨_, -, hi⟩ := Checked.bind_eq_ok.mp hi
      cases hi
      exact fun h => absurd rfl h
  | bcu2 bcuType code s1 s2 =>
      obtain ⟨_, -, hi⟩ := Checked.bind_eq_ok.mp hi
      obtain ⟨_, -, hi⟩ := Checked.bind_eq_ok.mp hi
      obtain ⟨_, -, hi⟩ := Checked.bind_eq_ok.mp hi
      obtain ⟨_, -, hi⟩ := Checked.bind_eq_ok.mp hi
      obtain ⟨_, -, hi⟩ := Checked.bind_eq_ok.mp hi
      cases hi
      intro _
      cases s2 with
      | none => rfl
      | some key => exact hl.keys key rfl

/-- The checks of `PrepareLoadImage` accept the array, which leads to its only
    `return IMG_IMAGE_LOADABLE`. -/
def Accepts (c : CArray) (l : Loadable) : Prop :=
  ∃ img, Image.FromArray c (.ok (some img)) ∧ checkImage img = .ok (.ok l)

/-- `PrepareLoadImage` reads inside of the code only, and so does the download, for any device. -/
def LoadsInside (unset : Word16) (c : CArray) : Prop :=
  ∃ i, PrepareLoadImage unset c (.ok (.imageLoadable, some i)) ∧
    ∀ (σ : Type) (m : ManagementConnection σ) (s : σ), (m.loadImage i s).Returns

/-- What `PrepareLoadImage` makes of an array it accepts. -/
theorem prepareLoadImage_iff {c : CArray} {l : Loadable} (h : Accepts c l) (unset : Word16)
    (i : BCUImage) :
    PrepareLoadImage unset c (.ok (.imageLoadable, some i)) ↔ l.toBCUImage unset = .ok i := by
  obtain ⟨img, hfrom, hcheck⟩ := h
  have hprepare : prepareImage unset (some img) =
      l.toBCUImage unset >>= fun i => .ok (.imageLoadable, some i) := by
    rw [prepareImage, hcheck]
    rfl
  constructor
  · rintro ⟨o, ho, hr⟩
    rw [hfrom.unique ho |>.symm, Checked.ok_bind, hprepare] at hr
    obtain ⟨i', hi', h⟩ := Checked.bind_eq_ok.mp hr.symm
    cases h
    exact hi'
  · intro hi
    refine ⟨.ok (some img), hfrom, ?_⟩
    rw [Checked.ok_bind, hprepare, hi]
    rfl

/-- An accepted image is loaded without a read outside of the code exactly if it fits. -/
theorem loadsInside_iff {c : CArray} {l : Loadable} (h : Accepts c l) (unset : Word16) :
    LoadsInside unset c ↔ Fits l := by
  obtain ⟨img, -, hcheck⟩ := id h
  have hl := checks_of_checkImage hcheck
  constructor
  · -- the obliging device makes every copy, so each of them is inside
    rintro ⟨i, hi, hloads⟩
    rw [prepareLoadImage_iff h] at hi
    exact (copies_iff hl hi).mp (copies_of_loadImage (length_keys hl hi) hloads)
  · intro hfits
    obtain ⟨i, hi⟩ := toBCUImage_returns hl hfits unset
    refine ⟨i, (prepareLoadImage_iff h unset i).mpr hi, fun σ m s => ?_⟩
    exact m.loadImage_returns (length_keys hl hi) ((copies_iff hl hi).mpr hfits) s

/-- An image for a BCU 1 with the shortest code that holds the address. -/
theorem loadsInside_iff_bcu1 :
    LoadsInside 0#16 (Image.array ⟨[.bcuType ⟨0x0012#16⟩, .bcu1Size ⟨0x0019#16, 0#16, 0#16, 0#16⟩,
      .code ⟨List.replicate 0x19 9#8⟩]⟩) ↔ Fits (.bcu1 (List.replicate 0x19 9#8)) :=
  loadsInside_iff ⟨_, Image.fromArray_array (by simp [STRStream.InRange]) (by decide), by decide⟩
    0#16

/-- With one byte less it is accepted, too, and the address is read past the end. -/
theorem not_loadsInside :
    ¬ ∀ (unset : Word16) (c : CArray) (l : Loadable), Accepts c l → LoadsInside unset c := by
  intro h
  have hfrom := @Image.fromArray_array ⟨[.bcuType ⟨0x0012#16⟩,
    .bcu1Size ⟨0x0018#16, 0#16, 0#16, 0#16⟩, .code ⟨List.replicate 0x18 9#8⟩]⟩
    (by simp [STRStream.InRange]) (by decide)
  obtain ⟨i, ⟨o, ho, hr⟩, -⟩ :=
    h 0#16 _ (.bcu1 (List.replicate 0x18 9#8)) ⟨_, hfrom, by decide⟩
  rw [← hfrom.unique ho] at hr
  cases hr

end BcuSdk.Eibd
