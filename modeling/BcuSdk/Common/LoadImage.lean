/-
  BcuSdk.Common.LoadImage

  `PrepareLoadImage` (common/loadimage.cpp): the checks an image has to pass,
  and the load requests that are made of it.
-/
import BcuSdk.Common.Image
import BcuSdk.Lib.Aborting

namespace BcuSdk.Common

open BcuSdk.Lib

/-- `BCU_LOAD_RESULT` (common/eibloadresult.h), in the order of its codes. -/
inductive BCULoadResult where
  | unknownError
  | unrecogFormat
  | invalidFormat
  | noBcutype
  | unknownBcutype
  | noCode
  | noSize
  | lodataOverflow
  | hidataOverflow
  | textOverflow
  | noAddress
  | wrongSize
  | imageLoadable
  | noDeviceConnection
  | maskReadFailed
  | wrongMaskVersion
  | clearError
  | resetAddrTab
  | loadHeader
  | loadMain
  | zeroRam
  | finalizeAddrTab
  | prepareRun
  | restart
  | loaded
  | noStart
  | wrongAddrtab
  | addrtabOverflow
  | overlapAssoctab
  | overlapText
  | negativTextSize
  | overlapParam
  | overlapEeprom
  | objtabOverflow
  | wrongLoadctl
  | unloadAddr
  | unloadAssoc
  | unloadProg
  | loadAddr
  | writeAddr
  | setAddr
  | finishAddr
  | loadAssoc
  | writeAssoc
  | setAssoc
  | finishAssoc
  | loadProg
  | allocLoram
  | allocHiram
  | allocInit
  | allocRo
  | allocEeprom
  | allocParam
  | setProg
  | setTaskPtr
  | setObj
  | setTask2
  | finishProc
  | wrongChecklim
  | invalidKey
  | authorizationFailed
  | keyWrite
  deriving DecidableEq, Repr

structure EIBLoadRequest where
  error : BCULoadResult
  obj : Byte
  prop : Byte
  start : Word16
  req : CArray
  result : CArray
  memaddr : Word16
  len : Word16
  deriving DecidableEq, Repr

/-- `BCUImage::BCUType`. -/
inductive BCUType where
  | bcu1
  | bcu20
  | bcu21
  deriving DecidableEq, Repr

structure BCUImage where
  bcuType : BCUType
  code : CArray
  load : List EIBLoadRequest
  addr : Word16
  installkey : Word32
  keys : List Word32
  deriving DecidableEq, Repr

/-! ## Looking up streams -/

namespace STRStream

def isInvalid : STRStream → Bool
  | invalid _ => true
  | _ => false

def asBCUType : STRStream → Option STRBCUType
  | bcuType s => some s
  | _ => none

def asCode : STRStream → Option STRCode
  | code s => some s
  | _ => none

def asBCU1Size : STRStream → Option STRBCU1Size
  | bcu1Size s => some s
  | _ => none

def asBCU2Size : STRStream → Option STRBCU2Size
  | bcu2Size s => some s
  | _ => none

def asBCU2Start : STRStream → Option STRBCU2Start
  | bcu2Start s => some s
  | _ => none

def asBCU2Key : STRStream → Option STRBCU2Key
  | bcu2Key s => some s
  | _ => none

end STRStream

namespace Image

/-- `Image::isValid`. -/
def isValid (img : Image) : Bool := !img.str.any STRStream.isInvalid

/-- `Image::findStream`, with the cast that follows it. -/
def findStream {α : Type} (img : Image) (cast : STRStream → Option α) : Option α :=
  img.str.findSome? cast

end Image

/-! ## The checks -/

structure Segment where
  start : Word16
  len : Word16
  deriving DecidableEq, Repr

/-- `AddSegmentOverlap`; `none` where it returns 0. -/
def addSegmentOverlap (seg : List Segment) (start len : Word16) : Option (List Segment) :=
  if len = 0 then some seg
  else if seg.any fun s =>
      (s.start.toNat ≤ start.toNat && start.toNat < s.start.toNat + s.len.toNat) ||
        (start.toNat ≤ s.start.toNat && s.start.toNat < start.toNat + len.toNat) then none
  else some (seg ++ [{ start := start, len := len }])

/-- The streams of an image that has passed the checks, as far as the `BCUImage` is made of them. -/
inductive Loadable where
  | bcu1 (code : CArray)
  | bcu2 (bcuType : BCUType) (code : CArray) (start : STRBCU2Start) (key : Option STRBCU2Key)
  deriving DecidableEq, Repr

/-- The checks for BCU 1. -/
def checkBCU1 (img : Image) (c : STRCode) : Checked (Except BCULoadResult Loadable) := do
  let some s := img.findStream STRStream.asBCU1Size | return .error .noSize
  if s.datasize.toNat + s.bsssize.toNat + s.stacksize.toNat > 18 then
    return .error .lodataOverflow
  if s.textsize.toNat > 0xfe then return .error .textOverflow
  if s.textsize.toNat ≠ c.code.length then return .error .wrongSize
  if s.textsize.toNat < 0x18 then return .error .noAddress
  let checklim ← readByte c.code 8
  if checklim.toNat < 8 ∨ checklim.toNat > c.code.length + 1 then return .error .wrongChecklim
  return .ok (.bcu1 c.code)

/-- `if (!o) return r;` -/
def require {α : Type} (r : BCULoadResult) : Option α → Except BCULoadResult α
  | some a => .ok a
  | none => .error r

/-- A stream that has been found, or a segment that overlaps no other. -/
theorem of_require {α β : Type} {o : Option α} {r : BCULoadResult}
    {f : α → Except BCULoadResult β} {b : β} (h : (require r o >>= f) = .ok b) :
    ∃ a, o = some a ∧ f a = .ok b := by
  cases o with
  | none => cases h
  | some a => exact ⟨a, rfl, h⟩

/-- The checks for BCU 2. -/
def checkBCU2 (img : Image) (bcuType : BCUType) (c : STRCode) : Except BCULoadResult Loadable := do
  let s ← require .noSize (img.findStream STRStream.asBCU2Size)
  if s.loDatasize.toNat + s.loBsssize.toNat > 18 then throw .lodataOverflow
  if s.hiDatasize.toNat + s.hiBsssize.toNat > 24 then throw .hidataOverflow
  if s.textsize.toNat > 0x36f then throw .textOverflow
  if s.textsize.toNat ≠ c.code.length then throw .wrongSize
  if s.textsize.toNat < 0x18 then throw .noAddress
  let s1 ← require .noStart (img.findStream STRStream.asBCU2Start)
  if s1.addrtabStart ≠ 0x116#16 ∨ s1.addrtabSize.toNat < 4 then throw .wrongAddrtab
  if s1.addrtabSize.toNat > 0xff then throw .addrtabOverflow
  -- the result of this call is not looked at
  let seg := (addSegmentOverlap [] s1.addrtabStart s1.addrtabSize).getD []
  let seg ← require .overlapAssoctab (addSegmentOverlap seg s1.assoctabStart s1.assoctabSize)
  if s1.assoctabSize.toNat > 0xff then throw .addrtabOverflow
  if s1.readonlyEnd.toNat < s1.readonlyStart.toNat then throw .negativTextSize
  let seg ← require .overlapText
    (addSegmentOverlap seg s1.readonlyStart (s1.readonlyEnd - s1.readonlyStart))
  if s1.paramEnd.toNat < s1.paramStart.toNat then throw .negativTextSize
  if s1.eepromEnd.toNat < s1.eepromStart.toNat then throw .negativTextSize
  let seg ← require .overlapEeprom
    (addSegmentOverlap seg s1.eepromStart (s1.eepromEnd - s1.eepromStart))
  let _ ← require .overlapParam
    (addSegmentOverlap seg s1.paramStart (s1.paramEnd - s1.paramStart))
  if s1.objCount.toNat > 0xff then throw .objtabOverflow
  if s1.paramEnd.toNat > c.code.length + 0x100 then throw .wrongLoadctl
  let s2 := img.findStream STRStream.asBCU2Key
  if s2.any fun s2 => s2.keys.length ≠ 3 then throw .invalidKey
  return .bcu2 bcuType c.code s1 s2

/-- All checks of `PrepareLoadImage` behind `Image::fromArray`. -/
def checkImage (img : Image) : Checked (Except BCULoadResult Loadable) := do
  if !img.isValid then return .error .invalidFormat
  let some b := img.findStream STRStream.asBCUType | return .error .noBcutype
  let some c := img.findStream STRStream.asCode | return .error .noCode
  if b.bcutype = 0x0012#16 then checkBCU1 img c
  else if b.bcutype = 0x0020#16 then return checkBCU2 img .bcu20 c
  else if b.bcutype = 0x0021#16 then return checkBCU2 img .bcu21 c
  else return .error .unknownBcutype

/-! ### What has been checked -/

/-- What holds of an image that has passed the checks for BCU 1. -/
theorem passed_of_checkBCU1 {img : Image} {c : STRCode} {l : Loadable}
    (h : checkBCU1 img c = .ok (.ok l)) :
    l = .bcu1 c.code ∧ 0x18 ≤ c.code.length ∧ c.code.length ≤ 0xfe := by
  rw [checkBCU1] at h
  cases hs : img.findStream STRStream.asBCU1Size with
  | none => rw [hs] at h; cases h
  | some s =>
      rw [hs] at h
      dsimp only at h
      split at h
      · cases h
      split at h
      · cases h
      next htext =>
      split at h
      · cases h
      next hsize =>
      split at h
      · cases h
      next haddr =>
      obtain ⟨checklim, -, h⟩ := Checked.bind_eq_ok.mp h
      split at h
      · cases h
      cases h
      exact ⟨rfl, by omega, by omega⟩

/-- What holds of an image that has passed the checks for BCU 2: `s1` is its stream, and the five
    segments have been accepted one after the other. -/
structure PassedBCU2 (img : Image) (c : STRCode) (s1 : STRBCU2Start) : Prop where
  found : img.findStream STRStream.asBCU2Start = some s1
  atLeast : 0x18 ≤ c.code.length
  atMost : c.code.length ≤ 0x36f
  addrtabStart : s1.addrtabStart = 0x116#16
  addrtabSize : 4 ≤ s1.addrtabSize.toNat
  readonly : s1.readonlyStart.toNat ≤ s1.readonlyEnd.toNat
  eeprom : s1.eepromStart.toNat ≤ s1.eepromEnd.toNat
  param : s1.paramStart.toNat ≤ s1.paramEnd.toNat
  paramEnd : s1.paramEnd.toNat ≤ c.code.length + 0x100
  keys : ∀ key, img.findStream STRStream.asBCU2Key = some key → key.keys.length = 3
  segments : ∃ seg₁ seg₂ seg₃ seg₄,
    addSegmentOverlap ((addSegmentOverlap [] s1.addrtabStart s1.addrtabSize).getD [])
      s1.assoctabStart s1.assoctabSize = some seg₁ ∧
    addSegmentOverlap seg₁ s1.readonlyStart (s1.readonlyEnd - s1.readonlyStart) = some seg₂ ∧
    addSegmentOverlap seg₂ s1.eepromStart (s1.eepromEnd - s1.eepromStart) = some seg₃ ∧
    addSegmentOverlap seg₃ s1.paramStart (s1.paramEnd - s1.paramStart) = some seg₄

theorem passed_of_checkBCU2 {img : Image} {bcuType : BCUType} {c : STRCode} {l : Loadable}
    (h : checkBCU2 img bcuType c = .ok l) :
    ∃ s1, PassedBCU2 img c s1 ∧
      l = .bcu2 bcuType c.code s1 (img.findStream STRStream.asBCU2Key) := by
  rw [checkBCU2] at h
  -- one check of `PrepareLoadImage` after the other
  obtain ⟨s, -, h⟩ := of_require h
  obtain ⟨-, h⟩ := of_guard h
  obtain ⟨-, h⟩ := of_guard h
  obtain ⟨htext, h⟩ := of_guard h
  obtain ⟨hsize, h⟩ := of_guard h
  obtain ⟨haddr, h⟩ := of_guard h
  obtain ⟨s1, hs1, h⟩ := of_require h
  obtain ⟨haddrtab, h⟩ := of_guard h
  obtain ⟨-, h⟩ := of_guard h
  obtain ⟨seg₁, hseg₁, h⟩ := of_require h
  obtain ⟨-, h⟩ := of_guard h
  obtain ⟨hreadonly, h⟩ := of_guard h
  obtain ⟨seg₂, hseg₂, h⟩ := of_require h
  obtain ⟨hparam, h⟩ := of_guard h
  obtain ⟨heeprom, h⟩ := of_guard h
  obtain ⟨seg₃, hseg₃, h⟩ := of_require h
  obtain ⟨seg₄, hseg₄, h⟩ := of_require h
  obtain ⟨-, h⟩ := of_guard h
  obtain ⟨hend, h⟩ := of_guard h
  obtain ⟨hkey, h⟩ := of_guard h
  cases h
  rw [not_or, not_not] at haddrtab
  have hkeys : ∀ key, img.findStream STRStream.asBCU2Key = some key → key.keys.length = 3 := by
    intro key hs2
    rw [hs2] at hkey
    simpa using hkey
  refine ⟨s1, ?_, rfl⟩
  exact
    { found := hs1
      atLeast := by omega
      atMost := by omega
      addrtabStart := haddrtab.1
      addrtabSize := by omega
      readonly := by omega
      eeprom := by omega
      param := by omega
      paramEnd := by omega
      keys := hkeys
      segments := ⟨seg₁, seg₂, seg₃, seg₄, hseg₁, hseg₂, hseg₃, hseg₄⟩ }

/-- Of the checks for the two kinds of BCU those have been passed that belong to the streams. -/
theorem passed_of_checkImage {img : Image} {l : Loadable} (h : checkImage img = .ok (.ok l)) :
    ∃ c : STRCode, checkBCU1 img c = .ok (.ok l) ∨
      ∃ bcuType ≠ BCUType.bcu1, checkBCU2 img bcuType c = .ok l := by
  rw [checkImage] at h
  split at h
  · cases h
  cases hb : img.findStream STRStream.asBCUType with
  | none => rw [hb] at h; cases h
  | some b =>
      rw [hb] at h
      cases hc : img.findStream STRStream.asCode with
      | none => rw [hc] at h; cases h
      | some c =>
          rw [hc] at h
          dsimp only at h
          split at h
          · exact ⟨c, .inl h⟩
          split at h
          · exact ⟨c, .inr ⟨.bcu20, by decide, Except.ok.inj h⟩⟩
          split at h
          · exact ⟨c, .inr ⟨.bcu21, by decide, Except.ok.inj h⟩⟩
          · cases h

/-! ## The load requests -/

/-- `req.set (zero, 10)`, and the first byte. -/
def command (b : Byte) : CArray := b :: List.replicate 9 0#8

/-- `GenAlloc`. -/
def genAlloc (start len : Word16) (access type : Byte) (check : Bool) : CArray :=
  [0x03#8, 0#8, hiByte start, loByte start, hiByte len, loByte len, access, type,
    if check then 0x80#8 else 0x00#8, 0#8]

/-- The request that sets a table pointer; it overwrites all of `req`. -/
def setTable (code : CArray) (start : Word16) : Checked CArray := do
  let b ← readByte code 0x09
  let part ← readSlice code 0x03 5
  return [0x03#8, 0x02#8, hiByte start, loByte start, b] ++ part

/-- The requests under "unload"; `r.len` has not been set yet. -/
def unloadRequests (unset : Word16) : List EIBLoadRequest :=
  let r : EIBLoadRequest :=
    { error := .unloadAddr, obj := 1#8, prop := 5#8, start := 1#16, req := command 0x04#8,
      result := [0x00#8], memaddr := 0xffff#16, len := unset }
  [r, { r with obj := 2#8, error := .unloadAssoc }, { r with obj := 3#8, error := .unloadProg }]

/-- The requests under "loadaddrtab". -/
def addrRequests (code : CArray) (s1 : STRBCU2Start) (len : Word16) :
    Checked (List EIBLoadRequest) := do
  let load : EIBLoadRequest :=
    { error := .loadAddr, obj := 1#8, prop := 5#8, start := 1#16, req := command 0x01#8,
      result := [0x02#8], memaddr := 0xffff#16, len }
  let write := { load with
    req := genAlloc s1.addrtabStart s1.addrtabSize 0x31#8 0x03#8 true
    memaddr := s1.addrtabStart, len := 1#16, error := .writeAddr }
  let rest := { write with
    obj := 0xff#8, memaddr := write.memaddr + 3#16, len := s1.addrtabSize - 4#16 }
  let set := { rest with
    obj := 1#8, memaddr := 0xffff#16, req := ← setTable code s1.addrtabStart, error := .setAddr }
  let finish := { set with req := command 0x02#8, result := [0x01#8], error := .finishAddr }
  return [load, write, rest, set, finish]

/-- The requests under "loadassoctab". -/
def assocRequests (code : CArray) (s1 : STRBCU2Start) (len : Word16) :
    Checked (List EIBLoadRequest) := do
  let load : EIBLoadRequest :=
    { error := .loadAssoc, obj := 2#8, prop := 5#8, start := 1#16, req := command 0x01#8,
      result := [0x02#8], memaddr := 0xffff#16, len }
  let write := { load with
    req := genAlloc s1.assoctabStart s1.assoctabSize 0x31#8 0x03#8 true
    memaddr := s1.assoctabStart, len := s1.assoctabSize - 1#16, error := .writeAssoc }
  let set := { write with
    memaddr := 0xffff#16, req := ← setTable code s1.assoctabStart, error := .setAssoc }
  let finish := { set with req := command 0x02#8, result := [0x01#8], error := .finishAssoc }
  return [load, write, set, finish]

/-- The requests under "loadproctab". -/
def progRequests (code : CArray) (s1 : STRBCU2Start) (len : Word16) :
    Checked (List EIBLoadRequest) := do
  let load : EIBLoadRequest :=
    { error := .loadProg, obj := 3#8, prop := 5#8, start := 1#16, req := command 0x01#8,
      result := [0x02#8], memaddr := 0xffff#16, len }
  let loram := { load with
    req := genAlloc 0x00c8#16 0x0018#16 0x32#8 0x01#8 false, error := .allocLoram }
  let hiram := { loram with
    req := genAlloc 0x0972#16 0x004a#16 0x32#8 0x02#8 false, error := .allocHiram }
  let init := { hiram with
    req := genAlloc 0x0100#16 0x0016#16 0x32#8 0x03#8 false
    error := .allocInit, len := 0x001#16, memaddr := 0x100#16 }
  let rest := { init with obj := 0xff#8, memaddr := 0x103#16, len := 0x13#16 }
  let ro := { rest with
    obj := 3#8
    req := genAlloc s1.readonlyStart (s1.readonlyEnd - s1.readonlyStart) 0x30#8 0x03#8 true
    error := .allocRo, len := s1.readonlyEnd - s1.readonlyStart - 1#16
    memaddr := s1.readonlyStart }
  let eeprom := { ro with
    req := genAlloc s1.eepromStart (s1.eepromEnd - s1.eepromStart) 0x31#8 0x03#8 false
    error := .allocEeprom, len := s1.eepromEnd - s1.eepromStart, memaddr := s1.eepromStart }
  let param := { eeprom with
    req := genAlloc s1.paramStart (s1.paramEnd - s1.paramStart) 0x32#8 0x03#8 true
    error := .allocParam, len := s1.paramEnd - s1.paramStart, memaddr := s1.paramStart }
  let set := { param with
    memaddr := 0xffff#16, req := ← setTable code s1.runaddr, error := .setProg }
  let taskPtr := { set with
    req := [0x03#8, 0x03#8, hiByte s1.initaddr, loByte s1.initaddr, hiByte s1.saveaddr,
      loByte s1.saveaddr, hiByte s1.sphandler, loByte s1.sphandler, 0#8, 0#8]
    error := .setTaskPtr }
  let obj := { taskPtr with
    req := [0x03#8, 0x04#8, hiByte s1.objPtr, loByte s1.objPtr, loByte s1.objCount, 0#8, 0#8, 0#8,
      0#8, 0#8]
    error := .setObj }
  let task2 := { obj with
    req := [0x03#8, 0x05#8, hiByte s1.appcallback, loByte s1.appcallback, hiByte s1.groupobjPtr,
      loByte s1.groupobjPtr, hiByte s1.seg0, loByte s1.seg0, hiByte s1.seg1, loByte s1.seg1]
    error := .setTask2 }
  let finish := { task2 with req := command 0x02#8, result := [0x01#8], error := .finishProc }
  return [load, loram, hiram, init, rest] ++ (if ro.len ≠ 0 then [ro] else []) ++
    (if eeprom.len ≠ 0 then [eeprom] else []) ++ (if param.len.toNat > 1 then [param] else []) ++
    [set, taskPtr, obj, task2, finish]

/-- The `BCUImage` for streams that have passed the checks. -/
def Loadable.toBCUImage (unset : Word16) : Loadable → Checked BCUImage
  | .bcu1 code => do
      let addr := word16 (← readByte code 0x17) (← readByte code 0x18)
      return { bcuType := .bcu1, code, load := [], addr, installkey := 0#32, keys := [] }
  | .bcu2 bcuType code s1 s2 => do
      let addr := word16 (← readByte code 0x17) (← readByte code 0x18)
      let (installkey, keys) := match s2 with
        | some s2 => (s2.installkey, s2.keys)
        | none => (0xFFFFFFFF#32, [0xFFFFFFFF#32, 0xFFFFFFFF#32, 0xFFFFFFFF#32])
      let addrtab ← addrRequests code s1 unset
      let assoctab ← assocRequests code s1 (s1.addrtabSize - 4#16)
      let prog ← progRequests code s1 (s1.assoctabSize - 1#16)
      let load := unloadRequests unset ++ addrtab ++ assoctab ++ prog
      return { bcuType, code, load, addr, installkey, keys }

/-- `PrepareLoadImage` behind `Image::fromArray`. -/
def prepareImage (unset : Word16) : Option Image → Checked (BCULoadResult × Option BCUImage)
  | none => return (.unrecogFormat, none)
  | some img => do
      match ← checkImage img with
      | .error r => return (r, none)
      | .ok l => return (.imageLoadable, some (← l.toBCUImage unset))

/-- `PrepareLoadImage` comes to an end with the result `r`. -/
def PrepareLoadImage (unset : Word16) (c : CArray) (r : Checked (BCULoadResult × Option BCUImage)) :
    Prop :=
  ∃ o, Image.FromArray c o ∧ r = o >>= prepareImage unset

end BcuSdk.Common
