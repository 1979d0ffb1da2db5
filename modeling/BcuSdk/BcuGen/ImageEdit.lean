/-
  BcuSdk.BcuGen.ImageEdit

  Configuring a device in its finished image (bcugen/imageedit.cpp,
  xmlreadconfig.cpp).

  `ImageToDevice` makes a device of what the streams of the image name, the
  configuration gives it values, and `PatchImage` puts these into the code.
  The configuration is taken as its elements in the order of the file.
-/
import BcuSdk.Lib.Aborting
import BcuSdk.Lib.Patch
import BcuSdk.Common.LoadImage
import BcuSdk.BcuGen.AddrTab

namespace BcuSdk.BcuGen

open BcuSdk.Lib BcuSdk.Common

/-! ## The device of an image -/

/-- `(BCUType) bcutype`. -/
def BCUType.ofWord (w : Word16) : BCUType :=
  if w = 0x0012#16 then .bcu12
  else if w = 0x0020#16 then .bcu20
  else if w = 0x0021#16 then .bcu21
  else .other w

/-- One stream for `ImageToDevice`. -/
def Device.addStream (d : Device) : STRStream → Device
  | .stringParameter l =>
      { d with stringParameters := d.stringParameters ++ [{ id := l.name, idLineno := 1 }] }
  | .intParameter l =>
      { d with intParameters := d.intParameters ++ [{ id := l.name, idLineno := 1 }] }
  | .floatParameter l =>
      { d with floatParameters := d.floatParameters ++ [{ id := l.name, idLineno := 1 }] }
  | .listParameter l =>
      { d with listParameters := d.listParameters ++
          [{ id := l.name, idLineno := 1, elements := l.elements.map fun v => { value := v } }] }
  | .groupObject l =>
      { d with groupObjects := d.groupObjects ++
          [{ id := l.name, idLineno := 1, objNo := l.no.toNat }] }
  | .bcuType s => { d with bcu := .ofWord s.bcutype }
  | _ => d

/-- `ImageToDevice`. -/
def imageToDevice (i : Image) (d : Device) : Device := i.str.foldl Device.addStream d

/-! ## The configuration -/

/-- What may stand in a `GroupObject` of the configuration. -/
inductive GroupObjectItem where
  | priority (p : Prio)
  | sendAddress (addr : Int)
  | readRequestAddress (addr : Int)
  | receiveAddress (addr : Int)
  | readAddress (addr : Int)
  | updateAddress (addr : Int)
  deriving DecidableEq, Repr

/-- What may stand in a `DeviceConfig`; the value of a parameter is given any number of times. -/
inductive ConfigItem where
  | physicalAddress (addr : Int)
  | installKey (key : Int)
  | key (m : KeyMap)
  | groupObject (id : CString) (items : List GroupObjectItem)
  | property
  | pollingMaster
  | pollingSlave
  | listParameter (id : CString) (values : List CString)
  | intParameter (id : CString) (values : List Int)
  | floatParameter (id : CString) (values : List Float)
  | stringParameter (id : CString) (values : List CString)

/-- The first element with `p` is changed. -/
def changeFirst {α : Type} (p : α → Bool) (f : α → α) : List α → Option (List α)
  | [] => none
  | a :: as => if p a then some (f a :: as) else (changeFirst p f as).map (a :: ·)

namespace GroupObject

/-- The loop over the children in `parseGroupObject`. -/
def setItem (o : GroupObject) : GroupObjectItem → GroupObject
  | .priority p => { o with priority := p }
  | .sendAddress a => { o with sendAddress := a, sendAddressLineno := 1 }
  | .readRequestAddress a => { o with readRequestAddress := a, readRequestAddressLineno := 1 }
  | .receiveAddress a => { o with receiveAddress := o.receiveAddress ++ [a] }
  | .readAddress a => { o with readAddress := o.readAddress ++ [a] }
  | .updateAddress a => { o with updateAddress := o.updateAddress ++ [a] }

end GroupObject

/-- The element with the given ID, which has to be there, is changed; else `e`. -/
def parseElement {α : Type} (idLineno : α → Int) (id : α → CString) (name : CString) (e : Die)
    (f : α → α) (as : List α) : Except Die (List α) :=
  match changeFirst (fun a => idLineno a ≠ 0 ∧ id a = name) f as with
  | some as => .ok as
  | none => .error e

/-- One element for `parseDeviceDesc`.  `ImageToDevice` makes no objects and nothing that polls. -/
def parseItem (d : Device) : ConfigItem → Except Die Device
  | .physicalAddress a => .ok { d with physicalAddress := a }
  | .installKey k => .ok { d with installKey := k, installKeyLineno := 1 }
  | .key m => .ok { d with keys := d.keys ++ [m] }
  | .groupObject id items => do
      let os ← parseElement (·.idLineno) (·.id) id .unknownGroupObject
        (fun o => items.foldl GroupObject.setItem o) d.groupObjects
      return { d with groupObjects := os }
  | .property => .error .unknownProperty
  | .pollingMaster => .error .unknownPollingMaster
  | .pollingSlave => .error .unknownPollingSlave
  | .listParameter id values => do
      let ps ← parseElement (·.idLineno) (·.id) id .unknownListParameter
        (fun p => values.foldl (fun p v => { p with value := v, valueLineno := 1 }) p)
        d.listParameters
      return { d with listParameters := ps }
  | .intParameter id values => do
      let ps ← parseElement (·.idLineno) (·.id) id .unknownIntParameter
        (fun p => values.foldl (fun p v => { p with value := v, valueLineno := 1 }) p)
        d.intParameters
      return { d with intParameters := ps }
  | .floatParameter id values => do
      let ps ← parseElement (·.idLineno) (·.id) id .unknownFloatParameter
        (fun p => values.foldl (fun p v => { p with value := v, valueLineno := 1 }) p)
        d.floatParameters
      return { d with floatParameters := ps }
  | .stringParameter id values => do
      let ps ← parseElement (·.idLineno) (·.id) id .unknownStringParameter
        (fun p => values.foldl (fun p v => { p with value := v, valueLineno := 1 }) p)
        d.stringParameters
      return { d with stringParameters := ps }

/-- `xmlReadConfigInformation`. -/
def xmlReadConfigInformation (d : Device) (items : List ConfigItem) : Except Die Device :=
  items.foldlM parseItem d

/-! ## PatchImage: parameters -/

/-- `(v >> 8k) & 0xff`. -/
def shiftedByte (v : Int) (k : Nat) : Byte := BitVec.ofInt 8 (v >>> (8 * k))

/-- `ToTargetFloat`, on a host that stores the low byte first. -/
def toTargetFloat (f : Float32) : CArray :=
  let v := f.toBits.toBitVec
  [byteOf v 0, byteOf v 1, byteOf v 2, byteOf v 3]

/-- What is copied to the place of a string. -/
def StringParameter.bytes (l : STRStringParameter) (p : StringParameter) : Except Die CArray :=
  if p.valueLineno = 0 then .error (.missingParameterValue p.id)
  else if p.value.1.length + 1 > l.length.toNat then .error (.stringValueTooLong p.id)
  else .ok (p.value.1 ++ [0#8])

/-- What is stored at the place of a number. -/
def IntParameter.bytes (l : STRIntParameter) (p : IntParameter) : Except Die CArray :=
  let byte := shiftedByte p.value
  -- 2 ^ (|type| - 1) bytes, the high one first
  if p.valueLineno = 0 then .error (.missingParameterValue p.id)
  else if l.type = 1#8 ∨ l.type = -1#8 then .ok [byte 0]
  else if l.type = 2#8 ∨ l.type = -2#8 then .ok [byte 1, byte 0]
  else if l.type = 3#8 ∨ l.type = -3#8 then .ok [byte 3, byte 2, byte 1, byte 0]
  else if l.type = 4#8 ∨ l.type = -4#8 then
    .ok [byte 7, byte 6, byte 5, byte 4, byte 3, byte 2, byte 1, byte 0]
  else .error (.unknownType l.type p.id)

/-- What is copied to the place of a float. -/
def FloatParameter.bytes (p : FloatParameter) : Except Die CArray :=
  if p.valueLineno = 0 then .error (.missingParameterValue p.id)
  else .ok (toTargetFloat p.value.toFloat32)

/-- What is stored at the place of a list: the number of the element. -/
def ListParameter.bytes (l : STRListParameter) (p : ListParameter) : Except Die CArray :=
  let i := l.elements.idxOf p.value
  if p.valueLineno = 0 then .error (.missingParameterValue p.id)
  -- `idxOf` of an element that is not there is the length
  else if i = l.elements.length then .error (.unknownElement p.value p.id)
  else if i < 0x100 then .ok [shiftedByte i 0]
  else .ok [shiftedByte i 1, shiftedByte i 0]

/-- The first parameter of that name; past the last one the array is read outside. -/
def findParameter {α : Type} (id : α → CString) (name : CString) (ps : List α) : Checked α :=
  match ps.find? (fun p => id p = name) with
  | some p => .ok p
  | none => .error .outOfBounds

/-- `c + addr - 0x100`. -/
def codePatch (addr : Word16) (bytes : CArray) : Patch := ⟨(addr.toNat : Int) - 0x100, bytes⟩

/-- What is stored for a stream, if it is one of a parameter. -/
def parameterPatch (d : Device) : STRStream → Aborting Die (Option Patch)
  | .stringParameter l => do
      let p ← .ofChecked (findParameter (·.id) l.name d.stringParameters)
      let bytes ← .ofResult (p.bytes l)
      return some (codePatch l.addr bytes)
  | .intParameter l => do
      let p ← .ofChecked (findParameter (·.id) l.name d.intParameters)
      let bytes ← .ofResult (p.bytes l)
      return some (codePatch l.addr bytes)
  | .floatParameter l => do
      let p ← .ofChecked (findParameter (·.id) l.name d.floatParameters)
      let bytes ← .ofResult p.bytes
      return some (codePatch l.addr bytes)
  | .listParameter l => do
      let p ← .ofChecked (findParameter (·.id) l.name d.listParameters)
      let bytes ← .ofResult (p.bytes l)
      return some (codePatch l.addr bytes)
  | _ => return none

/-- The loop over the streams. -/
def patchParameters (d : Device) (str : List STRStream) (c : CArray) : Aborting Die CArray :=
  str.foldlM (fun c s => do
    match ← parameterPatch d s with
    | some p => .ofChecked (p.store c)
    | none => return c) c

/-! ## PatchImage: tables -/

/-- `addrtab_start`, `assoctab_start` and `groupobj_start`. -/
structure TableStarts where
  addrtab : Int
  assoctab : Int
  groupobj : Int
  deriving DecidableEq, Repr

/-- Where the tables are; a BCU 2 without an `STR_BCU2Start` is not thought of. -/
def tableStarts (i : Image) (d : Device) (c : CArray) : Checked TableStarts :=
  if d.bcu = .bcu12 then do
    let assoctab ← readByte c 0x11
    let groupobj ← readByte c 0x12
    return { addrtab := 0x16, assoctab := assoctab.toNat, groupobj := groupobj.toNat }
  else
    match i.findStream STRStream.asBCU2Start with
    | none => .error .outOfBounds
    | some s => .ok
        { addrtab := (s.addrtabStart.toNat : Int) - 0x100
          assoctab := (s.assoctabStart.toNat : Int) - 0x100
          groupobj := (s.groupobjPtr.toNat : Int) - 0x100 }

/-- The address table: its count, the physical address, the group addresses. -/
def addrTablePatch (start : Int) (d : Device) (t : AddrTable) : Patch :=
  ⟨start, BitVec.ofNat 8 (t.addr.length + 1) :: shiftedByte d.physicalAddress 1 ::
    shiftedByte d.physicalAddress 0 :: t.addr.flatMap wordBytes⟩

def patchAddrTable (start : Int) (d : Device) (t : AddrTable) (c : CArray) :
    Aborting Die CArray := do
  -- the count in the image says how much room the table has
  let space ← .ofChecked (readAt c start)
  if t.addr.length + 1 > space.toNat then
    throw (.needAddresses (t.addr.length + 1) space.toNat)
  else .ofChecked ((addrTablePatch start d t).store c)

/-- `t.Addr[i]` and `t.ObjNo[i]`, which nobody may have set. -/
def readSlot : Option Slot → Checked Slot
  | some s => .ok s
  | none => .error .outOfBounds

/-- The association table: its count, and a pair for each slot. -/
def assocTablePatch (start : Int) (slots : List Slot) : Patch :=
  ⟨start, BitVec.ofNat 8 slots.length ::
    slots.flatMap fun s => [BitVec.ofNat 8 (s.addr + 1), BitVec.ofInt 8 s.objNo]⟩

/-- The number of associations is compared with the count of the address table. -/
def patchAssocTable (starts : TableStarts) (t : AddrTable) (c : CArray) :
    Aborting Die CArray := do
  -- by now this is the count that `patchAddrTable` has stored
  let count ← .ofChecked (readAt c starts.addrtab)
  if t.slots.length > count.toNat then do
    -- the message names the count of the right table
    let space ← .ofChecked (readAt c starts.assoctab)
    throw (.needAssociations t.slots.length space.toNat)
  else do
    let slots ← .ofChecked (t.slots.mapM readSlot)
    .ofChecked ((assocTablePatch starts.assoctab slots).store c)

/-- The flags of the objects. -/
def flagPatches (start : Int) (b : BCUType) (objs : List GroupObject) : List Patch :=
  objs.map fun o => ⟨start + 2 + 3 * o.objNo + 1, [o.groupObjectFlag b]⟩

/-- The block under "Addresstable", behind the starts. -/
def patchTables (starts : TableStarts) (d : Device) (c : CArray) : Aborting Die CArray := do
  let objs ← .ofResult (d.groupObjects.mapM (GroupObject.buildObjAddress d.bcu))
  let t ← .ofChecked (buildAddrTable objs)
  let c ← patchAddrTable starts.addrtab d t c
  let c ← patchAssocTable starts t c
  .ofChecked (Patch.storeAll c (flagPatches starts.groupobj d.bcu objs))

/-! ## PatchImage: keys -/

/-- One element of `d.Keys`. -/
def setKey (keys : List Word32) (m : KeyMap) : Except Die (List Word32) :=
  if m.level < 0 ∨ m.level > 2 then .error (.unsupportedKeyLevel m.level)
  else .ok (keys.set m.level.toNat m.key)

/-- The levels nobody has given a key. -/
def noKeys : List Word32 := List.replicate 3 0xffffffff#32

def isBCU2Key (s : STRStream) : Bool := s.asBCU2Key.isSome

/-- `k->installkey` and `k->keys`. -/
def setKeys (d : Device) (keys : List Word32) (k : STRBCU2Key) : STRBCU2Key :=
  { installkey := if d.installKeyLineno ≠ 0 then BitVec.ofInt 32 d.installKey else k.installkey
    keys }

/-- The change to the stream `k` points to. -/
def changeKeys (d : Device) (keys : List Word32) : STRStream → STRStream
  | .bcu2Key k => .bcu2Key (setKeys d keys k)
  | s => s

/-- The block under "Key handling"; a new stream is put behind the others. -/
def patchKeys (d : Device) (str : List STRStream) : Except Die (List STRStream) := do
  let keys ← d.keys.foldlM setKey noKeys
  return (changeFirst isBCU2Key (changeKeys d keys) str).getD
    (str ++ [.bcu2Key (setKeys d keys { installkey := 0xffffffff#32, keys := [] })])

/-- `co->code`, with what has been stored through `c`. -/
def setCode (str : List STRStream) (c : CArray) : Option (List STRStream) :=
  changeFirst (fun s => s.asCode.isSome) (fun _ => .code ⟨c⟩) str

/-- `PatchImage`. -/
def patchImage (i : Image) (d : Device) : Aborting Die Image :=
  match i.findStream STRStream.asCode with
  | none => .ofChecked (.error .outOfBounds)
  | some co => do
      -- the starts are read from the code as the parameters have left it
      let c ← patchParameters d i.str co.code
      let starts ← .ofChecked (tableStarts i d c)
      let c ← patchTables starts d c
      let str ← .ofResult (patchKeys d ((setCode i.str c).getD i.str))
      return { str }

end BcuSdk.BcuGen
