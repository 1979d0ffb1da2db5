/-
  BcuSdk.BcuGen.AddrTab

  Address and association tables of a device (bcugen/lib/addrtab.cpp).

  The address table holds the group addresses of all objects in ascending
  order, the association table an entry for each address of each object.  An
  object that sends does so to the address of its first entry; that entry is
  put into the slot with the number of the object, the others into the gaps.
-/
import BcuSdk.Lib.Aborting
import BcuSdk.Lib.ExchangeSort
import BcuSdk.Lib.GapFill
import BcuSdk.BcuGen.Device

namespace BcuSdk.BcuGen

open BcuSdk.Lib

/-! ## The addresses of an object -/

/-- `addAddress`. -/
def addAddress (a : List Word16) (addr : Word16) : List Word16 :=
  if addr ∈ a then a else a ++ [addr]

/-- One address of a description: it is checked, and added as an `eibgaddr_t`. -/
def checkAddress (lineno : Int) (a : List Word16) (addr : Int) : Except Die (List Word16) :=
  if addr < 0 ∨ addr > 0xffff then .error (.invalidGroupAddress lineno addr)
  else .ok (addAddress a (BitVec.ofInt 16 addr))

/-- `SendAddress` or `ReadRequestAddress`, if it is there. -/
def checkOutgoing (lineno : Int) (a : List Word16) (addrLineno addr : Int) :
    Except Die (List Word16) :=
  if addrLineno ≠ 0 then checkAddress lineno a addr else .ok a

namespace GroupObject

/-- `BuildObjAddress`. -/
def buildObjAddress (b : BCUType) (o : GroupObject) : Except Die GroupObject := do
  let a ← o.receiveAddress.foldlM (checkAddress o.lineno) []
  let a ← o.readAddress.foldlM (checkAddress o.lineno) a
  if o.updateAddress ≠ [] ∧ b = .bcu12 then
    .error (.updateAddressNotSupported o.lineno)
  else
    let a ← o.updateAddress.foldlM (checkAddress o.lineno) a
    -- the addresses the object sends to come last, unless it receives from them, too
    let a ← checkOutgoing o.lineno a o.sendAddressLineno o.sendAddress
    let a ← checkOutgoing o.lineno a o.readRequestAddressLineno o.readRequestAddress
    return { o with objAddress := a }

/-- `GroupObjectFlag`. -/
def groupObjectFlag (b : BCUType) (o : GroupObject) : Byte :=
  if o.objAddress = [] then
    if b = .bcu12 then 0x80#8 else 0x00#8
  else
    let flag : Byte := match o.priority with
      | .system => 0#8
      | .urgent => 1#8
      | .normal => 2#8
      | .low => 3#8
    let flag := flag ||| 4#8
    let flag := if o.readAddress ≠ [] then flag ||| 8#8 else flag
    let flag := if o.receiveAddress ≠ [] then flag ||| 0x10#8 else flag
    let flag := if o.eeprom then flag ||| 0x20#8 else flag
    let flag := if o.sendAddressLineno ≠ 0 ∨ o.readRequestAddressLineno ≠ 0 then flag ||| 0x40#8
      else flag
    if o.updateAddress ≠ [] ∨ b = .bcu12 then flag ||| 0x80#8 else flag

/-- The test that keeps an address of an object from the gaps: it is the one the object sends to. -/
def InGap (o : GroupObject) (addr : Word16) : Prop :=
  (o.sendAddressLineno = 0 ∧
      (o.readRequestAddressLineno = 0 ∨ o.readRequestAddress ≠ addr.toNat)) ∨
    (o.sendAddressLineno ≠ 0 ∧ o.sendAddress ≠ addr.toNat)

instance (o : GroupObject) (addr : Word16) : Decidable (o.InGap addr) :=
  inferInstanceAs (Decidable (_ ∨ _))

end GroupObject

/-- `BuildObjNo` for one object after the other. -/
def buildObjNo : List GroupObject → Int → List GroupObject × Int
  | [], objno => ([], objno)
  | o :: objs, objno =>
      if o.objAddress ≠ [] then
        let (objs, n) := buildObjNo objs (objno + 1)
        ({ o with objNo := objno } :: objs, n)
      else
        -- an object without an address gets no number
        let (objs, n) := buildObjNo objs objno
        ({ o with objNo := -1 } :: objs, n)

/-! ## The tables -/

/-- `t.ObjNo[k]` and `t.Addr[k]`; `obj` notes the object they were set for. -/
structure Slot where
  objNo : Int
  addr : Nat
  obj : Nat
  deriving DecidableEq, Repr

/-- `AddrTable`, and `used`: where that is 0 nobody has set the slot. -/
structure AddrTable where
  addr : List Word16
  slots : List (Option Slot)
  deriving DecidableEq, Repr

/-- `AddrNo`; its "internal error" is a failed assertion. -/
def addrNo (a : List Word16) (ga : Word16) : Checked Nat :=
  if ga ∈ a then .ok (a.idxOf ga) else .error .assertion

/-- `used[k] = 1; t.ObjNo[k] = …; t.Addr[k] = …`. -/
def putSlot (slots : List (Option Slot)) (k : Nat) (s : Slot) : Checked (List (Option Slot)) :=
  if k < slots.length then .ok (slots.set k (some s)) else .error .outOfBounds

/-- The first pass, from object `i` on. -/
def putSending (addr : List Word16) : Nat → List GroupObject → List (Option Slot) →
    Checked (List (Option Slot))
  | _, [], slots => .ok slots
  | i, o :: objs, slots =>
      if o.sendAddressLineno ≠ 0 then do
        let a ← addrNo addr (BitVec.ofInt 16 o.sendAddress)
        -- the slot is chosen by the place of the object, not by its number
        let slots ← putSlot slots i ⟨o.objNo, a, i⟩
        putSending addr (i + 1) objs slots
      else if o.readRequestAddressLineno ≠ 0 then do
        let a ← addrNo addr (BitVec.ofInt 16 o.readRequestAddress)
        let slots ← putSlot slots i ⟨o.objNo, a, i⟩
        putSending addr (i + 1) objs slots
      else putSending addr (i + 1) objs slots

/-- An address of object `i`. -/
structure ObjectAddress where
  i : Nat
  o : GroupObject
  addr : Word16
  deriving DecidableEq, Repr

/-- All addresses of the objects, from object `i` on. -/
def objectAddresses : Nat → List GroupObject → List ObjectAddress
  | _, [] => []
  | i, o :: objs => o.objAddress.map (fun a => ⟨i, o, a⟩) ++ objectAddresses (i + 1) objs

/-- The second pass: `fn` is the next gap. -/
def putOthers (addr : List Word16) : List ObjectAddress → List (Option Slot) → Nat →
    Checked (List (Option Slot))
  | [], slots, _ => .ok slots
  | p :: ps, slots, fn =>
      if p.o.InGap p.addr then do
        let a ← addrNo addr p.addr
        let slots ← putSlot slots fn ⟨p.o.objNo, a, p.i⟩
        putOthers addr ps slots (nextGap slots (fn + 1))
      else putOthers addr ps slots fn

/-- `t.addr` before it is sorted. -/
def collectAddresses (objs : List GroupObject) : List Word16 :=
  (objs.flatMap (·.objAddress)).foldl addAddress []

/-- `BuildAddrTable`. -/
def buildAddrTable (objs : List GroupObject) : Checked AddrTable := do
  let addr := exchangeSort BitVec.toNat (collectAddresses objs)
  -- one slot for each address of each object
  let maxs := (objs.map (·.objAddress.length)).sum
  let slots ← putSending addr 0 objs (List.replicate maxs none)
  let slots ← putOthers addr (objectAddresses 0 objs) slots (nextGap slots 0)
  return { addr, slots }

/-! ## The tables as text -/

/-- `t.Addr[i]` and `t.ObjNo[i]`, which nobody may have set. -/
def AddrTable.slot (t : AddrTable) (i : Nat) : Checked Slot :=
  match t.slots[i]? with
  | some (some s) => .ok s
  | _ => .error .outOfBounds

/-- The checksum behind a table. -/
def checksumText (b : BCUType) : AsmText := if b ≠ .bcu12 then [.byte [.num 0]] else []

/-- The lines of `printAddrTab` for the address table. -/
def addrText (d : Device) (t : AddrTable) : AsmText :=
  [.inSection .addrtab, .label .addrtab, .byte [.num (t.addr.length + 1)],
      .hword (.num d.physicalAddress)] ++
    t.addr.map (fun a => .hword (.num a.toNat)) ++ checksumText d.bcu ++ [.label .addrtabEnd]

/-- Its lines for an association table with the entries `slots`. -/
def assocText (d : Device) (slots : List Slot) : AsmText :=
  [.inSection .assoctab, .label .assoctab, .byte [.num slots.length]] ++
    slots.map (fun s => .byte [.num (s.addr + 1), .num s.objNo]) ++ checksumText d.bcu ++
    [.label .assoctabEnd]

/-- `printAddrTab` behind `BuildObjNo`; the number of entries is that of the addresses. -/
def printTables (d : Device) (objno : Int) : Aborting Die (AsmText × Device) := do
  let t ← .ofChecked (buildAddrTable d.groupObjects)
  -- not the number of slots that `BuildAddrTable` has filled
  let maxs := t.addr.length
  let slots ← .ofChecked ((List.range maxs).mapM t.slot)
  if objno > 85 then throw .tooManyCommunicationObjects
  else return (addrText d t ++ assocText d slots, { d with objCount := objno })

/-- `printAddrTab`. -/
def printAddrTab (d : Device) : Aborting Die (AsmText × Device) := do
  let objs ← .ofResult (d.groupObjects.mapM (GroupObject.buildObjAddress d.bcu))
  let (objs, objno) := buildObjNo objs 0
  printTables { d with groupObjects := objs } objno

end BcuSdk.BcuGen
