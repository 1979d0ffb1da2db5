/-
  BcuSdk.BcuGen.GenCode

  The load control records of a device as assembler text
  (bcugen/lib/gencode.cpp).

  A record begins with its length, which counts what is behind it, and its
  type.  The lengths are computed from those of the names that are printed.
-/
import BcuSdk.Common.Image
import BcuSdk.BcuGen.Device

namespace BcuSdk.BcuGen

open BcuSdk.Lib BcuSdk.Common

/-- The number of a BCU type. -/
def BCUType.code : BCUType → Word16
  | .bcu12 => 0x0012#16
  | .bcu20 => 0x0020#16
  | .bcu21 => 0x0021#16
  | .other code => code

/-- The lines that begin a record. -/
def recordText (length : Int) (type : Word16) : AsmText :=
  [.hword (.num length), .hword (.num type.toNat)]

/-! ## printParameterInfo -/

namespace StringParameter

def info (s : StringParameter) : AsmText :=
  if s.idLineno = 0 then []
  else recordText (s.id.1.length + 7) LoadControlType.stringPar ++
    [.hword (.sym (.name s.name)), .hword (.num (s.maxLength + 1)), .string s.id]

end StringParameter

namespace FloatParameter

def info (s : FloatParameter) : AsmText :=
  if s.idLineno = 0 then []
  else recordText (s.id.1.length + 5) LoadControlType.floatPar ++
    [.hword (.sym (.name s.name)), .string s.id]

end FloatParameter

namespace IntParameter

def info (s : IntParameter) : AsmText :=
  if s.idLineno = 0 then []
  else recordText (s.id.1.length + 6) LoadControlType.intPar ++
    [.hword (.sym (.name s.name)), .byte [.num s.size], .string s.id]

end IntParameter

namespace ListParameter

/-- The loop that sums up the lengths of the elements. -/
def elementsLength (s : ListParameter) : Nat :=
  s.elements.foldl (fun l e => l + (e.value.1.length + 1)) 0

def info (s : ListParameter) : AsmText :=
  if s.idLineno = 0 then []
  else recordText (s.id.1.length + 7 + s.elementsLength) LoadControlType.listPar ++
    [.hword (.sym (.name s.name)), .hword (.num s.elements.length), .string s.id] ++
    s.elements.map fun e => .string e.value

end ListParameter

namespace GroupObject

/-- The lines for the object with the index `i`. -/
def info (i : Nat) (s : GroupObject) : AsmText :=
  if s.idLineno = 0 then []
  else recordText (s.id.1.length + 4) LoadControlType.groupObject ++
    [.byte [.num i], .string s.id]

end GroupObject

/-- `printParameterInfo`. -/
def printParameterInfo (d : Device) : AsmText :=
  [.inSection .loadcontrol] ++ (d.stringParameters.flatMap StringParameter.info ++
    d.floatParameters.flatMap FloatParameter.info ++ d.intParameters.flatMap IntParameter.info ++
    d.listParameters.flatMap ListParameter.info ++
    d.groupObjects.zipIdx.flatMap fun p => p.1.info p.2)

/-! ## GenBCUHeader -/

/-- `d.Key[i]` for the three levels. -/
def readKeys (d : Device) : Checked (List Word32) :=
  (List.range 3).mapM fun i =>
    match d.key[i]? with
    | some k => .ok k
    | none => .error .outOfBounds

def bcu2KeyText (d : Device) (keys : List Word32) : AsmText :=
  recordText (4 * 4 + 2) LoadControlType.bcu2Key ++ [.long (.num d.installKey)] ++
    keys.map fun k => .long (.num k.toNat)

/-- The words of the last record. -/
def bcu2InitOperands (d : Device) : List (Operand Label) :=
  [.sym .addrtab, .diff .addrtabEnd .addrtab, .sym .assoctab, .diff .assoctabEnd .assoctab,
    .sym .readonlyStart, .sym .readonlyEnd, .sym .paramStart, .sym .paramEnd, .sym .eibobjects,
    .num d.objects, .sym .sapCallback, .sym .commobjs, .sym .ramStart, .sym .eepromStart,
    if d.usePEI then .sym .peihandler else .num 0, .sym .userInit, .sym .userRun, .sym .userSave,
    .sym .eepromStart, .sym .eepromEnd, .num 0]

def bcu2InitText (d : Device) : AsmText :=
  recordText 45 LoadControlType.bcu2Init ++ (bcu2InitOperands d).map .hword ++ [.byte [.num 0]]

/-- `GenBCUHeader` up to the section of the configuration; it does not come back to this one. -/
def genBCUHeader (d : Device) : Checked AsmText := do
  let head : AsmText := [.includeFile d.bcu.code, .inSection .loadcontrol] ++
    (recordText 4 LoadControlType.bcuType ++ [.hword (.num d.bcu.code.toNat)])
  if d.bcu = .bcu12 then return head ++ [.inSection .bcuconfig]
  else do
    let keys ← readKeys d
    return head ++ bcu2KeyText d keys ++ bcu2InitText d ++ [.inSection .bcuconfig]

end BcuSdk.BcuGen
