/-
  BcuSdk.Common.Image

  BCU memory images (common/image.h, image.cpp): the streams with their init
  and toArray, and the image they make up.

  `init` answers `none` where the source returns false.  A stream writes its
  length modulo 2^16, and bytes it writes past the array it allocated by that
  length are a fault.
-/
import BcuSdk.Lib.Buffer
import BcuSdk.Lib.CString

namespace BcuSdk.Common

open BcuSdk.Lib

/-- `CArray`. -/
abbrev CArray := List Byte

/-! ## Stream types (common/loadctl.h) -/

namespace LoadControlType

/-- `L_CODE`. -/
def code : Word16 := 1#16

/-- `L_BCU1_SIZE`. -/
def bcu1Size : Word16 := 2#16

/-- `L_BCU2_SIZE`. -/
def bcu2Size : Word16 := 3#16

/-- `L_BCU_TYPE`. -/
def bcuType : Word16 := 100#16

/-- `L_BCU2_INIT`. -/
def bcu2Init : Word16 := 101#16

/-- `L_BCU2_KEY`. -/
def bcu2Key : Word16 := 102#16

/-- `L_STRING_PAR`. -/
def stringPar : Word16 := 500#16

/-- `L_INT_PAR`. -/
def intPar : Word16 := 501#16

/-- `L_FLOAT_PAR`. -/
def floatPar : Word16 := 502#16

/-- `L_LIST_PAR`. -/
def listPar : Word16 := 503#16

/-- `L_GROUP_OBJECT`. -/
def groupObject : Word16 := 504#16

end LoadControlType

/-! ## Streams -/

structure STRUnknown where
  type : Word16
  data : CArray
  deriving DecidableEq, Repr

structure STRBCUType where
  bcutype : Word16
  deriving DecidableEq, Repr

structure STRCode where
  code : CArray
  deriving DecidableEq, Repr

structure STRStringParameter where
  addr : Word16
  length : Word16
  name : CString
  deriving DecidableEq, Repr

structure STRIntParameter where
  addr : Word16
  /-- An `int8_t`. -/
  type : Byte
  name : CString
  deriving DecidableEq, Repr

structure STRFloatParameter where
  addr : Word16
  name : CString
  deriving DecidableEq, Repr

structure STRListParameter where
  addr : Word16
  name : CString
  elements : List CString
  deriving DecidableEq, Repr

structure STRGroupObject where
  no : Byte
  name : CString
  deriving DecidableEq, Repr

structure STRBCU1Size where
  textsize : Word16
  stacksize : Word16
  datasize : Word16
  bsssize : Word16
  deriving DecidableEq, Repr

structure STRBCU2Size where
  textsize : Word16
  stacksize : Word16
  loDatasize : Word16
  loBsssize : Word16
  hiDatasize : Word16
  hiBsssize : Word16
  deriving DecidableEq, Repr

structure STRBCU2Start where
  addrtabStart : Word16
  addrtabSize : Word16
  assoctabStart : Word16
  assoctabSize : Word16
  readonlyStart : Word16
  readonlyEnd : Word16
  paramStart : Word16
  paramEnd : Word16
  objPtr : Word16
  objCount : Word16
  appcallback : Word16
  groupobjPtr : Word16
  seg0 : Word16
  seg1 : Word16
  sphandler : Word16
  initaddr : Word16
  runaddr : Word16
  saveaddr : Word16
  eepromStart : Word16
  eepromEnd : Word16
  pollAddr : Word16
  pollSlot : Byte
  deriving DecidableEq, Repr

structure STRBCU2Key where
  installkey : Word32
  keys : List Word32
  deriving DecidableEq, Repr

/-- The classes derived from `STR_Stream`. -/
inductive STRStream where
  | invalid (data : CArray)
  | unknown (s : STRUnknown)
  | bcuType (s : STRBCUType)
  | code (s : STRCode)
  | stringParameter (s : STRStringParameter)
  | intParameter (s : STRIntParameter)
  | floatParameter (s : STRFloatParameter)
  | listParameter (s : STRListParameter)
  | groupObject (s : STRGroupObject)
  | bcu1Size (s : STRBCU1Size)
  | bcu2Size (s : STRBCU2Size)
  | bcu2Start (s : STRBCU2Start)
  | bcu2Key (s : STRBCU2Key)
  deriving DecidableEq, Repr

/-! ## Encoding -/

/-- The bytes of a word, the high one first. -/
def wordBytes (w : Word16) : CArray := [hiByte w, loByte w]

/-- The bytes of a key, the high one first. -/
def keyBytes (k : Word32) : CArray := [byteOf k 3, byteOf k 2, byteOf k 1, byteOf k 0]

/-- A stream of the given type.  The fields in `fixed` are stored into the array of the size that
    the length word allows, `tail` is put behind them and makes the array grow. -/
def encode (type : Word16) (fixed tail : CArray) : Checked CArray :=
  let len := BitVec.ofNat 16 (2 + fixed.length + tail.length)
  if 2 + len.toNat < 4 + fixed.length then .error .outOfBounds
  else .ok (wordBytes len ++ wordBytes type ++ fixed ++ tail)

namespace STRUnknown

def toArray (s : STRUnknown) : Checked CArray := encode s.type [] s.data

end STRUnknown

namespace STRBCUType

def toArray (s : STRBCUType) : Checked CArray :=
  encode LoadControlType.bcuType (wordBytes s.bcutype) []

end STRBCUType

namespace STRCode

def toArray (s : STRCode) : Checked CArray := encode LoadControlType.code [] s.code

end STRCode

namespace STRStringParameter

def toArray (s : STRStringParameter) : Checked CArray :=
  encode LoadControlType.stringPar (wordBytes s.addr ++ wordBytes s.length) (s.name.1 ++ [0#8])

end STRStringParameter

namespace STRIntParameter

def toArray (s : STRIntParameter) : Checked CArray :=
  encode LoadControlType.intPar (wordBytes s.addr ++ [s.type]) (s.name.1 ++ [0#8])

end STRIntParameter

namespace STRFloatParameter

def toArray (s : STRFloatParameter) : Checked CArray :=
  encode LoadControlType.floatPar (wordBytes s.addr) (s.name.1 ++ [0#8])

end STRFloatParameter

namespace STRListParameter

/-- The loop that puts each element at `p` and moves `p`, a 16-bit word, behind it. -/
def putElements : List CString → CArray → Word16 → CArray
  | [], d, _ => d
  | e :: elements, d, p =>
      putElements elements (setpart d (e.1 ++ [0#8]) p.toNat)
        (p + BitVec.ofNat 16 (e.1.length + 1))

/-- `STR_ListParameter::toArray`; its 16-bit counter does not get past 65535 elements. -/
def toArray (fresh : Nat → Byte) (s : STRListParameter) : Checked CArray := do
  check (s.elements.length < 65536)
  let len := BitVec.ofNat 16 (7 + s.name.1.length + (terminated s.elements).length)
  if 2 + len.toNat < 8 then .error .outOfBounds
  else
    let d := wordBytes len ++ wordBytes LoadControlType.listPar ++ wordBytes s.addr ++
      wordBytes (BitVec.ofNat 16 s.elements.length) ++ resize fresh (2 + len.toNat - 8)
    let d := setpart d (s.name.1 ++ [0#8]) 8
    return putElements s.elements d (BitVec.ofNat 16 (8 + s.name.1.length + 1))

end STRListParameter

namespace STRGroupObject

def toArray (s : STRGroupObject) : Checked CArray :=
  encode LoadControlType.groupObject [s.no] (s.name.1 ++ [0#8])

end STRGroupObject

namespace STRBCU1Size

/-- The fields in the order of the stream. -/
def words (s : STRBCU1Size) : List Word16 := [s.textsize, s.stacksize, s.datasize, s.bsssize]

def toArray (s : STRBCU1Size) : Checked CArray :=
  encode LoadControlType.bcu1Size (s.words.flatMap wordBytes) []

end STRBCU1Size

namespace STRBCU2Size

/-- The fields in the order of the stream. -/
def words (s : STRBCU2Size) : List Word16 :=
  [s.textsize, s.stacksize, s.loDatasize, s.loBsssize, s.hiDatasize, s.hiBsssize]

def toArray (s : STRBCU2Size) : Checked CArray :=
  encode LoadControlType.bcu2Size (s.words.flatMap wordBytes) []

end STRBCU2Size

namespace STRBCU2Start

/-- The 16-bit fields in the order of the stream. -/
def words (s : STRBCU2Start) : List Word16 :=
  [s.addrtabStart, s.addrtabSize, s.assoctabStart, s.assoctabSize, s.readonlyStart,
    s.readonlyEnd, s.paramStart, s.paramEnd, s.objPtr, s.objCount, s.appcallback, s.groupobjPtr,
    s.seg0, s.seg1, s.sphandler, s.initaddr, s.runaddr, s.saveaddr, s.eepromStart, s.eepromEnd,
    s.pollAddr]

def toArray (s : STRBCU2Start) : Checked CArray :=
  encode LoadControlType.bcu2Init (s.words.flatMap wordBytes ++ [s.pollSlot]) []

end STRBCU2Start

namespace STRBCU2Key

def toArray (s : STRBCU2Key) : Checked CArray :=
  encode LoadControlType.bcu2Key (keyBytes s.installkey ++ s.keys.flatMap keyBytes) []

end STRBCU2Key

namespace STRStream

/-- `toArray` of the class; `fresh` is what newly allocated memory holds. -/
def toArray (fresh : Nat → Byte) : STRStream → Checked CArray
  | invalid data => .ok data
  | unknown s => s.toArray
  | bcuType s => s.toArray
  | code s => s.toArray
  | stringParameter s => s.toArray
  | intParameter s => s.toArray
  | floatParameter s => s.toArray
  | listParameter s => s.toArray fresh
  | groupObject s => s.toArray
  | bcu1Size s => s.toArray
  | bcu2Size s => s.toArray
  | bcu2Start s => s.toArray
  | bcu2Key s => s.toArray

end STRStream

/-! ## Decoding -/

/-- `c[i] << 8 | c[i + 1]`. -/
def readWord (c : CArray) (i : Nat) : Checked Word16 := do
  let hi ← readByte c i
  let lo ← readByte c (i + 1)
  return word16 hi lo

/-- `(c[i] << 24) | (c[i + 1] << 16) | (c[i + 2] << 8) | c[i + 3]`. -/
def readKey (c : CArray) (i : Nat) : Checked Word32 := do
  let b3 ← readByte c i
  let b2 ← readByte c (i + 1)
  let b1 ← readByte c (i + 2)
  let b0 ← readByte c (i + 3)
  return word32 b3 b2 b1 b0

/-- The check that four classes make of their name: the array ends with the first NUL from
    `start` on. -/
def readName (c : CArray) (start : Nat) : Checked (Option CString) := do
  let last ← readByte c (c.length - 1)
  if last ≠ 0#8 then return none
  let name ← cstring (c.drop start)
  if start + name.1.length ≠ c.length - 1 then return none
  return some name

namespace STRUnknown

def init (c : CArray) : Checked (Option STRUnknown) := do
  let data ← readSlice c 4 (c.length - 4)
  let type ← readWord c 2
  return some { type, data }

end STRUnknown

namespace STRBCUType

def init (c : CArray) : Checked (Option STRBCUType) := do
  if c.length ≠ 6 then return none
  let bcutype ← readWord c 4
  return some { bcutype }

end STRBCUType

namespace STRCode

def init (c : CArray) : Checked (Option STRCode) := do
  let code ← readSlice c 4 (c.length - 4)
  return some { code }

end STRCode

namespace STRStringParameter

def init (c : CArray) : Checked (Option STRStringParameter) := do
  if c.length < 9 then return none
  let addr ← readWord c 4
  let length ← readWord c 6
  let some name ← readName c 8 | return none
  return some { addr, length, name }

end STRStringParameter

namespace STRIntParameter

def init (c : CArray) : Checked (Option STRIntParameter) := do
  if c.length < 8 then return none
  let addr ← readWord c 4
  let type ← readByte c 6
  let some name ← readName c 7 | return none
  return some { addr, type, name }

end STRIntParameter

namespace STRFloatParameter

def init (c : CArray) : Checked (Option STRFloatParameter) := do
  if c.length < 7 then return none
  let addr ← readWord c 4
  let some name ← readName c 6 | return none
  return some { addr, name }

end STRFloatParameter

namespace STRListParameter

/-- The loop over `el` elements: the elements read from `d` on, and the position behind them. -/
def readElements (c : CArray) : Nat → Nat → Checked (Option (List CString × Nat))
  | 0, d => return some ([], d)
  | el + 1, d => do
      -- `while (*d)`, which may begin behind the last byte
      let s ← cstring (c.drop d)
      let e := d + s.1.length
      if e > c.length - 1 then return none
      let d := e + 1
      if d > c.length then return none
      let some (elements, d) ← readElements c el d | return none
      return some (s :: elements, d)

def init (c : CArray) : Checked (Option STRListParameter) := do
  if c.length < 9 then return none
  let addr ← readWord c 4
  let el ← readWord c 6
  let last ← readByte c (c.length - 1)
  if last ≠ 0#8 then return none
  let name ← cstring (c.drop 8)
  let d := 8 + name.1.length
  if d > c.length - 1 then return none
  let d := d + 1
  -- a list without elements ends here, and is refused
  if d > c.length - 1 then return none
  let some (elements, d) ← readElements c el.toNat d | return none
  if d ≠ c.length then return none
  return some { addr, name, elements }

end STRListParameter

namespace STRGroupObject

def init (c : CArray) : Checked (Option STRGroupObject) := do
  if c.length < 6 then return none
  let no ← readByte c 4
  let some name ← readName c 5 | return none
  return some { no, name }

end STRGroupObject

namespace STRBCU1Size

def init (c : CArray) : Checked (Option STRBCU1Size) := do
  if c.length ≠ 12 then return none
  let textsize ← readWord c 4
  let stacksize ← readWord c 6
  let datasize ← readWord c 8
  let bsssize ← readWord c 10
  return some { textsize, stacksize, datasize, bsssize }

end STRBCU1Size

namespace STRBCU2Size

def init (c : CArray) : Checked (Option STRBCU2Size) := do
  if c.length ≠ 16 then return none
  let textsize ← readWord c 4
  let stacksize ← readWord c 6
  let loDatasize ← readWord c 8
  let loBsssize ← readWord c 10
  let hiDatasize ← readWord c 12
  let hiBsssize ← readWord c 14
  return some { textsize, stacksize, loDatasize, loBsssize, hiDatasize, hiBsssize }

end STRBCU2Size

namespace STRBCU2Start

def init (c : CArray) : Checked (Option STRBCU2Start) := do
  if c.length ≠ 47 then return none
  let addrtabStart ← readWord c 4
  let addrtabSize ← readWord c 6
  let assoctabStart ← readWord c 8
  let assoctabSize ← readWord c 10
  let readonlyStart ← readWord c 12
  let readonlyEnd ← readWord c 14
  let paramStart ← readWord c 16
  let paramEnd ← readWord c 18
  let objPtr ← readWord c 20
  let objCount ← readWord c 22
  let appcallback ← readWord c 24
  let groupobjPtr ← readWord c 26
  let seg0 ← readWord c 28
  let seg1 ← readWord c 30
  let sphandler ← readWord c 32
  let initaddr ← readWord c 34
  let runaddr ← readWord c 36
  let saveaddr ← readWord c 38
  let eepromStart ← readWord c 40
  let eepromEnd ← readWord c 42
  let pollAddr ← readWord c 44
  let pollSlot ← readByte c 46
  return some
    { addrtabStart, addrtabSize, assoctabStart, assoctabSize, readonlyStart, readonlyEnd,
      paramStart, paramEnd, objPtr, objCount, appcallback, groupobjPtr, seg0, seg1, sphandler,
      initaddr, runaddr, saveaddr, eepromStart, eepromEnd, pollAddr, pollSlot }

end STRBCU2Start

namespace STRBCU2Key

def init (c : CArray) : Checked (Option STRBCU2Key) := do
  if c.length % 4 ≠ 0 then return none
  if c.length < 8 then return none
  let installkey ← readKey c 4
  -- all words behind the header and the install key
  let keys ← (List.range (c.length / 4 - 2)).mapM fun i => readKey c (8 + 4 * i)
  return some { installkey, keys }

end STRBCU2Key

namespace STRStream

/-- `init` of the class for the given type. -/
def initOf (type : Word16) (c : CArray) : Checked (Option STRStream) :=
  if type = LoadControlType.stringPar then return (← STRStringParameter.init c).map stringParameter
  else if type = LoadControlType.intPar then return (← STRIntParameter.init c).map intParameter
  else if type = LoadControlType.floatPar then
    return (← STRFloatParameter.init c).map floatParameter
  else if type = LoadControlType.listPar then return (← STRListParameter.init c).map listParameter
  else if type = LoadControlType.groupObject then
    return (← STRGroupObject.init c).map groupObject
  else if type = LoadControlType.bcuType then return (← STRBCUType.init c).map bcuType
  else if type = LoadControlType.bcu2Init then return (← STRBCU2Start.init c).map bcu2Start
  else if type = LoadControlType.code then return (← STRCode.init c).map code
  else if type = LoadControlType.bcu1Size then return (← STRBCU1Size.init c).map bcu1Size
  else if type = LoadControlType.bcu2Size then return (← STRBCU2Size.init c).map bcu2Size
  else if type = LoadControlType.bcu2Key then return (← STRBCU2Key.init c).map bcu2Key
  else return (← STRUnknown.init c).map unknown

/-- `STR_Stream::fromArray`. -/
def fromArray (c : CArray) : Checked STRStream := do
  check (4 ≤ c.length)
  let len ← readWord c 0
  check (len.toNat + 2 = c.length)
  let type ← readWord c 2
  -- a stream its class refuses is kept as bytes
  let some s ← initOf type c | return invalid c
  return s

end STRStream

/-! ## Images -/

/-- `Image`. -/
structure Image where
  str : List STRStream
  deriving DecidableEq, Repr

namespace Image

/-- The eight bytes every image begins with. -/
def magic : CArray := [0xbc#8, 0x68#8, 0x0c#8, 0x05#8, 0xbc#8, 0x68#8, 0x0c#8, 0x05#8]

/-- `Image::toArray`. -/
def toArray (fresh : Nat → Byte) (img : Image) : Checked CArray := do
  let arrays ← img.str.mapM (STRStream.toArray fresh)
  return magic ++ wordBytes (BitVec.ofNat 16 (10 + arrays.flatten.length)) ++ arrays.flatten

/-- The head of the loop of `fromArray`: the bytes of the stream at `pos`, and the position after
    it, which is a 16-bit word. -/
def nextStream (c : CArray) (pos : Word16) : Checked (Option (CArray × Word16)) := do
  -- also a stream of four bytes at the very end is refused
  if pos.toNat + 4 ≥ c.length then return none
  let len ← readWord c pos.toNat
  if pos.toNat + 2 + len.toNat > c.length ∨ len.toNat < 2 then return none
  let stream ← readSlice c pos.toNat (len.toNat + 2)
  return some (stream, pos + (2#16 + len))

/-- The loop of `fromArray` for at most so many rounds; `none` if these are not enough. -/
def loop (decode : CArray → Checked STRStream) (c : CArray) :
    Nat → Word16 → Option (Checked (Option (List STRStream)))
  | 0, _ => none
  | rounds + 1, pos =>
      if pos.toNat < c.length then
        match nextStream c pos with
        | .error e => some (.error e)
        | .ok none => some (.ok none)
        | .ok (some (stream, pos)) =>
            match decode stream with
            | .error e => some (.error e)
            | .ok s => (loop decode c rounds pos).map (·.map (·.map (s :: ·)))
      else some (.ok (some []))

/-- The checks of `fromArray` in front of its loop. -/
def headerOk (c : CArray) : Bool :=
  10 ≤ c.length && c.take 8 == magic && (c.drop 8).take 2 == wordBytes (BitVec.ofNat 16 c.length)

/-- `Image::fromArray` for at most so many rounds of its loop. -/
def fromArrayFuel (c : CArray) (rounds : Nat) : Option (Checked (Option Image)) :=
  if headerOk c then
    (loop STRStream.fromArray c rounds 10#16).map (·.map (·.map Image.mk))
  else some (.ok none)

/-- `Image::fromArray` comes to an end with the result `r`. -/
def FromArray (c : CArray) (r : Checked (Option Image)) : Prop :=
  ∃ rounds, fromArrayFuel c rounds = some r

end Image

end BcuSdk.Common
