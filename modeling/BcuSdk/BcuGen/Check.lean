/-
  BcuSdk.BcuGen.Check

  The checks of the parameters in the description of a device
  (bcugen/lib/check.cpp, symboltab.cpp).

  `bcugen1` and `bcugen3` read a description.  A parameter that an interface
  refers to gets the ID of its symbol; every other one keeps its default as
  its value.  What only the rest of `CheckDevice` reads is left out.
-/
import BcuSdk.Lib.Aborting
import BcuSdk.Lib.Decimal

namespace BcuSdk.BcuGen.Description

open BcuSdk.Lib

/-- `String`; `none` is one without data, which is not the empty text. -/
abbrev CxxString := Option CString

/-- `strlen`, which is not called for `none`. -/
def strlen (s : CxxString) : Nat := (s.map (·.1.length)).getD 0

theorem nul_notMem_append {s t : CString} : 0#8 ∉ s.1 ++ t.1 := by
  intro hmem
  obtain hs | ht := List.mem_append.mp hmem
  · exact s.2 hs
  · exact t.2 ht

/-- `operator +`. -/
def CxxString.concat : CxxString → CxxString → CxxString
  | none, t => t
  | some s, none => some s
  | some s, some t => some ⟨s.1 ++ t.1, nul_notMem_append⟩

/-- What a check dies with. -/
inductive CheckError where
  /-- "line %d: missing attribute %s of %s" -/
  | missingAttribute (lineno : Int) (value object : String)
  /-- "line %d: " and the text -/
  | line (lineno : Int) (text : String)
  /-- "line %d: ", the text, and " %s" -/
  | lineName (lineno : Int) (text : String) (name : CxxString)
  /-- "Line %d: symbol %s already defined at line %d" -/
  | symbolDefined (lineno : Int) (name : CxxString) (definedAt : Int)
  deriving DecidableEq, Repr

/-- `undefined`. -/
def undefined (object value : String) (lineno : Int) : CheckError :=
  .missingAttribute lineno value object

/-! ## Symbols -/

structure Symbol where
  name : CxxString
  lineno : Int
  id : CString
  deriving DecidableEq, Repr

theorem nul_notMem_symbolId (n : Nat) : 0#8 ∉ charByte 'i' :: charByte 'd' :: decimal n := by
  intro hmem
  cases hmem with
  | tail _ hmem =>
      cases hmem with
      | tail _ hmem => exact nul_notMem_decimal n hmem

/-- "id%d" -/
def symbolId (n : Nat) : CString :=
  ⟨charByte 'i' :: charByte 'd' :: decimal n, nul_notMem_symbolId n⟩

theorem symbolId_injective : Function.Injective symbolId := by
  intro m n h
  have hbytes : charByte 'i' :: charByte 'd' :: decimal m =
      charByte 'i' :: charByte 'd' :: decimal n := congrArg Subtype.val h
  exact decimal_injective (List.cons.inj (List.cons.inj hbytes).2).2

/-- `syms` and `SymId`, as long as every symbol comes from `NewSymbol`. -/
structure Symbols where
  syms : List Symbol
  symId : Nat
  names : (syms.map (·.name)).Nodup
  ids : syms.map (·.id) = (List.range symId).map symbolId

/-- Before the first symbol. -/
def Symbols.none : Symbols where
  syms := []
  symId := 0
  names := List.nodup_nil
  ids := rfl

/-- The new symbol at the end of `syms`. -/
def Symbols.add (s : Symbols) (name : CxxString) (lineno : Int)
    (h : ∀ sym ∈ s.syms, sym.name ≠ name) : Symbols where
  syms := s.syms ++ [{ name := name, lineno := lineno, id := symbolId s.symId }]
  symId := s.symId + 1
  names := by
    rw [List.map_append, List.map_singleton, List.nodup_append]
    refine ⟨s.names, List.nodup_cons.mpr ⟨List.not_mem_nil, List.nodup_nil⟩, ?_⟩
    intro a ha b hb
    obtain ⟨sym, hsym, rfl⟩ := List.mem_map.mp ha
    rw [List.mem_singleton.mp hb]
    exact h sym hsym
  ids := by
    rw [List.map_append, s.ids, List.range_succ, List.map_append, List.map_singleton,
      List.map_singleton]

/-- `NewSymbol`. -/
def newSymbol (name : CxxString) (lineno : Int) (s : Symbols) :
    Except CheckError (CString × Symbols) :=
  match h : s.syms.find? fun sym => sym.name = name with
  | some sym => .error (.symbolDefined lineno name sym.lineno)
  | none => .ok (symbolId s.symId, s.add name lineno (by simpa using h))

/-! ## The description -/

structure StringParameter where
  lineno : Int := 0
  id : CxxString := none
  idLineno : Int := 0
  name : CxxString := none
  maxLength : Int := 0
  maxLengthLineno : Int := 0
  regExp : CxxString := none
  regExpLineno : Int := 0
  title : CxxString := none
  default : CxxString := none
  defaultLineno : Int := 0
  value : CxxString := none
  valueLineno : Int := 0
  deriving DecidableEq, Repr

structure FloatParameter where
  lineno : Int := 0
  id : CxxString := none
  idLineno : Int := 0
  name : CxxString := none
  minValue : Float := 0
  minValueLineno : Int := 0
  maxValue : Float := 0
  maxValueLineno : Int := 0
  title : CxxString := none
  default : Float := 0
  defaultLineno : Int := 0
  value : Float := 0
  valueLineno : Int := 0

structure IntParameter where
  lineno : Int := 0
  id : CxxString := none
  idLineno : Int := 0
  name : CxxString := none
  minValue : Int := 0
  minValueLineno : Int := 0
  maxValue : Int := 0
  maxValueLineno : Int := 0
  title : CxxString := none
  default : Int := 0
  defaultLineno : Int := 0
  value : Int := 0
  valueLineno : Int := 0
  /-- `SIZE`, the code of the type; the constructor does not set it. -/
  size : Int := 0
  deriving DecidableEq, Repr

/-- `Map`, an element of an `IdentMap`. -/
structure Map where
  name : CxxString := none
  value : CxxString := none
  deriving DecidableEq, Repr

structure ListParameter where
  lineno : Int := 0
  id : CxxString := none
  idLineno : Int := 0
  name : CxxString := none
  elements : List Map := []
  elementsLineno : Int := 0
  title : CxxString := none
  default : CxxString := none
  defaultLineno : Int := 0
  listElements : List Map := []
  listDefault : CxxString := none
  value : CxxString := none
  valueLineno : Int := 0
  /-- `def`; the constructor does not set it. -/
  defIndex : Int := 0
  deriving DecidableEq, Repr

/-- `Interface`, with the names of the objects it refers to. -/
structure Interface where
  reference : List CxxString := []
  deriving DecidableEq, Repr

structure FunctionalBlock where
  interfaces : List Interface := []
  deriving DecidableEq, Repr

structure Device where
  stringParameters : List StringParameter := []
  floatParameters : List FloatParameter := []
  intParameters : List IntParameter := []
  listParameters : List ListParameter := []
  functionalBlocks : List FunctionalBlock := []

/-- `UsedbyInterface`. -/
def usedbyInterface (d : Device) (name : CxxString) : Bool :=
  d.functionalBlocks.any fun b => b.interfaces.any fun i => i.reference.contains name

/-! ## The checks -/

/-- The macros that check.cpp is built with. -/
structure Build where
  check1 : Bool
  check2 : Bool
  deriving DecidableEq, Repr

/-- regexp.cpp, whose work is done by a library. -/
structure RegExps where
  checkRegExp : CxxString → Bool
  validateString : CxxString → CxxString → Bool

variable (b : Build) (x : RegExps) (other : Int → BitVec 32) (d : Device)

/-- The end of each check under `CHECK1`: a symbol, whose ID only a parameter that is `used` by an
interface keeps. -/
def number {α : Type} (name : CxxString) (lineno : Int) (used : CString → α) (unused : α)
    (s : Symbols) : Except CheckError (α × Symbols) := do
  let (id, s) ← newSymbol name lineno s
  return (if usedbyInterface d name then used id else unused, s)

namespace StringParameter

/-- Under `CHECK1`. -/
def check1 (o : StringParameter) (s : Symbols) :
    Except CheckError (StringParameter × Symbols) := do
  if o.title = none then throw (undefined "StringParameter" "Title" o.lineno)
  if o.default = none then throw (undefined "StringParameter" "Default" o.lineno)
  if strlen o.default ≥ o.maxLength then throw (.line o.defaultLineno "default value too long")
  if o.regExp ≠ none ∧ !x.validateString o.regExp o.default then
    throw (.line o.defaultLineno "Default does not match regular expression")
  number d o.name o.lineno (fun id => { o with id := some id, idLineno := o.lineno })
    { o with id := none, value := o.default, valueLineno := o.defaultLineno } s

/-- Under `CHECK2`. -/
def check2 (o : StringParameter) : Except CheckError Unit := do
  if o.value = none then throw (.line o.lineno "No value defined")
  if strlen o.value ≥ o.maxLength then throw (.line o.lineno "value too long")
  if o.regExp ≠ none ∧ !x.validateString o.regExp o.value then
    throw (.line o.lineno "value does not match regular expression")

end StringParameter

/-- `CheckStringParameter`. -/
def checkStringParameter (o : StringParameter) (s : Symbols) :
    Except CheckError (StringParameter × Symbols) := do
  if o.name = none then throw (undefined "StringParameter" "Name" o.lineno)
  if o.maxLengthLineno = 0 then throw (undefined "StringParameter" "MaxLength" o.lineno)
  if o.maxLength < 0 then throw (.line o.maxLengthLineno "negative string len")
  if o.regExp ≠ none ∧ !x.checkRegExp o.regExp then
    throw (.line o.regExpLineno "invalid regular expression")
  let (o, s) ← (if b.check1 then o.check1 x d s else pure (o, s))
  let _ ← (if b.check2 then o.check2 x else pure ())
  return (o, s)

namespace FloatParameter

/-- Under `CHECK1`. -/
def check1 (o : FloatParameter) (s : Symbols) :
    Except CheckError (FloatParameter × Symbols) := do
  if o.title = none then throw (undefined "FloatParameter" "Title" o.lineno)
  if o.defaultLineno = 0 then throw (undefined "FloatParameter" "Default" o.lineno)
  if o.default < o.minValue then throw (.line o.defaultLineno "Default< MinValue")
  if o.default > o.maxValue then throw (.line o.defaultLineno "Default> MaxValue")
  number d o.name o.lineno (fun id => { o with id := some id, idLineno := o.lineno })
    { o with id := none, value := o.default, valueLineno := o.defaultLineno } s

/-- Under `CHECK2`. -/
def check2 (o : FloatParameter) : Except CheckError Unit := do
  if o.valueLineno = 0 then throw (.line o.lineno "No value defined")
  if o.value < o.minValue then throw (.line o.lineno "Value< MinValue")
  if o.value > o.maxValue then throw (.line o.lineno "Value> MaxValue")

end FloatParameter

/-- `CheckFloatParameter`. -/
def checkFloatParameter (o : FloatParameter) (s : Symbols) :
    Except CheckError (FloatParameter × Symbols) := do
  if o.name = none then throw (undefined "FloatParameter" "Name" o.lineno)
  if o.minValueLineno = 0 then throw (undefined "FloatParameter" "MinValue" o.lineno)
  if o.maxValueLineno = 0 then throw (undefined "FloatParameter" "MaxValue" o.lineno)
  if o.minValue > o.maxValue then throw (.line o.maxValueLineno "MinValue > MaxValue")
  let (o, s) ← (if b.check1 then o.check1 d s else pure (o, s))
  let _ ← (if b.check2 then o.check2 else pure ())
  return (o, s)

namespace IntParameter

/-- Under `CHECK1`. -/
def check1 (o : IntParameter) (s : Symbols) : Except CheckError (IntParameter × Symbols) := do
  if o.title = none then throw (undefined "IntParameter" "Title" o.lineno)
  if o.defaultLineno = 0 then throw (undefined "IntParameter" "Default" o.lineno)
  if o.default < o.minValue then throw (.line o.defaultLineno "Default< MinValue")
  if o.default > o.maxValue then throw (.line o.defaultLineno "Default> MaxValue")
  number d o.name o.lineno (fun id => { o with id := some id, idLineno := o.lineno })
    { o with id := none, value := o.default, valueLineno := o.defaultLineno } s

/-- Under `CHECK2`. -/
def check2 (o : IntParameter) : Except CheckError Unit := do
  if o.valueLineno = 0 then throw (.line o.lineno "No value defined")
  if o.value < o.minValue then throw (.line o.lineno "Value< MinValue")
  if o.value > o.maxValue then throw (.line o.lineno "Value> MaxValue")

end IntParameter

/-- `abs (x)` as an `int`; `other` tells what comes of a number whose amount is no `int`. -/
def absInt (x : Int) : BitVec 32 :=
  if x.natAbs < 2 ^ 31 then BitVec.ofInt 32 x.natAbs else other x

/-- The end of `CheckIntParameter`. -/
def sizeCode (minValue maxValue : Int) : Int :=
  let i := (absInt other minValue).toInt
  let j := (absInt other maxValue).toInt
  -- this changes `j`, which is not read again
  let _j := if i < j then i else j
  if minValue < 0 then
    if i ≤ 127 then -1 else if i ≤ 32767 then -2 else if i ≤ 2147483647 then -3 else -4
  else
    -- in the last comparison `i` becomes an `unsigned`
    if i ≤ 255 then 1 else if i ≤ 65535 then 2
    else if (absInt other minValue).toNat ≤ 4294967295 then 3 else 4

/-- `CheckIntParameter`. -/
def checkIntParameter (o : IntParameter) (s : Symbols) :
    Except CheckError (IntParameter × Symbols) := do
  if o.name = none then throw (undefined "IntParameter" "Name" o.lineno)
  if o.minValueLineno = 0 then throw (undefined "IntParameter" "MinValue" o.lineno)
  if o.maxValueLineno = 0 then throw (undefined "IntParameter" "MaxValue" o.lineno)
  if o.minValue > o.maxValue then throw (.line o.maxValueLineno "MinValue > MaxValue")
  let (o, s) ← (if b.check1 then o.check1 d s else pure (o, s))
  let _ ← (if b.check2 then o.check2 else pure ())
  return ({ o with size := sizeCode other o.minValue o.maxValue }, s)

/-- A loop in which a check goes over an array. -/
def checkAll {α : Type} (f : α → Symbols → Except CheckError (α × Symbols)) :
    List α → Symbols → Except CheckError (List α × Symbols)
  | [], s => .ok ([], s)
  | a :: as, s => do
      let (a, s) ← f a s
      let (as, s) ← checkAll f as s
      return (a :: as, s)

/-- The last place with `p` from the place `i` on, else `df`. -/
def lastIndex {α : Type} (p : α → Bool) : List α → Nat → Option Nat → Option Nat
  | [], _, df => df
  | a :: as, i, df => lastIndex p as (i + 1) (if p a then some i else df)

/-- The symbol of an element, whose ID becomes the value. -/
def numberElement (lineno : Int) (e : Map) (s : Symbols) : Except CheckError (Map × Symbols) := do
  let (id, s) ← newSymbol e.name lineno s
  return ({ e with value := some id }, s)

/-- "_t" -/
def typeSuffix : CString := ⟨[charByte '_', charByte 't'], by decide⟩

/-- `Elements[i].Value`. -/
def valueAt (elements : List Map) (i : Option Nat) : CxxString :=
  (i.bind (elements[·]?)).bind (·.value)

namespace ListParameter

/-- Under `CHECK1`. -/
def check1 (o : ListParameter) (s : Symbols) : Except CheckError (ListParameter × Symbols) := do
  if o.title = none then throw (undefined "ListParameter" "Title" o.lineno)
  if o.default = none then throw (undefined "ListParameter" "Default" o.lineno)
  let (elements, s) ← checkAll (numberElement o.elementsLineno) o.elements s
  let listElements := List.zipWith (fun e e' => { name := e'.value, value := e.value })
    o.elements elements
  match lastIndex (fun e => e.name = o.default) elements 0 none with
  | none => throw (.line o.defaultLineno "unknown default value")
  | some df =>
      let vl := lastIndex (fun e => e.name = o.value) elements 0 none
      if o.valueLineno ≠ 0 ∧ vl = none then throw (.line o.valueLineno "unknown value")
      let value := if o.valueLineno ≠ 0 then valueAt elements vl else o.value
      let (_, s) ← newSymbol (o.name.concat (some typeSuffix)) o.lineno s
      let dflt := valueAt elements (some df)
      let o := { o with elements, listElements, value, listDefault := dflt, defIndex := df }
      number d o.name o.lineno (fun id => { o with id := some id, idLineno := o.lineno })
        { o with id := none, value := dflt, valueLineno := o.defaultLineno } s

/-- Under `CHECK2`; without `CHECK1` there is no place yet. -/
def check2 (o : ListParameter) (df : Option Nat) : Except CheckError ListParameter := do
  if o.value = none then throw (undefined "ListParameter" "Value" o.lineno)
  match lastIndex (fun e => e.value = o.value) o.elements 0 df with
  | none => throw (.line o.defaultLineno "unknown default value")
  | some df => return { o with defIndex := df }

end ListParameter

/-- `CheckListParameter`. -/
def checkListParameter (o : ListParameter) (s : Symbols) :
    Except CheckError (ListParameter × Symbols) := do
  if o.name = none then throw (undefined "ListParameter" "Name" o.lineno)
  if o.elementsLineno = 0 then throw (undefined "ListParameter" "Elements" o.lineno)
  if o.elements = [] then throw (.line o.elementsLineno "no enumeration values")
  let (o, s) ← (if b.check1 then o.check1 d s else pure ({ o with defIndex := -1 }, s))
  let df := if b.check1 then some o.defIndex.toNat else none
  let o ← (if b.check2 then o.check2 df else pure o)
  return (o, s)

/-- The loops over the parameters in `CheckDevice`. -/
def checkParameters (s : Symbols) : Except CheckError (Device × Symbols) := do
  let (strings, s) ← checkAll (checkStringParameter b x d) d.stringParameters s
  let (floats, s) ← checkAll (checkFloatParameter b d) d.floatParameters s
  let (ints, s) ← checkAll (checkIntParameter b other d) d.intParameters s
  let (lists, s) ← checkAll (checkListParameter b d) d.listParameters s
  return ({ d with
    stringParameters := strings
    floatParameters := floats
    intParameters := ints
    listParameters := lists }, s)

end BcuSdk.BcuGen.Description
