/-
  BcuSdk.BcuGen.Device

  What is known of a device (bcugen/struct): its description, and what its
  configuration adds.

  A `_lineno` that is not 0 says that the value is there.  Values nothing here
  reads are left out.
-/
import BcuSdk.Lib.Assembler

namespace BcuSdk.BcuGen

open BcuSdk.Lib

/-! ## Types -/

/-- `BCUType`; a number that is cast to it need not be one of its values. -/
inductive BCUType where
  | bcu12
  | bcu20
  | bcu21
  | other (code : Word16)
  deriving DecidableEq, Repr

/-- `prio_t`. -/
inductive Prio where
  | low
  | normal
  | urgent
  | system
  deriving DecidableEq, Repr

theorem nul_notMem_nil : 0#8 ∉ ([] : List Byte) := List.not_mem_nil

/-- A string nobody has set. -/
def emptyString : CString := ⟨[], nul_notMem_nil⟩

/-! ## The parts of a device -/

structure GroupObject where
  lineno : Int := 0
  id : CString := emptyString
  idLineno : Int := 0
  eeprom : Bool := false
  priority : Prio := .low
  sendAddress : Int := 0
  sendAddressLineno : Int := 0
  readRequestAddress : Int := 0
  readRequestAddressLineno : Int := 0
  receiveAddress : List Int := []
  readAddress : List Int := []
  updateAddress : List Int := []
  objNo : Int := 0
  objAddress : List Word16 := []
  deriving DecidableEq, Repr

structure StringParameter where
  id : CString := emptyString
  idLineno : Int := 0
  name : CString := emptyString
  maxLength : Int := 0
  value : CString := emptyString
  valueLineno : Int := 0
  deriving DecidableEq, Repr

structure IntParameter where
  id : CString := emptyString
  idLineno : Int := 0
  name : CString := emptyString
  /-- `SIZE`, the code of the type; the constructor does not set it. -/
  size : Int := 0
  value : Int := 0
  valueLineno : Int := 0
  deriving DecidableEq, Repr

structure FloatParameter where
  id : CString := emptyString
  idLineno : Int := 0
  name : CString := emptyString
  value : Float := 0
  valueLineno : Int := 0

/-- `Map`, an element of an `IdentMap`. -/
structure Map where
  name : CString := emptyString
  value : CString := emptyString
  deriving DecidableEq, Repr

structure ListParameter where
  id : CString := emptyString
  idLineno : Int := 0
  name : CString := emptyString
  elements : List Map := []
  value : CString := emptyString
  valueLineno : Int := 0
  deriving DecidableEq, Repr

structure KeyMap where
  level : Int
  key : Word32
  deriving DecidableEq, Repr

/-- `Device`; the constructor does not set `BCU`. -/
structure Device where
  bcu : BCUType
  physicalAddress : Int := 0
  installKey : Int := 0
  installKeyLineno : Int := 0
  keys : List KeyMap := []
  groupObjects : List GroupObject := []
  stringParameters : List StringParameter := []
  intParameters : List IntParameter := []
  floatParameters : List FloatParameter := []
  listParameters : List ListParameter := []
  /-- Nothing sets it before `printAddrTab`. -/
  objCount : Int := 0
  /-- `Key`, which `CheckDevice` makes for a BCU 2. -/
  key : List Word32 := []
  /-- `Objects ()`. -/
  objects : Nat := 0
  /-- `UsePEI (d)`. -/
  usePEI : Bool := false

/-! ## Generated text -/

/-- The symbols of the generated assembler text. -/
inductive Label where
  | addrtab
  | addrtabEnd
  | assoctab
  | assoctabEnd
  | readonlyStart
  | readonlyEnd
  | paramStart
  | paramEnd
  | eibobjects
  | sapCallback
  | commobjs
  | ramStart
  | eepromStart
  | eepromEnd
  | peihandler
  | userInit
  | userRun
  | userSave
  /-- A variable of the device. -/
  | name (s : CString)
  deriving DecidableEq, Repr

/-- The sections of the generated assembler text. -/
inductive Section where
  | text
  | addrtab
  | assoctab
  | loadcontrol
  | bcuconfig
  deriving DecidableEq, Repr

/-- Lines of assembler text. -/
abbrev AsmText := List (Directive Label Section)

/-! ## Messages -/

/-- A message of `die`. -/
inductive Die where
  /-- "line %d: invalid group address %X" -/
  | invalidGroupAddress (lineno addr : Int)
  /-- "line %d: UpdateAddress not supported" -/
  | updateAddressNotSupported (lineno : Int)
  /-- "to many communication objectes" -/
  | tooManyCommunicationObjects
  /-- "missing parameter value for %s" -/
  | missingParameterValue (id : CString)
  /-- "string value for %s too long" -/
  | stringValueTooLong (id : CString)
  /-- "unknown type %d for parameter %s" -/
  | unknownType (type : Byte) (id : CString)
  /-- "unknown element %s for parameter %s" -/
  | unknownElement (value id : CString)
  /-- "need %d addresses, only space for %d addresses" -/
  | needAddresses (need space : Nat)
  /-- "need %d associations, only space for %d assocations" -/
  | needAssociations (need space : Nat)
  /-- "unsupported key level %d" -/
  | unsupportedKeyLevel (level : Int)
  /-- "unknown group object" -/
  | unknownGroupObject
  /-- "unknown property" -/
  | unknownProperty
  /-- "unknown polling master" -/
  | unknownPollingMaster
  /-- "unknown polling slave" -/
  | unknownPollingSlave
  /-- "unknown list parameter" -/
  | unknownListParameter
  /-- "unknown int parameter" -/
  | unknownIntParameter
  /-- "unknown float parameter" -/
  | unknownFloatParameter
  /-- "unknown string parameter" -/
  | unknownStringParameter
  deriving DecidableEq, Repr

end BcuSdk.BcuGen
