/-
  BcuSdk.BcuGen.Expression

  The conditions of interfaces (bcugen/lib/expr.h) and their check
  (bcugen/lib/check.cpp).

  The check rewrites the tree it walks: names become IDs, and what has no ID
  its default.  The second half of the module says what a condition means.  The
  meaning of the operators is left open.
-/
import BcuSdk.BcuGen.Check

namespace BcuSdk.BcuGen.Description

open BcuSdk.Lib

/-! ## Expressions -/

inductive ArithOp where
  | plus
  | minus
  | mul
  | div
  | mod
  deriving DecidableEq, Repr

inductive CompareOp where
  | le
  | lt
  | gt
  | ge
  | eq
  | ne
  deriving DecidableEq, Repr

/-- `Expr *`, with the fields that the node's `Type` uses. -/
inductive Expr where
  /-- the null pointer -/
  | null
  /-- `E_NONE` -/
  | none
  | and (op1 op2 : Expr)
  | or (op1 op2 : Expr)
  | not (op1 : Expr)
  | compare (op : CompareOp) (op1 op2 : Expr)
  | notNull (op1 : Expr)
  /-- `E_IN` -/
  | isIn (s : CxxString) (id : List CxxString)
  | arith (op : ArithOp) (op1 op2 : Expr)
  | neg (op1 : Expr)
  | int (i : Int)
  | float (f : Float)
  | string (s : CxxString)
  | par (s : CxxString)

/-- `EX_Type`. -/
inductive ExType where
  | int
  | float
  | string
  deriving DecidableEq, Repr

/-! ## The check -/

variable (l : Int) (d : Device)

/-- The inner loop over the elements, and what it puts for the name. -/
def findElement (o : ListParameter) (id : CxxString) : Except CheckError CxxString :=
  match o.elements.find? fun e => e.name = id with
  | some e => .ok e.value
  | none => .error (.lineName l "undefined list element" id)

/-- `CheckExpressionList`. -/
def checkExpressionList : Expr → Except CheckError Expr
  | .isIn s id =>
      match d.listParameters.find? fun o => o.name = s with
      | none => .error (.lineName l "undefined list parameter" s)
      | some o => do
          let id ← id.mapM (findElement l o)
          if o.idLineno = 0 then
            return .notNull (.int (if id.contains o.listDefault then 1 else 0))
          else return .isIn o.id id
  | _ => .error (.line l "no list expression")

/-- The case `E_PAR`: the tables are searched one after the other. -/
def parameterType (s : CxxString) : Except CheckError (ExType × Expr) :=
  match d.stringParameters.find? fun o => o.name = s with
  | some o => .ok (.string, if o.idLineno = 0 then .string o.default else .par o.id)
  | none =>
      match d.intParameters.find? fun o => o.name = s with
      | some o => .ok (.int, if o.idLineno = 0 then .int o.default else .par o.id)
      | none =>
          match d.floatParameters.find? fun o => o.name = s with
          | some o => .ok (.float, if o.idLineno = 0 then .float o.default else .par o.id)
          | none => .error (.lineName l "undefined parameter" s)

/-- `GetExpressionType`, with the tree it leaves. -/
def getExpressionType : Expr → Except CheckError (ExType × Expr)
  | .null => .error (.line l "no expression")
  | .par s => parameterType l d s
  | .int i => .ok (.int, .int i)
  | .float f => .ok (.float, .float f)
  | .string s => .ok (.string, .string s)
  | .neg op1 => do
      let (e1, op1) ← getExpressionType op1
      if e1 ≠ .int ∧ e1 ≠ .float then throw (.line l "unsupported type for negation")
      return (e1, .neg op1)
  | .arith op op1 op2 =>
      if op = .mod then do
        let (e1, op1) ← getExpressionType op1
        if e1 ≠ .int then throw (.line l "unsupported type for modulo operation")
        let (e2, op2) ← getExpressionType op2
        if e2 ≠ .int then throw (.line l "unsupported type for modulo operation")
        return (.int, .arith op op1 op2)
      else do
        let (e1, op1) ← getExpressionType op1
        if e1 ≠ .int ∧ e1 ≠ .float then throw (.line l "unsupported type for aritmetic operation")
        let (e2, op2) ← getExpressionType op2
        if e2 ≠ .int ∧ e2 ≠ .float then throw (.line l "unsupported type for aritmetic operation")
        return (if e1 = .float then .float else if e2 = .float then .float else .int,
          .arith op op1 op2)
  | _ => .error (.line l "invalid expression")

/-- `CheckExpressionCompare`. -/
def checkExpressionCompare (s1 s2 : Expr) : Except CheckError (Expr × Expr) := do
  let (e1, s1) ← getExpressionType l d s1
  let (e2, s2) ← getExpressionType l d s2
  let e1' := if e1 = .int ∧ e2 = .float then .float else e1
  let e2' := if e1' = .float ∧ e2 = .int then .float else e2
  if e1' ≠ e2' then throw (.line l "different types for compare expression")
  return (s1, s2)

/-- `CheckExpressionInt`. -/
def checkExpressionInt (s1 : Expr) : Except CheckError Expr := do
  let (e1, s1) ← getExpressionType l d s1
  if e1 ≠ .int then throw (.line l "expect integer value")
  return s1

/-- `CheckExpressionBool`, with the tree it leaves. -/
def checkExpressionBool : Expr → Except CheckError Expr
  | .null => .error (.line l "no expression")
  | .and op1 op2 => do
      let op1 ← checkExpressionBool op1
      let op2 ← checkExpressionBool op2
      return .and op1 op2
  | .or op1 op2 => do
      let op1 ← checkExpressionBool op1
      let op2 ← checkExpressionBool op2
      return .or op1 op2
  | .not op1 => do
      let op1 ← checkExpressionBool op1
      return .not op1
  | .isIn s id => checkExpressionList l d (.isIn s id)
  | .compare op op1 op2 => do
      let (op1, op2) ← checkExpressionCompare l d op1 op2
      return .compare op op1 op2
  | .notNull op1 => do
      let op1 ← checkExpressionInt l d op1
      return .notNull op1
  | _ => .error (.line l "invalid expression")

/-! ## Types -/

namespace ExType

def Numeric (t : ExType) : Prop := t = int ∨ t = float

/-- The type of the result of an operation on numbers. -/
def join (t u : ExType) : ExType := if t = float ∨ u = float then float else int

/-- Equal types, or two numbers. -/
def Comparable (t u : ExType) : Prop := t = u ∨ t.Numeric ∧ u.Numeric

end ExType

/-- The type of an expression over the names of the parameters. -/
inductive HasType : Expr → ExType → Prop
  | int (i : Int) : HasType (.int i) .int
  | float (f : Float) : HasType (.float f) .float
  | string (s : CxxString) : HasType (.string s) .string
  | stringPar {o : StringParameter} (h : o ∈ d.stringParameters) : HasType (.par o.name) .string
  | intPar {o : IntParameter} (h : o ∈ d.intParameters) : HasType (.par o.name) .int
  | floatPar {o : FloatParameter} (h : o ∈ d.floatParameters) : HasType (.par o.name) .float
  | neg {e : Expr} {t : ExType} (h : HasType e t) (ht : t.Numeric) : HasType (.neg e) t
  | arith {op : ArithOp} {e e' : Expr} {t t' : ExType} (hop : op ≠ .mod) (h : HasType e t)
      (h' : HasType e' t') (ht : t.Numeric) (ht' : t'.Numeric) :
      HasType (.arith op e e') (t.join t')
  | mod {e e' : Expr} (h : HasType e .int) (h' : HasType e' .int) :
      HasType (.arith .mod e e') .int

/-- A condition over the names of the parameters. -/
inductive WellTyped : Expr → Prop
  | and {e e' : Expr} (h : WellTyped e) (h' : WellTyped e') : WellTyped (.and e e')
  | or {e e' : Expr} (h : WellTyped e) (h' : WellTyped e') : WellTyped (.or e e')
  | not {e : Expr} (h : WellTyped e) : WellTyped (.not e)
  | compare {op : CompareOp} {e e' : Expr} {t t' : ExType} (h : HasType d e t)
      (h' : HasType d e' t') (ht : t.Comparable t') : WellTyped (.compare op e e')
  | notNull {e : Expr} (h : HasType d e .int) : WellTyped (.notNull e)
  | isIn {o : ListParameter} {id : List CxxString} (h : o ∈ d.listParameters)
      (hid : ∀ n ∈ id, ∃ e ∈ o.elements, e.name = n) : WellTyped (.isIn o.name id)

/-! ## Meaning -/

inductive Value where
  | int (i : Int)
  | float (f : Float)
  | string (s : CxxString)

/-- What the operators do; an operation may have no result. -/
structure Interpretation where
  neg : Value → Option Value
  arith : ArithOp → Value → Value → Option Value
  compare : CompareOp → Value → Value → Option Bool

/-- What the names in a tree stand for. -/
structure Env where
  /-- the value of a parameter -/
  value : CxxString → Option Value
  /-- what a list parameter is set to -/
  element : CxxString → Option CxxString

variable (I : Interpretation) (ρ : Env)

/-- The value of an expression. -/
def eval : Expr → Option Value
  | .int i => some (.int i)
  | .float f => some (.float f)
  | .string s => some (.string s)
  | .par s => ρ.value s
  | .neg e => eval e >>= I.neg
  | .arith op e e' => do
      let v ← eval e
      let v' ← eval e'
      I.arith op v v'
  | _ => none

/-- `!= 0` of an integer. -/
def isNotNull : Value → Option Bool
  | .int i => some (i ≠ 0)
  | _ => none

/-- Whether a condition holds. -/
def truth : Expr → Option Bool
  | .and e e' => do
      let v ← truth e
      if v then truth e' else return false
  | .or e e' => do
      let v ← truth e
      if v then return true else truth e'
  | .not e => (truth e).map (! ·)
  | .compare op e e' => do
      let v ← eval I ρ e
      let v' ← eval I ρ e'
      I.compare op v v'
  | .notNull e => eval I ρ e >>= isNotNull
  | .isIn s id => (ρ.element s).map fun e => id.contains e
  | _ => none

/-! ## Valuations -/

/-- What the parameters are set to, by their places; a list parameter to one of its elements. -/
structure Setting where
  strings : Nat → CxxString
  ints : Nat → Int
  floats : Nat → Float
  lists : Nat → Nat

/-- The first entry with `p`, and its place. -/
def locate {α : Type} (p : α → Bool) (as : List α) : Option (α × Nat) :=
  as.zipIdx.find? fun a => p a.1

/-- The names of a description. -/
def Env.byName (d : Device) (a : Setting) : Env where
  value name :=
    match locate (·.name = name) d.stringParameters with
    | some (_, i) => some (.string (a.strings i))
    | none =>
        match locate (·.name = name) d.intParameters with
        | some (_, i) => some (.int (a.ints i))
        | none =>
            (locate (·.name = name) d.floatParameters).map fun o => .float (a.floats o.2)
  element name :=
    (locate (·.name = name) d.listParameters).bind fun o =>
      (o.1.elements[a.lists o.2]?).map (·.name)

/-- The IDs that the check has given. -/
def Env.byId (d : Device) (a : Setting) : Env where
  value id :=
    match locate (fun o => o.idLineno ≠ 0 ∧ o.id = id) d.stringParameters with
    | some (_, i) => some (.string (a.strings i))
    | none =>
        match locate (fun o => o.idLineno ≠ 0 ∧ o.id = id) d.intParameters with
        | some (_, i) => some (.int (a.ints i))
        | none =>
            (locate (fun o => o.idLineno ≠ 0 ∧ o.id = id) d.floatParameters).map fun o =>
              .float (a.floats o.2)
  element id :=
    (locate (fun o => o.idLineno ≠ 0 ∧ o.id = id) d.listParameters).bind fun o =>
      (o.1.elements[a.lists o.2]?).map (·.value)

/-- Parameters without an ID have their default value. -/
structure Setting.Defaults (a : Setting) (d : Device) : Prop where
  strings : ∀ i o, d.stringParameters[i]? = some o → o.idLineno = 0 → a.strings i = o.default
  ints : ∀ i o, d.intParameters[i]? = some o → o.idLineno = 0 → a.ints i = o.default
  floats : ∀ i o, d.floatParameters[i]? = some o → o.idLineno = 0 → a.floats i = o.default
  lists : ∀ i o, d.listParameters[i]? = some o → o.idLineno = 0 →
    ∃ e, o.elements[a.lists i]? = some e ∧ e.name = o.default

end BcuSdk.BcuGen.Description
