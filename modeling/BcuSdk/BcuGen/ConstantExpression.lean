/-
  BcuSdk.BcuGen.ConstantExpression

  Constant integer expressions in a configuration file (`intc` in
  bcugen/configfile/parser.pre).

  The lines of `%left` name the operators from the tightest one of C to the
  loosest.  A later line binds tighter, so the levels are those of C in the
  opposite order.  An expression is grouped as in C exactly when nothing in it
  depends on the order: the operators between two parentheses have one level,
  and the unary ones stand behind the last binary one.
-/
import BcuSdk.Lib.OperatorPrecedence

namespace BcuSdk.BcuGen.ConstantExpression

open BcuSdk.Lib.OperatorPrecedence

/-! ## The grammar -/

/-- The operators of `intc`, and `NEG`, which is no token. -/
inductive Terminal where
  | neg
  | bang
  | tilde
  | mul
  | div
  | mod
  | plus
  | minus
  | lshift
  | rshift
  | lt
  | gt
  | ge
  | le
  | ne
  | eq
  | bitAnd
  | bitXor
  | bitOr
  | and
  | or
  deriving DecidableEq, Repr

/-- `long int intval` -/
abbrev Long := BitVec 64

abbrev IntcToken := Token Long Terminal

abbrev IntcTree := Tree Long Terminal

def isUnary : Terminal → Bool
  | .minus | .bang | .tilde => true
  | _ => false

def isBinary : Terminal → Bool
  | .neg | .bang | .tilde => false
  | _ => true

/-- The lines of `%left`. -/
def left : List (List Terminal) :=
  [[.neg, .bang, .tilde],
    [.mul, .div, .mod],
    [.plus, .minus],
    [.lshift, .rshift],
    [.lt, .gt, .ge, .le],
    [.ne, .eq],
    [.bitAnd],
    [.bitXor],
    [.bitOr],
    [.and],
    [.or]]

/-- The line of an operator; a later one binds tighter. -/
def declaredLevel (o : Terminal) : Nat := left.findIdx (·.contains o)

/-- The terminal that a rule with a unary operator has its precedence from: `%prec NEG`, or the
operator. -/
def ruleTerminal : Terminal → Terminal
  | .minus => .neg
  | o => o

/-- The rules of `intc` with the declared precedences. -/
def intc : Precedence Terminal where
  isUnary := isUnary
  isBinary := isBinary
  unaryLevel o := declaredLevel (ruleTerminal o)
  level := declaredLevel

/-- The tree whose values the actions compute. -/
def intcTree (ts : List IntcToken) : Option IntcTree := intc.parse ts

/-! ## The grammar of C -/

/-- From the loosest operator of C to the tightest. -/
def cLevel : Terminal → Nat
  | .or => 0
  | .and => 1
  | .bitOr => 2
  | .bitXor => 3
  | .bitAnd => 4
  | .eq | .ne => 5
  | .lt | .gt | .le | .ge => 6
  | .lshift | .rshift => 7
  | .plus | .minus => 8
  | .mul | .div | .mod => 9
  | .neg | .bang | .tilde => 10

/-- The trees of the grammar of C, which has a rule for each level: logical-OR-expressions have
level 0, multiplicative-expressions 9, and unary-expressions 10. -/
inductive CExpr : Nat → IntcTree → Prop
  | atom (v : Long) : CExpr 10 (.atom v)
  | paren {t : IntcTree} (h : CExpr 0 t) : CExpr 10 (.paren t)
  | unary {o : Terminal} {t : IntcTree} (ho : isUnary o = true) (h : CExpr 10 t) :
      CExpr 10 (.unary o t)
  | binary {o : Terminal} {l r : IntcTree} (ho : isBinary o = true) (hl : CExpr (cLevel o) l)
      (hr : CExpr (cLevel o + 1) r) : CExpr (cLevel o) (.binary o l r)
  | up {n : Nat} {t : IntcTree} (h : CExpr (n + 1) t) : CExpr n t

/-- A tree of a level is one of every looser level. -/
theorem CExpr.of_le {k n : Nat} {t : IntcTree} (h : CExpr n t) (hle : k ≤ n) : CExpr k t := by
  induction n with
  | zero =>
      obtain rfl := Nat.le_zero.mp hle
      exact h
  | succ n ih =>
      obtain rfl | hlt := Nat.eq_or_lt_of_le hle
      · exact h
      · exact ih h.up (Nat.le_of_lt_succ hlt)

/-- The levels of C as precedences. -/
def c : Precedence Terminal where
  isUnary := isUnary
  isBinary := isBinary
  unaryLevel _ := 10
  level := cLevel

/-- A tree that the rule for a level has. -/
structure AtLevel (n : Nat) (t : IntcTree) : Prop where
  respects : c.Respects t
  left : ∀ k ∈ c.leftLevels t, n ≤ k
  right : ∀ k ∈ c.rightLevels t, n ≤ k

/-- The grammar of C respects the levels of C. -/
theorem atLevel_of_cExpr {n : Nat} {t : IntcTree} (h : CExpr n t) : AtLevel n t := by
  induction h with
  | atom v =>
      exact ⟨trivial, List.forall_mem_nil _, List.forall_mem_nil _⟩
  | paren h ih =>
      exact ⟨ih.respects, List.forall_mem_nil _, List.forall_mem_nil _⟩
  | @unary o t ho h ih =>
      -- no operation begins the operand, because none binds tighter than an operator in front
      have hlow : ∀ k ∈ c.leftLevels t, 10 < k := by
        cases t with
        | binary o' l r =>
            have hle : 10 ≤ cLevel o' := ih.left _ List.mem_cons_self
            have hbinary : isBinary o' = true := ih.respects.1
            cases o' <;> simp [cLevel, isBinary] at hle hbinary
        | atom v => exact List.forall_mem_nil _
        | paren t => exact List.forall_mem_nil _
        | unary o' t => exact List.forall_mem_nil _
      refine ⟨⟨ho, hlow, ih.respects⟩, List.forall_mem_nil _, ?_⟩
      exact List.forall_mem_cons.mpr ⟨Nat.le_refl _, ih.right⟩
  | binary ho hl hr ihl ihr =>
      refine ⟨⟨ho, ihl.right, ihr.left, ihl.respects, ihr.respects⟩, ?_, ?_⟩
      · exact List.forall_mem_cons.mpr ⟨Nat.le_refl _, ihl.left⟩
      · refine List.forall_mem_cons.mpr ⟨Nat.le_refl _, ?_⟩
        intro k hk
        exact Nat.le_of_succ_le (ihr.right k hk)
  | up h ih =>
      refine ⟨ih.respects, ?_, ?_⟩
      · intro k hk
        exact Nat.le_of_succ_le (ih.left k hk)
      · intro k hk
        exact Nat.le_of_succ_le (ih.right k hk)

/-- C has one tree for a text. -/
theorem cExpr_unique {t t' : IntcTree} (ht : CExpr 0 t) (ht' : CExpr 0 t')
    (h : t.yield = t'.yield) : t = t' :=
  c.eq_of_yield_eq (atLevel_of_cExpr ht).respects (atLevel_of_cExpr ht').respects h

/-! ## The two orders -/

/-- The list reproduces the levels of C one by one, the other way around. -/
theorem declaredLevel_add_cLevel (o : Terminal) : declaredLevel o + cLevel o = 10 := by
  cases o <;> rfl

theorem declaredLevel_pos {o : Terminal} (h : isBinary o = true) : 0 < declaredLevel o := by
  cases o <;> first | contradiction | decide

/-- The rules with a unary operator have the lowest level. -/
theorem declaredLevel_ruleTerminal {o : Terminal} (h : isUnary o = true) :
    declaredLevel (ruleTerminal o) = 0 := by
  cases o <;> first | contradiction | rfl

/-- The binary operators of a tree that are in no parentheses. -/
def binaries : IntcTree → List Terminal
  | .unary _ t => binaries t
  | .binary o l r => binaries l ++ o :: binaries r
  | _ => []

/-- The unary operators of a tree that are in no parentheses. -/
def unaries : IntcTree → List Terminal
  | .unary o t => o :: unaries t
  | .binary _ l r => unaries l ++ unaries r
  | _ => []

/-- Between two parentheses all binary operators have one level, and no unary operator has a
binary one behind it. -/
def Plain : IntcTree → Prop
  | .atom _ => True
  | .paren t => Plain t
  | .unary _ t => binaries t = [] ∧ Plain t
  | .binary o l r =>
      unaries l = [] ∧ (∀ o' ∈ binaries l ++ binaries r, cLevel o' = cLevel o) ∧ Plain l ∧ Plain r

theorem mem_binaries_of_leftLevels {t : IntcTree} {k : Nat} (h : k ∈ intc.leftLevels t) :
    ∃ o ∈ binaries t, k = declaredLevel o := by
  induction t with
  | binary o l r ihl _ =>
      obtain rfl | h := List.mem_cons.mp h
      · exact ⟨o, List.mem_append_right _ List.mem_cons_self, rfl⟩
      · obtain ⟨o', ho', rfl⟩ := ihl h
        exact ⟨o', List.mem_append_left _ ho', rfl⟩
  | atom v => cases h
  | paren t => cases h
  | unary o t => cases h

theorem mem_binaries_of_rightLevels {t : IntcTree} {k : Nat} (hu : unaries t = [])
    (h : k ∈ intc.rightLevels t) : ∃ o ∈ binaries t, k = declaredLevel o := by
  induction t with
  | binary o l r _ ihr =>
      obtain rfl | h := List.mem_cons.mp h
      · exact ⟨o, List.mem_append_right _ List.mem_cons_self, rfl⟩
      · obtain ⟨o', ho', rfl⟩ := ihr (List.append_eq_nil_iff.mp hu).2 h
        exact ⟨o', List.mem_append_right _ (List.mem_cons_of_mem _ ho'), rfl⟩
  | atom v => cases h
  | paren t => cases h
  | unary o t => cases hu

/-- A tree whose right end only operations with a level above 0 reach has no unary operator. -/
theorem unaries_eq_nil {t : IntcTree} (ht : intc.Respects t)
    (h : ∀ k ∈ intc.rightLevels t, 0 < k) : unaries t = [] := by
  induction t with
  | atom v => rfl
  | paren t => rfl
  | unary o t =>
      have hpos : 0 < declaredLevel (ruleTerminal o) := h _ List.mem_cons_self
      rw [declaredLevel_ruleTerminal ht.1] at hpos
      cases hpos
  | binary o l r ihl ihr =>
      obtain ⟨ho, hleft, -, hl, hr⟩ := ht
      have hlpos : ∀ k ∈ intc.rightLevels l, 0 < k := fun k hk =>
        Nat.lt_of_lt_of_le (declaredLevel_pos ho) (hleft k hk)
      rw [unaries, ihl hl hlpos, ihr hr fun k hk => h k (List.mem_cons_of_mem _ hk)]
      rfl

/-- An operand that is no binary operation. -/
theorem binaries_eq_nil {t : IntcTree} (ht : Plain t) (h : intc.leftLevels t = []) :
    binaries t = [] := by
  cases t with
  | atom v => rfl
  | paren t => rfl
  | unary o t => exact ht.1
  | binary o l r => cases h

/-- An operator on the right of another would have to bind tighter in both orders. -/
theorem leftLevels_eq_nil {o : Terminal} {t : IntcTree} (hc : ∀ k ∈ c.leftLevels t, cLevel o < k)
    (hintc : ∀ k ∈ intc.leftLevels t, declaredLevel o < k) : intc.leftLevels t = [] := by
  cases t with
  | atom v => rfl
  | paren t => rfl
  | unary o t => rfl
  | binary o' l r =>
      have h₁ : cLevel o < cLevel o' := hc _ List.mem_cons_self
      have h₂ : declaredLevel o < declaredLevel o' := hintc _ List.mem_cons_self
      have := declaredLevel_add_cLevel o
      have := declaredLevel_add_cLevel o'
      omega

theorem cLevel_ruleTerminal {o : Terminal} (h : isUnary o = true) : cLevel (ruleTerminal o) = 10 := by
  cases o <;> first | contradiction | rfl

theorem declaredLevel_eq {o o' : Terminal} (h : cLevel o = cLevel o') :
    declaredLevel o = declaredLevel o' := by
  have := declaredLevel_add_cLevel o
  have := declaredLevel_add_cLevel o'
  omega

/-- The operators on the left of one that are grouped in the same way by both orders. -/
theorem cLevel_eq_of_left {o : Terminal} {l : IntcTree} (hl : Plain l)
    (hc : ∀ k ∈ c.rightLevels l, cLevel o ≤ k)
    (hintc : ∀ k ∈ intc.rightLevels l, declaredLevel o ≤ k) :
    ∀ o' ∈ binaries l, cLevel o' = cLevel o := by
  cases l with
  | atom v => exact List.forall_mem_nil _
  | paren t => exact List.forall_mem_nil _
  | unary u t =>
      rw [binaries, hl.1]
      exact List.forall_mem_nil _
  | binary o₁ l₁ r₁ =>
      have h₁ : cLevel o ≤ cLevel o₁ := hc _ List.mem_cons_self
      have h₂ : declaredLevel o ≤ declaredLevel o₁ := hintc _ List.mem_cons_self
      have heq : cLevel o₁ = cLevel o := by
        have := declaredLevel_add_cLevel o
        have := declaredLevel_add_cLevel o₁
        omega
      intro o' ho'
      obtain ho' | ho' := List.mem_append.mp ho'
      · exact (hl.2.1 o' (List.mem_append_left _ ho')).trans heq
      · obtain rfl | ho' := List.mem_cons.mp ho'
        · exact heq
        · exact (hl.2.1 o' (List.mem_append_right _ ho')).trans heq

theorem plain_of_respects {t : IntcTree} (hc : c.Respects t) (hintc : intc.Respects t) :
    Plain t := by
  induction t with
  | atom v => trivial
  | paren t ih => exact ih hc hintc
  | unary o t ih =>
      obtain ⟨ho, hclevels, hct⟩ := hc
      obtain ⟨-, hilevels, hit⟩ := hintc
      have hplain : Plain t := ih hct hit
      -- no operator behind the sign binds tighter than it in both orders
      have hnone : intc.leftLevels t = [] := by
        refine leftLevels_eq_nil (o := ruleTerminal o) ?_ hilevels
        rw [cLevel_ruleTerminal ho]
        exact hclevels
      exact ⟨binaries_eq_nil hplain hnone, hplain⟩
  | binary o l r ihl ihr =>
      obtain ⟨ho, hcl, hcr, hcl', hcr'⟩ := hc
      obtain ⟨-, hil, hir, hil', hir'⟩ := hintc
      have hl : Plain l := ihl hcl' hil'
      have hr : Plain r := ihr hcr' hir'
      have hpos : ∀ k ∈ intc.rightLevels l, 0 < k := fun k hk =>
        Nat.lt_of_lt_of_le (declaredLevel_pos ho) (hil k hk)
      -- an operator on the right would bind tighter in one order and more loosely in the other
      have hright : binaries r = [] := binaries_eq_nil hr (leftLevels_eq_nil hcr hir)
      refine ⟨unaries_eq_nil hil' hpos, ?_, hl, hr⟩
      rw [hright, List.append_nil]
      exact cLevel_eq_of_left hl hcl hil

theorem respects_of_plain {t : IntcTree} (hc : c.Respects t) (ht : Plain t) : intc.Respects t := by
  induction t with
  | atom v => trivial
  | paren t ih => exact ih hc ht
  | unary o t ih =>
      refine ⟨hc.1, ?_, ih hc.2.2 ht.2⟩
      intro k hk
      obtain ⟨o', ho', -⟩ := mem_binaries_of_leftLevels hk
      rw [ht.1] at ho'
      cases ho'
  | binary o l r ihl ihr =>
      obtain ⟨ho, -, hcr, hcl', hcr'⟩ := hc
      obtain ⟨hunaries, hsame, hl, hr⟩ := ht
      refine ⟨ho, ?_, ?_, ihl hcl' hl, ihr hcr' hr⟩
      · intro k hk
        obtain ⟨o', ho', rfl⟩ := mem_binaries_of_rightLevels hunaries hk
        exact Nat.le_of_eq (declaredLevel_eq (hsame o' (List.mem_append_left _ ho'))).symm
      -- an operator on the right would be of the same level and of a higher one
      · cases r with
        | atom v => exact List.forall_mem_nil _
        | paren t => exact List.forall_mem_nil _
        | unary u t => exact List.forall_mem_nil _
        | binary o' l' r' =>
            have hlt : cLevel o < cLevel o' := hcr _ List.mem_cons_self
            have heq : cLevel o' = cLevel o := hsame o' (List.mem_append_right _
              (List.mem_append_right _ List.mem_cons_self))
            omega

/-- The parser groups a text as C does exactly when its tree in C is plain. -/
theorem intcTree_eq_iff {t : IntcTree} (ht : CExpr 0 t) :
    intcTree t.yield = some t ↔ Plain t := by
  have hc : c.Respects t := (atLevel_of_cExpr ht).respects
  constructor
  · intro h
    exact plain_of_respects hc (intc.respects_of_parse h).1
  · intro h
    exact intc.parse_yield (respects_of_plain hc h)

/-! ## Values -/

def truthValue (b : Bool) : Long := if b then 1 else 0

/-- What the operators do apart from `&&` and `||`; `none` is a division by 0. -/
structure Meaning where
  unary : Terminal → Long → Long
  binary : Terminal → Long → Long → Option Long

variable (m : Meaning)

/-- A binary operator on two values. -/
def operate (o : Terminal) (a b : Long) : Option Long :=
  match o with
  | .and => some (truthValue (a ≠ 0 ∧ b ≠ 0))
  | .or => some (truthValue (a ≠ 0 ∨ b ≠ 0))
  | o => m.binary o a b

/-- The actions of the rules, which have the values of both operands. -/
def value : IntcTree → Option Long
  | .atom v => some v
  | .paren t => value t
  | .unary o t => (value t).map (m.unary o)
  | .binary o l r => do
      let a ← value l
      let b ← value r
      operate m o a b

/-- The value that the parser assigns. -/
def intcValue (ts : List IntcToken) : Option Long := intcTree ts >>= value m

/-- The result that the left operand of `&&` or `||` gives alone. -/
def skips (o : Terminal) (a : Long) : Option Long :=
  match o with
  | .and => if a = 0 then some 0 else none
  | .or => if a = 0 then none else some 1
  | _ => none

/-- The value in C, which does not evaluate what `&&` and `||` skip. -/
def cValue : IntcTree → Option Long
  | .atom v => some v
  | .paren t => cValue t
  | .unary o t => (cValue t).map (m.unary o)
  | .binary o l r => do
      let a ← cValue l
      match skips o a with
      | some v => some v
      | none => do
          let b ← cValue r
          operate m o a b

/-- Every operation has a result, also one that C skips. -/
def AllResults : IntcTree → Prop
  | .atom _ => True
  | .paren t => AllResults t
  | .unary _ t => AllResults t
  | .binary o l r =>
      AllResults l ∧ AllResults r ∧
        ∀ a b, value m l = some a → value m r = some b → (operate m o a b).isSome

theorem isSome_value_iff {t : IntcTree} : (value m t).isSome ↔ AllResults m t := by
  induction t with
  | atom v => exact ⟨fun _ => trivial, fun _ => rfl⟩
  | paren t ih => exact ih
  | unary o t ih =>
      rw [value, Option.isSome_map]
      exact ih
  | binary o l r ihl ihr =>
      rw [value, AllResults, ← ihl, ← ihr]
      cases value m l with
      | none => simp
      | some a =>
          cases value m r with
          | none => simp
          | some b => simp

theorem operate_of_skips {o : Terminal} {a v : Long} (h : skips o a = some v) (b : Long) :
    operate m o a b = some v := by
  cases o with
  | and =>
      rw [skips] at h
      split at h
      · next ha =>
        cases h
        rw [operate, ha]
        rfl
      · cases h
  | or =>
      rw [skips] at h
      split at h
      · cases h
      · next ha =>
        cases h
        rw [operate, decide_eq_true (.inl ha)]
        rfl
  | _ => cases h

/-- A value that is found with every operation is the one of C. -/
theorem cValue_of_value {t : IntcTree} {v : Long} (h : value m t = some v) :
    cValue m t = some v := by
  induction t generalizing v with
  | atom w => exact h
  | paren t ih => exact ih h
  | unary o t ih =>
      rw [value] at h
      obtain ⟨w, hw, rfl⟩ := Option.map_eq_some_iff.mp h
      rw [cValue, ih hw]
      rfl
  | binary o l r ihl ihr =>
      rw [value] at h
      obtain ⟨a, ha, h⟩ := Option.bind_eq_some_iff.mp h
      obtain ⟨b, hb, h⟩ := Option.bind_eq_some_iff.mp h
      simp only [cValue, ihl ha, ihr hb, Option.bind_eq_bind, Option.bind_some]
      split
      · next w hskips => rw [← h, operate_of_skips m hskips b]
      · exact h

/-- The parser finds the grouping of C, and so the value that C gives, exactly when the expression
is plain and divides by 0 nowhere. -/
theorem intc_iff {t : IntcTree} {v : Long} (ht : CExpr 0 t) (hv : cValue m t = some v) :
    intcTree t.yield = some t ∧ intcValue m t.yield = some v ↔ Plain t ∧ AllResults m t := by
  rw [← intcTree_eq_iff ht, ← isSome_value_iff]
  apply and_congr_right
  intro htree
  rw [intcValue, htree]
  show value m t = some v ↔ _
  constructor
  · intro h
    rw [h]
    rfl
  · intro h
    obtain ⟨w, hw⟩ := Option.isSome_iff_exists.mp h
    have hcw := cValue_of_value m hw
    rw [hv] at hcw
    rw [hw, hcw]

/-! ## Examples -/

/-- `long` with 64 bits that wraps; `&&` and `||` are not asked for. -/
def machine : Meaning where
  unary
    | .minus, a => -a
    | .bang, a => truthValue (a = 0)
    | .tilde, a => ~~~a
    | _, a => a
  binary
    | .mul, a, b => some (a * b)
    | .div, a, b => if b = 0 then none else some (a.sdiv b)
    | .mod, a, b => if b = 0 then none else some (a.srem b)
    | .plus, a, b => some (a + b)
    | .minus, a, b => some (a - b)
    | .lshift, a, b => some (a <<< (b.toNat % 64))
    | .rshift, a, b => some (a.sshiftRight (b.toNat % 64))
    | .lt, a, b => some (truthValue (a.slt b))
    | .le, a, b => some (truthValue (a.sle b))
    | .gt, a, b => some (truthValue (b.slt a))
    | .ge, a, b => some (truthValue (b.sle a))
    | .eq, a, b => some (truthValue (a = b))
    | .ne, a, b => some (truthValue (a ≠ b))
    | .bitAnd, a, b => some (a &&& b)
    | .bitXor, a, b => some (a ^^^ b)
    | .bitOr, a, b => some (a ||| b)
    | _, a, _ => some a

/-- `1 - 2 + -3` -/
def sameLevel : IntcTree :=
  .binary .plus (.binary .minus (.atom 1) (.atom 2)) (.unary .minus (.atom 3))

theorem cExpr_sameLevel : CExpr 0 sameLevel := by
  have hminus : CExpr 8 (.binary .minus (.atom 1) (.atom 2)) :=
    .binary (o := .minus) rfl ((CExpr.atom 1).of_le (by decide)) ((CExpr.atom 2).of_le (by decide))
  have hplus : CExpr 8 sameLevel :=
    .binary (o := .plus) rfl hminus ((CExpr.unary rfl (.atom 3)).of_le (by decide))
  exact hplus.of_le (by decide)

theorem intc_iff_sameLevel :
    intcTree sameLevel.yield = some sameLevel ∧ intcValue machine sameLevel.yield = some (-4) ↔
      Plain sameLevel ∧ AllResults machine sameLevel :=
  intc_iff machine cExpr_sameLevel rfl

/-- `1 + 2 * 3` -/
def sumAndProduct : List IntcToken :=
  [.atom 1, .op .plus, .atom 2, .op .mul, .atom 3]

/-- The sum is multiplied. -/
theorem sum_first :
    (∃ t, CExpr 0 t ∧ t.yield = sumAndProduct ∧ cValue machine t = some 7) ∧
      intcValue machine sumAndProduct = some 9 := by
  have hproduct : CExpr 9 (.binary .mul (.atom 2) (.atom 3)) :=
    .binary (o := .mul) rfl ((CExpr.atom 2).of_le (by decide)) ((CExpr.atom 3).of_le (by decide))
  have hsum : CExpr 8 (.binary .plus (.atom 1) (.binary .mul (.atom 2) (.atom 3))) :=
    .binary (o := .plus) rfl ((CExpr.atom 1).of_le (by decide)) hproduct
  exact ⟨⟨_, hsum.of_le (by decide), rfl, rfl⟩, rfl⟩

end BcuSdk.BcuGen.ConstantExpression
