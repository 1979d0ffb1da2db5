/-
  BcuSdk.Lib.OperatorPrecedence

  Expressions with unary operators in front and left associative binary ones,
  and the parser that a generator makes of their ambiguous grammar and a list
  of precedences.

  With a complete operation on the stack and an operator ahead, the parser
  shifts if the operator binds tighter than the operation, and reduces if not.
  `Respects` says of a tree that this is how its parts have come together.
  The parser finds a tree that respects the precedences (`respects_of_parse`),
  and every such tree from its own text (`parse_yield`), so there is one at
  most for each text.
-/
import Mathlib.Data.List.Basic

namespace BcuSdk.Lib.OperatorPrecedence

/-- The same operator may be a unary and a binary one. -/
inductive Token (A O : Type) where
  | atom (a : A)
  | openParen
  | closeParen
  | op (o : O)
  deriving DecidableEq, Repr

inductive Tree (A O : Type) where
  | atom (a : A)
  | paren (t : Tree A O)
  | unary (o : O) (t : Tree A O)
  | binary (o : O) (l r : Tree A O)
  deriving DecidableEq, Repr

/-- What the operators are, and how tight they bind. -/
structure Precedence (O : Type) where
  isUnary : O → Bool
  isBinary : O → Bool
  unaryLevel : O → Nat
  level : O → Nat

variable {A O : Type}

/-- The text of a tree. -/
def Tree.yield : Tree A O → List (Token A O)
  | .atom a => [.atom a]
  | .paren t => .openParen :: (t.yield ++ [.closeParen])
  | .unary o t => .op o :: t.yield
  | .binary o l r => l.yield ++ .op o :: r.yield

namespace Precedence

variable (p : Precedence O)

/-! ## Trees -/

/-- The levels of the operations that end where the tree ends. -/
def rightLevels : Tree A O → List Nat
  | .unary o t => p.unaryLevel o :: rightLevels t
  | .binary o _ r => p.level o :: rightLevels r
  | _ => []

/-- The levels of the operations that begin with the tree and are not begun by their operator. -/
def leftLevels : Tree A O → List Nat
  | .binary o l _ => p.level o :: leftLevels l
  | _ => []

/-- An operation on the left of an operator had to be reduced before it, one on the right not. -/
def Respects : Tree A O → Prop
  | .atom _ => True
  | .paren t => Respects t
  | .unary o t => p.isUnary o = true ∧ (∀ n ∈ p.leftLevels t, p.unaryLevel o < n) ∧ Respects t
  | .binary o l r =>
      p.isBinary o = true ∧ (∀ n ∈ p.rightLevels l, p.level o ≤ n) ∧
        (∀ n ∈ p.leftLevels r, p.level o < n) ∧ Respects l ∧ Respects r

/-! ## The parser -/

/-- What is on the stack in front of an operand. -/
inductive Frame (A O : Type) where
  | paren
  | unary (o : O)
  | binary (l : Tree A O) (o : O)
  deriving DecidableEq, Repr

/-- Whether the token ahead is shifted behind a complete operation of level `n`. -/
def shifts (ahead : Option O) (n : Nat) : Bool :=
  match ahead with
  | some o => n < p.level o
  | none => false

/-- The reductions before the token ahead. -/
def reduce (ahead : Option O) : List (Frame A O) → Tree A O → List (Frame A O) × Tree A O
  | .binary l o :: st, t =>
      if p.shifts ahead (p.level o) then (.binary l o :: st, t)
      else reduce ahead st (.binary o l t)
  | .unary o :: st, t =>
      if p.shifts ahead (p.unaryLevel o) then (.unary o :: st, t)
      else reduce ahead st (.unary o t)
  | .paren :: st, t => (.paren :: st, t)
  | [], t => ([], t)

/-- The parser in front of an operand, or behind one. -/
def run : List (Token A O) → List (Frame A O) → Option (Tree A O) → Option (Tree A O)
  | [], _, none => none
  | [], st, some t =>
      match p.reduce none st t with
      | ([], t) => some t
      | _ => none
  | .atom a :: ts, st, none => run ts st (some (.atom a))
  | .openParen :: ts, st, none => run ts (.paren :: st) none
  | .op o :: ts, st, none => if p.isUnary o then run ts (.unary o :: st) none else none
  | .closeParen :: _, _, none => none
  | .op o :: ts, st, some t =>
      if p.isBinary o then
        run ts (.binary (p.reduce (some o) st t).2 o :: (p.reduce (some o) st t).1) none
      else none
  | .closeParen :: ts, st, some t =>
      match p.reduce none st t with
      | (.paren :: st, t) => run ts st (some (.paren t))
      | _ => none
  | .atom _ :: _, _, some _ => none
  | .openParen :: _, _, some _ => none

def parse (ts : List (Token A O)) : Option (Tree A O) := p.run ts [] none

/-! ## Every tree is found -/

/-- The level of the operation that waits for an operand. -/
def pending : List (Frame A O) → Option Nat
  | .unary o :: _ => some (p.unaryLevel o)
  | .binary _ o :: _ => some (p.level o)
  | _ => none

/-- The operand of the pending operation may be this tree. -/
def Fits (st : List (Frame A O)) (t : Tree A O) : Prop :=
  ∀ m, p.pending st = some m → ∀ n ∈ p.leftLevels t, m < n

/-- The stack behind the text of a tree. -/
def push : Tree A O → List (Frame A O) → List (Frame A O) × Tree A O
  | .unary o t, st => push t (.unary o :: st)
  | .binary o l r, st => push r (.binary l o :: st)
  | t, st => (st, t)

theorem reduce_push {ahead : Option O} {t : Tree A O}
    (h : ∀ n ∈ p.rightLevels t, p.shifts ahead n = false) (st : List (Frame A O)) :
    p.reduce ahead (push t st).1 (push t st).2 = p.reduce ahead st t := by
  induction t generalizing st with
  | atom a => rfl
  | paren t => rfl
  | unary o t ih =>
      have ho : p.shifts ahead (p.unaryLevel o) = false := h _ List.mem_cons_self
      rw [push, ih (fun n hn => h n (List.mem_cons_of_mem _ hn)), reduce, ho]
      rfl
  | binary o l r _ ih =>
      have ho : p.shifts ahead (p.level o) = false := h _ List.mem_cons_self
      rw [push, ih (fun n hn => h n (List.mem_cons_of_mem _ hn)), reduce, ho]
      rfl

/-- A pending operation that is looser than the operator ahead stays. -/
theorem reduce_of_pending {o : O} {st : List (Frame A O)} {t : Tree A O}
    (h : ∀ m, p.pending st = some m → m < p.level o) : p.reduce (some o) st t = (st, t) := by
  cases st with
  | nil => rfl
  | cons f st =>
      cases f with
      | paren => rfl
      | unary u =>
          have hu : p.unaryLevel u < p.level o := h _ rfl
          rw [reduce, shifts, if_pos (decide_eq_true hu)]
      | binary l b =>
          have hb : p.level b < p.level o := h _ rfl
          rw [reduce, shifts, if_pos (decide_eq_true hb)]

/-- The parser reads the text of a tree that respects the precedences. -/
theorem run_yield {t : Tree A O} (ht : p.Respects t) {st : List (Frame A O)} (hfits : p.Fits st t)
    (ts : List (Token A O)) :
    p.run (t.yield ++ ts) st none = p.run ts (push t st).1 (some (push t st).2) := by
  induction t generalizing st ts with
  | atom a => rfl
  | paren t ih =>
      -- nothing behind the bracket waits for an operand
      have hinside : p.Fits (.paren :: st) t := by
        intro m hm
        cases hm
      have hreduce : p.reduce none (push t (.paren :: st)).1 (push t (.paren :: st)).2 =
          (.paren :: st, t) := p.reduce_push (fun _ _ => rfl) (.paren :: st)
      rw [Tree.yield, List.cons_append, run, List.append_assoc, ih ht hinside,
        List.singleton_append, run, hreduce]
      rfl
  | unary o t ih =>
      obtain ⟨ho, hlevels, ht⟩ := ht
      have hoperand : p.Fits (.unary o :: st) t := by
        intro m hm
        cases hm
        exact hlevels
      rw [Tree.yield, List.cons_append, run, if_pos ho, ih ht hoperand]
      rfl
  | binary o l r ihl ihr =>
      obtain ⟨ho, hleft, hright, hl, hr⟩ := ht
      have hfirst : p.Fits st l := fun m hm n hn => hfits m hm n (List.mem_cons_of_mem _ hn)
      -- the operation reduces all of `l`, and stops in front of it
      have hclosed : ∀ n ∈ p.rightLevels l, p.shifts (some o) n = false := fun n hn =>
        decide_eq_false (Nat.not_lt.mpr (hleft n hn))
      have hreduce : p.reduce (some o) (push l st).1 (push l st).2 = (st, l) := by
        rw [p.reduce_push hclosed]
        exact p.reduce_of_pending fun m hm => hfits m hm _ List.mem_cons_self
      -- `l o` waits on the stack while `r` is read
      have hsecond : p.Fits (.binary l o :: st) r := by
        intro m hm
        cases hm
        exact hright
      rw [Tree.yield, List.append_assoc, ihl hl hfirst, List.cons_append, run, if_pos ho, hreduce,
        ihr hr hsecond]
      rfl

/-- A tree that respects the precedences is what the parser makes of its text. -/
theorem parse_yield {t : Tree A O} (ht : p.Respects t) : p.parse t.yield = some t := by
  have hfits : p.Fits [] t := by
    intro m hm
    cases hm
  have hrun := p.run_yield ht hfits []
  rw [List.append_nil] at hrun
  rw [parse, hrun, run, p.reduce_push (fun _ _ => rfl)]
  rfl

/-- There is one such tree for a text. -/
theorem eq_of_yield_eq {t t' : Tree A O} (ht : p.Respects t) (ht' : p.Respects t')
    (h : t.yield = t'.yield) : t = t' := by
  have hparse := p.parse_yield ht
  rw [h, p.parse_yield ht'] at hparse
  exact (Option.some.inj hparse).symm

/-! ## Every tree that is found -/

/-- The text of the stack. -/
def stackYield : List (Frame A O) → List (Token A O)
  | [] => []
  | .paren :: st => stackYield st ++ [.openParen]
  | .unary o :: st => stackYield st ++ [.op o]
  | .binary l o :: st => stackYield st ++ l.yield ++ [.op o]

/-- The operations that wait on the stack. -/
def Waiting : List (Frame A O) → Prop
  | [] => True
  | .paren :: st => Waiting st
  | .unary o :: st => p.isUnary o = true ∧ Waiting st
  | .binary l o :: st =>
      p.isBinary o = true ∧ p.Respects l ∧ (∀ n ∈ p.rightLevels l, p.level o ≤ n) ∧
        (∀ m, p.pending st = some m → m < p.level o ∧ ∀ n ∈ p.leftLevels l, m < n) ∧ Waiting st

/-- A tree behind the stack, with what lies ahead still to come. -/
structure Complete (ahead : Option O) (st : List (Frame A O)) (t : Tree A O) : Prop where
  waiting : p.Waiting st
  respects : p.Respects t
  fits : p.Fits st t
  closed : ∀ n ∈ p.rightLevels t, p.shifts ahead n = false

theorem complete_reduce {ahead : Option O} {st : List (Frame A O)} {t : Tree A O}
    (h : p.Complete ahead st t) :
    p.Complete ahead (p.reduce ahead st t).1 (p.reduce ahead st t).2 ∧
      (∀ m, p.pending (p.reduce ahead st t).1 = some m → p.shifts ahead m = true) ∧
      stackYield (p.reduce ahead st t).1 ++ (p.reduce ahead st t).2.yield =
        stackYield st ++ t.yield := by
  induction st generalizing t with
  | nil =>
      refine ⟨h, ?_, rfl⟩
      intro m hm
      cases hm
  | cons f st ih =>
      cases f with
      | paren =>
          refine ⟨h, ?_, rfl⟩
          intro m hm
          cases hm
      | unary o =>
          rw [reduce]
          split
          -- the operation ahead binds tighter: nothing is reduced
          · next hshift =>
            refine ⟨h, ?_, rfl⟩
            intro m hm
            cases hm
            exact hshift
          · next hshift =>
            -- the top of the stack is taken into the tree, and the reduction goes on
            have hnew : p.Complete ahead st (.unary o t) := {
              waiting := h.waiting.2
              respects := ⟨h.waiting.1, h.fits _ rfl, h.respects⟩
              fits := by
                intro m _ n hn
                cases hn
              closed := by
                intro n hn
                obtain rfl | hn := List.mem_cons.mp hn
                · exact Bool.eq_false_iff.mpr hshift
                · exact h.closed n hn }
            obtain ⟨hcomplete, hpending, hyield⟩ := ih hnew
            refine ⟨hcomplete, hpending, ?_⟩
            rw [hyield, stackYield, Tree.yield, List.append_assoc]
            rfl
      | binary l o =>
          rw [reduce]
          split
          · next hshift =>
            refine ⟨h, ?_, rfl⟩
            intro m hm
            cases hm
            exact hshift
          · next hshift =>
            obtain ⟨ho, hl, hleft, hbelow, hst⟩ := h.waiting
            have hnew : p.Complete ahead st (.binary o l t) := {
              waiting := hst
              respects := ⟨ho, hleft, h.fits _ rfl, hl, h.respects⟩
              fits := by
                intro m hm n hn
                obtain rfl | hn := List.mem_cons.mp hn
                · exact (hbelow m hm).1
                · exact (hbelow m hm).2 n hn
              closed := by
                intro n hn
                obtain rfl | hn := List.mem_cons.mp hn
                · exact Bool.eq_false_iff.mpr hshift
                · exact h.closed n hn }
            obtain ⟨hcomplete, hpending, hyield⟩ := ih hnew
            refine ⟨hcomplete, hpending, ?_⟩
            rw [hyield, stackYield, Tree.yield, List.append_assoc, List.append_assoc]
            rfl

/-- The text of what is behind the stack, if there is an operand. -/
def operandYield : Option (Tree A O) → List (Token A O)
  | none => []
  | some t => t.yield

/-- The state of the parser: the last operand is not yet part of an operation. -/
structure Reading (st : List (Frame A O)) (cur : Option (Tree A O)) : Prop where
  waiting : p.Waiting st
  operand : ∀ t, cur = some t → p.Respects t ∧ p.leftLevels t = [] ∧ p.rightLevels t = []

theorem Reading.complete {st : List (Frame A O)} {t : Tree A O} (h : p.Reading st (some t))
    (ahead : Option O) : p.Complete ahead st t := by
  obtain ⟨ht, hleft, hright⟩ := h.operand t rfl
  exact {
    waiting := h.waiting
    respects := ht
    fits := by
      intro m _ n hn
      rw [hleft] at hn
      cases hn
    closed := by
      intro n hn
      rw [hright] at hn
      cases hn }

/-- What comes behind a token that is no operand. -/
theorem reading_none {st : List (Frame A O)} (h : p.Waiting st) : p.Reading st none where
  waiting := h
  operand := by
    intro t ht
    cases ht

/-- What the parser makes of the rest of the text. -/
theorem of_run {ts : List (Token A O)} {st : List (Frame A O)} {cur : Option (Tree A O)}
    {t : Tree A O} (hread : p.Reading st cur) (h : p.run ts st cur = some t) :
    p.Respects t ∧ t.yield = stackYield st ++ operandYield cur ++ ts := by
  induction ts generalizing st cur with
  | nil =>
      cases cur with
      | none => cases h
      | some t₀ =>
          -- the end of the text: the stack has to come down to this tree
          obtain ⟨hcomplete, -, hyield⟩ := p.complete_reduce (hread.complete p none)
          rw [run] at h
          split at h
          · next st' t' hreduce =>
            cases h
            rw [hreduce] at hcomplete hyield
            exact ⟨hcomplete.respects, by rw [List.append_nil]; exact hyield⟩
          · cases h
  | cons tok ts ih =>
      cases cur with
      -- an operand is due: an atom, a bracket, or the sign of one
      | none =>
          cases tok with
          | atom a =>
              have hatom : p.Reading st (some (.atom a)) := {
                waiting := hread.waiting
                operand := by
                  intro t ht
                  cases ht
                  exact ⟨trivial, rfl, rfl⟩ }
              obtain ⟨ht, hyield⟩ := ih hatom h
              refine ⟨ht, hyield.trans ?_⟩
              simp [operandYield, Tree.yield]
          | openParen =>
              have hparen : p.Waiting (.paren :: st) := hread.waiting
              obtain ⟨ht, hyield⟩ := ih (p.reading_none hparen) h
              refine ⟨ht, hyield.trans ?_⟩
              simp [operandYield, stackYield]
          | closeParen => cases h
          | op o =>
              rw [run] at h
              split at h
              · next ho =>
                have hunary : p.Waiting (.unary o :: st) := ⟨ho, hread.waiting⟩
                obtain ⟨ht, hyield⟩ := ih (p.reading_none hunary) h
                refine ⟨ht, hyield.trans ?_⟩
                simp [operandYield, stackYield]
              · cases h
      -- an operand is there: the bracket closes, or an operation follows
      | some t₀ =>
          cases tok with
          | atom a => cases h
          | openParen => cases h
          | closeParen =>
              obtain ⟨hcomplete, -, hyield⟩ := p.complete_reduce (hread.complete p none)
              rw [run] at h
              split at h
              · next st' t' hreduce =>
                rw [hreduce] at hcomplete hyield
                have hparen : p.Reading st' (some (.paren t')) := {
                  waiting := hcomplete.waiting
                  operand := by
                    intro t ht
                    cases ht
                    exact ⟨hcomplete.respects, rfl, rfl⟩ }
                obtain ⟨ht, htext⟩ := ih hparen h
                refine ⟨ht, htext.trans ?_⟩
                rw [operandYield, operandYield, ← hyield]
                simp [stackYield, Tree.yield]
              · cases h
          | op o =>
              obtain ⟨hcomplete, hpending, hyield⟩ := p.complete_reduce (hread.complete p (some o))
              rw [run] at h
              split at h
              · next ho =>
                -- what was reduced becomes the left operand of `o`
                have hwait : p.Waiting (.binary (p.reduce (some o) st t₀).2 o ::
                    (p.reduce (some o) st t₀).1) := by
                  refine ⟨ho, hcomplete.respects, ?_, ?_, hcomplete.waiting⟩
                  · intro n hn
                    exact Nat.not_lt.mp (of_decide_eq_false (hcomplete.closed n hn))
                  · intro m hm
                    exact ⟨of_decide_eq_true (hpending m hm), hcomplete.fits m hm⟩
                obtain ⟨ht, htext⟩ := ih (p.reading_none hwait) h
                refine ⟨ht, htext.trans ?_⟩
                rw [operandYield, operandYield, stackYield, hyield]
                simp
              · cases h

/-- The tree that is found respects the precedences and has the text that was read. -/
theorem respects_of_parse {ts : List (Token A O)} {t : Tree A O} (h : p.parse ts = some t) :
    p.Respects t ∧ t.yield = ts := by
  have hstart : p.Waiting ([] : List (Frame A O)) := trivial
  exact p.of_run (p.reading_none hstart) h

end Precedence

end BcuSdk.Lib.OperatorPrecedence
