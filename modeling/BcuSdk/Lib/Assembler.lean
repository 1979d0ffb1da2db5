/-
  BcuSdk.Lib.Assembler

  Assembler text that puts data into sections.

  `σ` are the symbols of the text and `ς` its sections; `addr` is where the
  linker puts the symbols.  Words are big-endian and take a number modulo
  their size.  A string is taken as it stands: what quotes and backslashes in
  it mean is left open.
-/
import BcuSdk.Lib.CString

namespace BcuSdk.Lib

/-- What a data directive is given. -/
inductive Operand (σ : Type) where
  | num (v : Int)
  | sym (s : σ)
  /-- `a-b`. -/
  | diff (a b : σ)
  deriving DecidableEq, Repr

/-- A line of assembler text, without its comment. -/
inductive Directive (σ ς : Type) where
  /-- `.section name`. -/
  | inSection (name : ς)
  /-- `name:`. -/
  | label (name : σ)
  /-- `.include "file"`. -/
  | includeFile (file : Word16)
  /-- `.byte v, …`. -/
  | byte (vs : List (Operand σ))
  /-- `.hword v`. -/
  | hword (v : Operand σ)
  /-- `.long v`. -/
  | long (v : Operand σ)
  /-- `.string "text"`. -/
  | string (text : CString)
  deriving DecidableEq, Repr

/-- There is neither a quote nor a backslash in the string. -/
def PlainText (s : CString) : Prop := 0x22#8 ∉ s.1 ∧ 0x5c#8 ∉ s.1

instance (s : CString) : Decidable (PlainText s) := inferInstanceAs (Decidable (_ ∧ _))

/-- A word is printed as its number. -/
theorem ofInt_toNat {n : Nat} (w : BitVec n) : BitVec.ofInt n (w.toNat : Int) = w := by
  rw [BitVec.ofInt_natCast, BitVec.ofNat_toNat, BitVec.setWidth_eq]

section Assemble

variable {σ ς : Type} [DecidableEq ς] (addr : σ → Int)

namespace Operand

def value : Operand σ → Int
  | num v => v
  | sym s => addr s
  | diff a b => addr a - addr b

end Operand

namespace Directive

/-- The bytes of a line; `none` for a string that is not plain. -/
def bytes : Directive σ ς → Option (List Byte)
  | byte vs => some (vs.map fun v => BitVec.ofInt 8 (v.value addr))
  | hword v =>
      let w := BitVec.ofInt 16 (v.value addr)
      some [hiByte w, loByte w]
  | long v =>
      let w := BitVec.ofInt 32 (v.value addr)
      some [byteOf w 3, byteOf w 2, byteOf w 1, byteOf w 0]
  | string text => if PlainText text then some (text.1 ++ [0#8]) else none
  | _ => some []

/-- The section that the line behind it is in. -/
def next (cur : ς) : Directive σ ς → ς
  | inSection name => name
  | _ => cur

/-- What a text that starts in section `cur` puts into section `s`. -/
def contents (s : ς) : ς → List (Directive σ ς) → Option (List Byte)
  | _, [] => some []
  | cur, d :: ds => do
      let front ← d.bytes addr
      let rest ← contents s (d.next cur) ds
      return if cur = s then front ++ rest else rest

/-- The section that the lines behind the text are in. -/
def last (cur : ς) (ds : List (Directive σ ς)) : ς := ds.foldl next cur

variable {addr} {s cur : ς} {ds es : List (Directive σ ς)} {b bs : List Byte}

theorem contents_cons {d : Directive σ ς} (hd : d.bytes addr = some b)
    (hds : contents addr s (d.next cur) ds = some bs) :
    contents addr s cur (d :: ds) = some (if cur = s then b ++ bs else bs) := by
  rw [contents, hd, hds]
  rfl

theorem contents_append (hds : contents addr s cur ds = some b)
    (hes : contents addr s (last cur ds) es = some bs) :
    contents addr s cur (ds ++ es) = some (b ++ bs) := by
  induction ds generalizing cur b with
  | nil =>
      cases hds
      exact hes
  | cons d ds ih =>
      obtain ⟨front, hfront, hds⟩ := Option.bind_eq_some_iff.mp hds
      obtain ⟨rest, hrest, hds⟩ := Option.bind_eq_some_iff.mp hds
      rw [List.cons_append, contents_cons hfront (ih hrest hes)]
      obtain rfl := Option.some.inj hds
      split
      · rw [List.append_assoc]
      · rfl

variable (addr) in
/-- Wherever the text is put, it stays in that section and adds `bs` to it. -/
structure Emits (ds : List (Directive σ ς)) (bs : List Byte) : Prop where
  stays : ∀ cur, last cur ds = cur
  adds : ∀ s cur, contents addr s cur ds = some (if cur = s then bs else [])

theorem emits_nil : Emits addr ([] : List (Directive σ ς)) [] :=
  ⟨fun _ => rfl, fun _ _ => by rw [ite_self]; rfl⟩

theorem Emits.append (hds : Emits addr ds b) (hes : Emits addr es bs) :
    Emits addr (ds ++ es) (b ++ bs) := by
  refine ⟨fun cur => ?_, fun s cur => ?_⟩
  · rw [last, List.foldl_append]
    exact (hes.stays _).trans (hds.stays cur)
  · rw [contents_append (hds.adds s cur) (by rw [hds.stays]; exact hes.adds s cur)]
    split
    · rfl
    · rfl

/-- A line of data in front. -/
theorem Emits.cons {d : Directive σ ς} (hd : d.bytes addr = some b)
    (hnext : ∀ cur, d.next cur = cur) (hds : Emits addr ds bs) : Emits addr (d :: ds) (b ++ bs) := by
  refine ⟨fun cur => ?_, fun s cur => ?_⟩
  · show last (d.next cur) ds = cur
    rw [hnext, hds.stays]
  · rw [contents_cons hd (by rw [hnext]; exact hds.adds s cur)]
    split
    · rfl
    · rfl

theorem Emits.label (name : σ) (hds : Emits addr ds bs) :
    Emits addr (Directive.label name :: ds) bs :=
  hds.cons (d := Directive.label name) (b := []) rfl fun _ => rfl

theorem Emits.byte (vs : List (Operand σ)) (hds : Emits addr ds bs) :
    Emits addr (Directive.byte vs :: ds) (vs.map (fun v => BitVec.ofInt 8 (v.value addr)) ++ bs) :=
  hds.cons (d := Directive.byte vs) rfl fun _ => rfl

theorem Emits.hword (v : Operand σ) (hds : Emits addr ds bs) :
    Emits addr (Directive.hword v :: ds) (hiByte (BitVec.ofInt 16 (v.value addr)) ::
      loByte (BitVec.ofInt 16 (v.value addr)) :: bs) :=
  hds.cons (d := Directive.hword v) (b := [_, _]) rfl fun _ => rfl

theorem Emits.hword_toNat (w : Word16) (hds : Emits addr ds bs) :
    Emits addr (Directive.hword (.num w.toNat) :: ds) (hiByte w :: loByte w :: bs) := by
  have hline := hds.hword (.num w.toNat)
  rw [Operand.value, ofInt_toNat] at hline
  exact hline

theorem Emits.long (v : Operand σ) (hds : Emits addr ds bs) :
    Emits addr (Directive.long v :: ds) (byteOf (BitVec.ofInt 32 (v.value addr)) 3 ::
      byteOf (BitVec.ofInt 32 (v.value addr)) 2 :: byteOf (BitVec.ofInt 32 (v.value addr)) 1 ::
      byteOf (BitVec.ofInt 32 (v.value addr)) 0 :: bs) :=
  hds.cons (d := Directive.long v) (b := [_, _, _, _]) rfl fun _ => rfl

theorem Emits.long_toNat (w : Word32) (hds : Emits addr ds bs) :
    Emits addr (Directive.long (.num w.toNat) :: ds)
      (byteOf w 3 :: byteOf w 2 :: byteOf w 1 :: byteOf w 0 :: bs) := by
  have hline := hds.long (.num w.toNat)
  rw [Operand.value, ofInt_toNat] at hline
  exact hline

theorem Emits.string {text : CString} (h : PlainText text) (hds : Emits addr ds bs) :
    Emits addr (Directive.string text :: ds) (text.1 ++ 0#8 :: bs) := by
  have hline := hds.cons (d := Directive.string text) (if_pos h) fun _ => rfl
  rwa [List.append_assoc] at hline

/-- A loop that prints something for each element. -/
theorem emits_flatMap {α : Type} {f : α → List (Directive σ ς)} {g : α → List Byte} {as : List α}
    (h : ∀ a ∈ as, Emits addr (f a) (g a)) : Emits addr (as.flatMap f) (as.flatMap g) := by
  induction as with
  | nil => exact emits_nil
  | cons a as ih =>
      obtain ⟨ha, has⟩ := List.forall_mem_cons.mp h
      exact ha.append (ih has)

theorem emits_map {α : Type} {f : α → Directive σ ς} {g : α → List Byte} {as : List α}
    (h : ∀ a ∈ as, Emits addr [f a] (g a)) : Emits addr (as.map f) (as.flatMap g) := by
  rw [List.map_eq_flatMap]
  exact emits_flatMap h

/-- Data behind the name of its section. -/
theorem Emits.contents_section (hds : Emits addr ds bs) (own s cur : ς) :
    contents addr s cur ([inSection own] ++ ds) = some (if own = s then bs else []) := by
  rw [List.singleton_append, contents_cons rfl (hds.adds s own), List.nil_append, ite_self]

theorem Emits.last_section (hds : Emits addr ds bs) (own cur : ς) :
    last cur ([inSection own] ++ ds) = own := hds.stays own

end Directive

end Assemble

end BcuSdk.Lib
