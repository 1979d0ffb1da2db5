/-
  BcuSdk.BcuGen.GenCodeRoundTrip

  The records of `.loadcontrol` and their decoder.

  A text assembles to records, one after the other; `STR_Stream::fromArray`
  takes each for a stream.  `Describes` says which stream a part of the device
  asks for, and `Fits` that its numbers are in the range of the fields.
-/
import Mathlib.Data.List.Forall2
import BcuSdk.Common.StreamRoundTrip
import BcuSdk.BcuGen.GenCode

namespace BcuSdk.BcuGen

open BcuSdk.Lib BcuSdk.Common Directive

/-! ## Records -/

/-- The array is a record: its declared length is that of the type and the payload, and it is
    parsed as a stream with `P`. -/
def IsRecord (r : CArray) (P : STRStream → Prop) : Prop :=
  ∃ length type payload s, r = wordBytes length ++ wordBytes type ++ payload ∧
    length.toNat = 2 + payload.length ∧ STRStream.fromArray r = .ok s ∧ P s

/-- The text puts one record for each of the `Ps` into its section. -/
def AssemblesTo (addr : Label → Int) (text : AsmText) (Ps : List (STRStream → Prop)) : Prop :=
  ∃ records, (∀ cur, contents addr .loadcontrol cur text = some records.flatten) ∧
    List.Forall₂ IsRecord records Ps

theorem isRecord_array {s : STRStream} {P : STRStream → Prop} (hs : s.InRange)
    (hlen : s.array.length < 65538) (hP : P s) : IsRecord s.array P := by
  obtain ⟨type, body, harray, -⟩ := STRStream.initOf_array hs hlen
  rw [harray, length_frame] at hlen
  have hdeclared : (BitVec.ofNat 16 (2 + body.length)).toNat = 2 + body.length := by
    rw [BitVec.toNat_ofNat]
    omega
  refine ⟨_, type, body, s, harray, hdeclared, STRStream.fromArray_array hs ?_, hP⟩
  rw [harray, length_frame]
  exact hlen

/-! ### Lines that emit records -/

section Lines

variable {addr : Label → Int} {text rest : AsmText} {Ps Qs : List (STRStream → Prop)}

variable (addr) in
/-- Wherever the lines are put, they emit the records. -/
def EmitsRecords (text : AsmText) (Ps : List (STRStream → Prop)) : Prop :=
  ∃ records : List CArray, Emits addr text records.flatten ∧ List.Forall₂ IsRecord records Ps

theorem emitsRecords_nil : EmitsRecords addr [] [] := ⟨[], emits_nil, .nil⟩

theorem EmitsRecords.append (h : EmitsRecords addr text Ps) (hrest : EmitsRecords addr rest Qs) :
    EmitsRecords addr (text ++ rest) (Ps ++ Qs) := by
  obtain ⟨records, hemits, hrecords⟩ := h
  obtain ⟨records', hemits', hrecords'⟩ := hrest
  refine ⟨records ++ records', ?_, List.rel_append hrecords hrecords'⟩
  rw [List.flatten_append]
  exact hemits.append hemits'

/-- The lines of one stream. -/
theorem emitsRecords_array {s : STRStream} {P : STRStream → Prop} (hemits : Emits addr text s.array)
    (hs : s.InRange) (hlen : s.array.length < 65538) (hP : P s) : EmitsRecords addr text [P] := by
  refine ⟨[s.array], ?_, .cons (isRecord_array hs hlen hP) .nil⟩
  rw [List.flatten_singleton]
  exact hemits

/-- A loop that skips what has no line number. -/
theorem emitsRecords_flatMap {α : Type} {as : List α} {lineno : α → Int} {info : α → AsmText}
    {P : α → STRStream → Prop} (hskip : ∀ a ∈ as, lineno a = 0 → info a = [])
    (hgiven : ∀ a ∈ as, lineno a ≠ 0 → EmitsRecords addr (info a) [P a]) :
    EmitsRecords addr (as.flatMap info) ((as.filter fun a => lineno a ≠ 0).map P) := by
  induction as with
  | nil => exact emitsRecords_nil
  | cons a as ih =>
      obtain ⟨hskip₀, hskip⟩ := List.forall_mem_cons.mp hskip
      obtain ⟨hgiven₀, hgiven⟩ := List.forall_mem_cons.mp hgiven
      have hrest := ih hskip hgiven
      rw [List.flatMap_cons]
      by_cases hzero : lineno a = 0
      · rw [hskip₀ hzero, List.nil_append, List.filter_cons_of_neg (by simpa using hzero)]
        exact hrest
      · rw [List.filter_cons_of_pos (by simpa using hzero)]
        exact (hgiven₀ hzero).append hrest

/-- The head of a record in front of its payload. -/
theorem emits_record {length : Int} {body : List Byte} (type : Word16)
    (hlength : length = 2 + body.length) (h : Emits addr text body) :
    Emits addr (recordText length type ++ text) (frame type body) := by
  have hhead := (h.hword_toNat type).hword (.num length)
  have hdeclared : BitVec.ofInt 16 length = BitVec.ofNat 16 (2 + body.length) := by
    rw [hlength, ← BitVec.ofInt_natCast]
    congr 1
  rw [Operand.value, hdeclared] at hhead
  exact hhead

/-- The name at the end of a payload. -/
theorem emits_name {name : CString} (h : PlainText name) :
    Emits addr ([.string name] : AsmText) (name.1 ++ [0#8]) :=
  emits_nil.string h

/-- Records in their own section. -/
theorem EmitsRecords.assemblesTo (h : EmitsRecords addr text Ps) :
    AssemblesTo addr ([.inSection .loadcontrol] ++ text) Ps := by
  obtain ⟨records, hemits, hrecords⟩ := h
  exact ⟨records, fun cur => hemits.contents_section .loadcontrol .loadcontrol cur, hrecords⟩

/-- Records between an included file and the next section. -/
theorem EmitsRecords.assemblesTo_between (file : Word16) (h : EmitsRecords addr text Ps) :
    AssemblesTo addr ([.includeFile file, .inSection .loadcontrol] ++ text ++
      [.inSection .bcuconfig]) Ps := by
  obtain ⟨records, hemits, hrecords⟩ := h
  refine ⟨records, fun cur => ?_, hrecords⟩
  have hend : contents addr Section.loadcontrol (last .loadcontrol text)
      [Directive.inSection .bcuconfig] = some [] := by
    rw [hemits.stays]
    rfl
  have hrecs := contents_append (hemits.adds .loadcontrol .loadcontrol) hend
  rw [if_pos rfl, List.append_nil] at hrecs
  -- neither of the two lines in front puts a byte anywhere
  show contents addr .loadcontrol cur
    (.includeFile file :: .inSection .loadcontrol :: (text ++ [.inSection .bcuconfig])) = _
  rw [contents_cons rfl (contents_cons rfl hrecs), List.nil_append, List.nil_append, ite_self,
    ite_self]

end Lines

/-! ## Numbers -/

/-- The number fits a 16-bit word. -/
def IsWord (v : Int) : Prop := 0 ≤ v ∧ v < 65536

instance (v : Int) : Decidable (IsWord v) := inferInstanceAs (Decidable (_ ∧ _))

theorem toNat_ofInt_word {v : Int} (h : IsWord v) : ((BitVec.ofInt 16 v).toNat : Int) = v := by
  obtain ⟨hnonneg, hlt⟩ := h
  rw [BitVec.toNat_ofInt]
  omega

/-! ## Parameters and group objects -/

section Describe

variable (addr : Label → Int)

namespace StringParameter

structure Fits (p : StringParameter) : Prop where
  addr : IsWord (addr (.name p.name))
  maxLength : IsWord (p.maxLength + 1)
  id : PlainText p.id
  length : p.id.1.length + 7 < 65536

def Describes (p : StringParameter) : STRStream → Prop
  | .stringParameter s =>
      (s.addr.toNat : Int) = addr (.name p.name) ∧ (s.length.toNat : Int) = p.maxLength + 1 ∧
        s.name = p.id
  | _ => False

variable {addr} in
theorem emitsRecords_info {p : StringParameter} (h : p.Fits addr) (hid : p.idLineno ≠ 0) :
    EmitsRecords addr p.info [p.Describes addr] := by
  let s : STRStringParameter :=
    ⟨BitVec.ofInt 16 (addr (.name p.name)), BitVec.ofInt 16 (p.maxLength + 1), p.id⟩
  have hbody : Emits addr
      [.hword (.sym (.name p.name)), .hword (.num (p.maxLength + 1)), .string p.id] s.body :=
    ((emits_name h.id).hword _).hword _
  have hlen : s.body.length = 5 + p.id.1.length := by
    simp [s, STRStringParameter.body, wordBytes]
    omega
  have hfits := h.length
  rw [info, if_neg hid]
  refine emitsRecords_array (s := .stringParameter s) (emits_record _ (by omega) hbody) trivial
    ?_ ⟨toNat_ofInt_word h.addr, toNat_ofInt_word h.maxLength, rfl⟩
  rw [STRStream.array, length_frame]
  omega

end StringParameter

namespace FloatParameter

structure Fits (p : FloatParameter) : Prop where
  addr : IsWord (addr (.name p.name))
  id : PlainText p.id
  length : p.id.1.length + 5 < 65536

def Describes (p : FloatParameter) : STRStream → Prop
  | .floatParameter s => (s.addr.toNat : Int) = addr (.name p.name) ∧ s.name = p.id
  | _ => False

variable {addr} in
theorem emitsRecords_info {p : FloatParameter} (h : p.Fits addr) (hid : p.idLineno ≠ 0) :
    EmitsRecords addr p.info [p.Describes addr] := by
  let s : STRFloatParameter := ⟨BitVec.ofInt 16 (addr (.name p.name)), p.id⟩
  have hbody : Emits addr [.hword (.sym (.name p.name)), .string p.id] s.body :=
    (emits_name h.id).hword _
  have hlen : s.body.length = 3 + p.id.1.length := by
    simp [s, STRFloatParameter.body, wordBytes]
    omega
  have hfits := h.length
  rw [info, if_neg hid]
  refine emitsRecords_array (s := .floatParameter s) (emits_record _ (by omega) hbody) trivial
    ?_ ⟨toNat_ofInt_word h.addr, rfl⟩
  rw [STRStream.array, length_frame]
  omega

end FloatParameter

namespace IntParameter

structure Fits (p : IntParameter) : Prop where
  addr : IsWord (addr (.name p.name))
  size : -128 ≤ p.size ∧ p.size < 128
  id : PlainText p.id
  length : p.id.1.length + 6 < 65536

def Describes (p : IntParameter) : STRStream → Prop
  | .intParameter s =>
      (s.addr.toNat : Int) = addr (.name p.name) ∧ s.type.toInt = p.size ∧ s.name = p.id
  | _ => False

variable {addr} in
theorem emitsRecords_info {p : IntParameter} (h : p.Fits addr) (hid : p.idLineno ≠ 0) :
    EmitsRecords addr p.info [p.Describes addr] := by
  let s : STRIntParameter :=
    ⟨BitVec.ofInt 16 (addr (.name p.name)), BitVec.ofInt 8 p.size, p.id⟩
  have hbody : Emits addr [.hword (.sym (.name p.name)), .byte [.num p.size], .string p.id]
      s.body :=
    ((emits_name h.id).byte [.num p.size]).hword _
  have hlen : s.body.length = 4 + p.id.1.length := by
    simp [s, STRIntParameter.body, wordBytes]
    omega
  -- a negative size stays negative
  have hsize : s.type.toInt = p.size := BitVec.toInt_ofInt_eq_self (by decide) h.size.1 h.size.2
  have hfits := h.length
  rw [info, if_neg hid]
  refine emitsRecords_array (s := .intParameter s) (emits_record _ (by omega) hbody) trivial
    ?_ ⟨toNat_ofInt_word h.addr, hsize, rfl⟩
  rw [STRStream.array, length_frame]
  omega

end IntParameter

namespace ListParameter

/-- The elements as they are printed. -/
def values (p : ListParameter) : List CString := p.elements.map (·.value)

structure Fits (p : ListParameter) : Prop where
  addr : IsWord (addr (.name p.name))
  id : PlainText p.id
  values : ∀ value ∈ p.values, PlainText value
  nonempty : p.elements ≠ []
  length : p.id.1.length + 7 + (terminated p.values).length < 65536

def Describes (p : ListParameter) : STRStream → Prop
  | .listParameter s =>
      (s.addr.toNat : Int) = addr (.name p.name) ∧ s.name = p.id ∧ s.elements = p.values
  | _ => False

/-- The sum is the size of the elements. -/
theorem elementsLength_eq (p : ListParameter) :
    p.elementsLength = (terminated p.values).length := by
  have hfold : ∀ (l : Nat) (elements : List Map),
      elements.foldl (fun l e => l + (e.value.1.length + 1)) l =
        l + (terminated (elements.map (·.value))).length := by
    intro l elements
    induction elements generalizing l with
    | nil => rfl
    | cons e elements ih =>
        rw [List.foldl_cons, ih, List.map_cons, terminated_cons, List.length_append,
          List.length_cons]
        omega
  rw [elementsLength, hfold, Nat.zero_add, values]

variable {addr} in
theorem emitsRecords_info {p : ListParameter} (h : p.Fits addr) (hid : p.idLineno ≠ 0) :
    EmitsRecords addr p.info [p.Describes addr] := by
  let s : STRListParameter := ⟨BitVec.ofInt 16 (addr (.name p.name)), p.id, p.values⟩
  -- the elements behind the name
  have helements : Emits addr (p.elements.map fun e => .string e.value : AsmText)
      (terminated p.values) := by
    rw [terminated, values, List.flatMap_map]
    refine emits_map fun e he => ?_
    exact emits_name (h.values _ (List.mem_map_of_mem he))
  have hbody : Emits addr ([.hword (.sym (.name p.name)), .hword (.num p.elements.length),
      .string p.id] ++ p.elements.map fun e => .string e.value : AsmText) s.body := by
    have hlines := ((helements.string h.id).hword (.num p.elements.length)).hword
      (.sym (.name p.name))
    have hcount : s.elements.length = p.elements.length := List.length_map _
    rw [STRListParameter.body, hcount, terminated_cons, ← BitVec.ofInt_natCast]
    exact hlines
  have hlen : s.body.length = 5 + p.id.1.length + (terminated p.values).length := s.length_body
  have hfits := h.length
  rw [info, if_neg hid, List.append_assoc, elementsLength_eq]
  refine emitsRecords_array (s := .listParameter s) (emits_record _ ?_ hbody) ?_ ?_
    ⟨toNat_ofInt_word h.addr, rfl, rfl⟩
  · omega
  · -- a list without elements would not be parsed
    exact fun hnil => h.nonempty (List.map_eq_nil_iff.mp hnil)
  · rw [STRStream.array, length_frame]
    omega

end ListParameter

namespace GroupObject

/-- The object has the index `i`. -/
structure Fits (i : Nat) (o : GroupObject) : Prop where
  index : i < 256
  id : PlainText o.id
  length : o.id.1.length + 4 < 65536

def Describes (i : Nat) (o : GroupObject) : STRStream → Prop
  | .groupObject s => s.no.toNat = i ∧ s.name = o.id
  | _ => False

variable {addr} in
theorem emitsRecords_info {i : Nat} {o : GroupObject} (h : o.Fits i) (hid : o.idLineno ≠ 0) :
    EmitsRecords addr (o.info i) [o.Describes i] := by
  let s : STRGroupObject := ⟨BitVec.ofInt 8 i, o.id⟩
  have hbody : Emits addr [.byte [.num i], .string o.id] s.body :=
    (emits_name h.id).byte [.num i]
  have hlen : s.body.length = 2 + o.id.1.length := by
    simp [s, STRGroupObject.body]
    omega
  have hno : s.no.toNat = i := by
    show (BitVec.ofInt 8 i).toNat = i
    rw [BitVec.ofInt_natCast, BitVec.toNat_ofNat]
    exact Nat.mod_eq_of_lt h.index
  have hfits := h.length
  rw [info, if_neg hid]
  refine emitsRecords_array (s := .groupObject s) (emits_record _ (by omega) hbody) trivial
    ?_ ⟨hno, rfl⟩
  rw [STRStream.array, length_frame]
  omega

end GroupObject

/-! ## The records of the header -/

namespace Device

/-- The numbers in the records of a BCU 2 are in range; `CheckDevice` has made the keys. -/
structure FitsBCU2 (d : Device) : Prop where
  installKey : 0 ≤ d.installKey ∧ d.installKey < 2 ^ 32
  key : 3 ≤ d.key.length
  words : ∀ o ∈ bcu2InitOperands d, IsWord (o.value addr)

def DescribesType (d : Device) : STRStream → Prop
  | .bcuType s => s.bcutype = d.bcu.code
  | _ => False

def DescribesKeys (d : Device) : STRStream → Prop
  | .bcu2Key s => (s.installkey.toNat : Int) = d.installKey ∧ s.keys = d.key.take 3
  | _ => False

/-- The values of the fields. -/
structure StartValues (d : Device) (s : STRBCU2Start) : Prop where
  addrtabStart : (s.addrtabStart.toNat : Int) = addr .addrtab
  addrtabSize : (s.addrtabSize.toNat : Int) = addr .addrtabEnd - addr .addrtab
  assoctabStart : (s.assoctabStart.toNat : Int) = addr .assoctab
  assoctabSize : (s.assoctabSize.toNat : Int) = addr .assoctabEnd - addr .assoctab
  readonlyStart : (s.readonlyStart.toNat : Int) = addr .readonlyStart
  readonlyEnd : (s.readonlyEnd.toNat : Int) = addr .readonlyEnd
  paramStart : (s.paramStart.toNat : Int) = addr .paramStart
  paramEnd : (s.paramEnd.toNat : Int) = addr .paramEnd
  objPtr : (s.objPtr.toNat : Int) = addr .eibobjects
  objCount : (s.objCount.toNat : Int) = d.objects
  appcallback : (s.appcallback.toNat : Int) = addr .sapCallback
  groupobjPtr : (s.groupobjPtr.toNat : Int) = addr .commobjs
  seg0 : (s.seg0.toNat : Int) = addr .ramStart
  seg1 : (s.seg1.toNat : Int) = addr .eepromStart
  sphandler : (s.sphandler.toNat : Int) = if d.usePEI then addr .peihandler else 0
  initaddr : (s.initaddr.toNat : Int) = addr .userInit
  runaddr : (s.runaddr.toNat : Int) = addr .userRun
  saveaddr : (s.saveaddr.toNat : Int) = addr .userSave
  eepromStart : (s.eepromStart.toNat : Int) = addr .eepromStart
  eepromEnd : (s.eepromEnd.toNat : Int) = addr .eepromEnd
  pollAddr : s.pollAddr = 0#16
  pollSlot : s.pollSlot = 0#8

def DescribesStart (d : Device) : STRStream → Prop
  | .bcu2Start s => d.StartValues addr s
  | _ => False

variable {addr}

variable (addr) in
theorem emitsRecords_type (d : Device) :
    EmitsRecords addr (recordText 4 LoadControlType.bcuType ++ [.hword (.num d.bcu.code.toNat)])
      [d.DescribesType] := by
  let s : STRBCUType := ⟨d.bcu.code⟩
  have hbody : Emits addr ([.hword (.num d.bcu.code.toNat)] : AsmText) s.body :=
    emits_nil.hword_toNat d.bcu.code
  refine emitsRecords_array (s := .bcuType s) (emits_record _ rfl hbody) trivial ?_ rfl
  show 6 < 65538
  omega

/-- The three keys are there. -/
theorem readKeys_eq {d : Device} (h : 3 ≤ d.key.length) : readKeys d = .ok (d.key.take 3) := by
  have hrange : List.range 3 = List.range (d.key.take 3).length := by
    rw [List.length_take, Nat.min_eq_left h]
  rw [readKeys, hrange]
  refine mapM_range_eq_ok fun i hi => ?_
  have hlt : i < d.key.length := by
    rw [List.length_take] at hi
    omega
  rw [List.getElem?_eq_getElem hlt, List.getElem_take]

theorem emitsRecords_keys {d : Device} (h : d.FitsBCU2 addr) :
    EmitsRecords addr (bcu2KeyText d (d.key.take 3)) [d.DescribesKeys] := by
  let s : STRBCU2Key := ⟨BitVec.ofInt 32 d.installKey, d.key.take 3⟩
  have hkeys : Emits addr ((d.key.take 3).map fun k => .long (.num k.toNat) : AsmText)
      ((d.key.take 3).flatMap keyBytes) := by
    refine emits_map fun k _ => ?_
    exact emits_nil.long_toNat k
  have hbody : Emits addr ([.long (.num d.installKey)] ++
      (d.key.take 3).map fun k => .long (.num k.toNat) : AsmText) s.body := hkeys.long _
  -- three keys of four bytes behind the installation key
  have hlen : s.body.length = 16 := by
    have hthree := h.key
    rw [STRBCU2Key.length_body, List.length_take]
    omega
  have hinstall : (s.installkey.toNat : Int) = d.installKey := by
    obtain ⟨hnonneg, hlt⟩ := h.installKey
    show ((BitVec.ofInt 32 d.installKey).toNat : Int) = d.installKey
    rw [BitVec.toNat_ofInt]
    omega
  rw [bcu2KeyText, List.append_assoc]
  refine emitsRecords_array (s := .bcu2Key s) (emits_record _ (by omega) hbody) trivial ?_
    ⟨hinstall, rfl⟩
  rw [STRStream.array, length_frame]
  omega

theorem emitsRecords_start {d : Device} (h : d.FitsBCU2 addr) :
    EmitsRecords addr (bcu2InitText d) [d.DescribesStart addr] := by
  let word : Operand Label → Word16 := fun o => BitVec.ofInt 16 (o.value addr)
  let s : STRBCU2Start :=
    { addrtabStart := word (.sym .addrtab)
      addrtabSize := word (.diff .addrtabEnd .addrtab)
      assoctabStart := word (.sym .assoctab)
      assoctabSize := word (.diff .assoctabEnd .assoctab)
      readonlyStart := word (.sym .readonlyStart)
      readonlyEnd := word (.sym .readonlyEnd)
      paramStart := word (.sym .paramStart)
      paramEnd := word (.sym .paramEnd)
      objPtr := word (.sym .eibobjects)
      objCount := word (.num d.objects)
      appcallback := word (.sym .sapCallback)
      groupobjPtr := word (.sym .commobjs)
      seg0 := word (.sym .ramStart)
      seg1 := word (.sym .eepromStart)
      sphandler := word (if d.usePEI then .sym .peihandler else .num 0)
      initaddr := word (.sym .userInit)
      runaddr := word (.sym .userRun)
      saveaddr := word (.sym .userSave)
      eepromStart := word (.sym .eepromStart)
      eepromEnd := word (.sym .eepromEnd)
      pollAddr := word (.num 0)
      pollSlot := BitVec.ofInt 8 0 }
  -- all but the last field are words, each printed from its operand
  have hwords : Emits addr ((bcu2InitOperands d).map .hword : AsmText)
      ((bcu2InitOperands d).flatMap fun o => wordBytes (word o)) :=
    emits_map fun o _ => emits_nil.hword o
  have hbody : Emits addr ((bcu2InitOperands d).map .hword ++ [.byte [.num 0]] : AsmText) s.body :=
    hwords.append (emits_nil.byte [.num 0])
  have hvalue : ∀ o ∈ bcu2InitOperands d, ((word o).toNat : Int) = o.value addr :=
    fun o ho => toNat_ofInt_word (h.words o ho)
  have hstart : d.StartValues addr s := by
    simp only [bcu2InitOperands, List.forall_mem_cons] at hvalue
    obtain ⟨h₁, h₂, h₃, h₄, h₅, h₆, h₇, h₈, h₉, h₁₀, h₁₁, h₁₂, h₁₃, h₁₄, h₁₅, h₁₆, h₁₇, h₁₈, h₁₉,
      h₂₀, -⟩ := hvalue
    -- the one field that is not always a label
    rw [apply_ite (Operand.value addr)] at h₁₅
    exact ⟨h₁, h₂, h₃, h₄, h₅, h₆, h₇, h₈, h₉, h₁₀, h₁₁, h₁₂, h₁₃, h₁₄, h₁₅, h₁₆, h₁₇, h₁₈, h₁₉,
      h₂₀, rfl, rfl⟩
  rw [bcu2InitText, List.append_assoc]
  refine emitsRecords_array (s := .bcu2Start s) (emits_record _ rfl hbody) trivial ?_ hstart
  show 47 < 65538
  omega

/-! ## The text of a device -/

variable (addr) in
/-- The numbers of the device fit the fields of its records, and its strings are plain. -/
structure Fits (d : Device) : Prop where
  stringParameters : ∀ p ∈ d.stringParameters, p.idLineno ≠ 0 → p.Fits addr
  floatParameters : ∀ p ∈ d.floatParameters, p.idLineno ≠ 0 → p.Fits addr
  intParameters : ∀ p ∈ d.intParameters, p.idLineno ≠ 0 → p.Fits addr
  listParameters : ∀ p ∈ d.listParameters, p.idLineno ≠ 0 → p.Fits addr
  groupObjects : ∀ o ∈ d.groupObjects.zipIdx, o.1.idLineno ≠ 0 → o.1.Fits o.2
  bcu2 : d.bcu ≠ .bcu12 → d.FitsBCU2 addr

variable (addr) in
/-- The streams that the parameters and the group objects with an ID ask for. -/
def parameterStreams (d : Device) : List (STRStream → Prop) :=
  (d.stringParameters.filter fun p => p.idLineno ≠ 0).map (StringParameter.Describes addr) ++
    (d.floatParameters.filter fun p => p.idLineno ≠ 0).map (FloatParameter.Describes addr) ++
    (d.intParameters.filter fun p => p.idLineno ≠ 0).map (IntParameter.Describes addr) ++
    (d.listParameters.filter fun p => p.idLineno ≠ 0).map (ListParameter.Describes addr) ++
    (d.groupObjects.zipIdx.filter fun o => o.1.idLineno ≠ 0).map fun o => o.1.Describes o.2

variable (addr) in
/-- The streams that the header asks for. -/
def headerStreams (d : Device) : List (STRStream → Prop) :=
  if d.bcu = .bcu12 then [d.DescribesType]
  else [d.DescribesType, d.DescribesKeys, d.DescribesStart addr]

theorem assemblesTo_printParameterInfo {d : Device} (h : d.Fits addr) :
    AssemblesTo addr (printParameterInfo d) (d.parameterStreams addr) := by
  have hstrings := emitsRecords_flatMap (fun p _ hid => if_pos hid) fun p hp hid =>
    StringParameter.emitsRecords_info (h.stringParameters p hp hid) hid
  have hfloats := emitsRecords_flatMap (fun p _ hid => if_pos hid) fun p hp hid =>
    FloatParameter.emitsRecords_info (h.floatParameters p hp hid) hid
  have hints := emitsRecords_flatMap (fun p _ hid => if_pos hid) fun p hp hid =>
    IntParameter.emitsRecords_info (h.intParameters p hp hid) hid
  have hlists := emitsRecords_flatMap (fun p _ hid => if_pos hid) fun p hp hid =>
    ListParameter.emitsRecords_info (h.listParameters p hp hid) hid
  have hobjects : EmitsRecords addr (d.groupObjects.zipIdx.flatMap fun o => o.1.info o.2)
      ((d.groupObjects.zipIdx.filter fun o => o.1.idLineno ≠ 0).map fun o => o.1.Describes o.2) :=
    emitsRecords_flatMap (fun o _ hid => if_pos hid) fun o ho hid =>
      GroupObject.emitsRecords_info (h.groupObjects o ho hid) hid
  exact ((((hstrings.append hfloats).append hints).append hlists).append hobjects).assemblesTo

theorem assemblesTo_genBCUHeader {d : Device} (h : d.Fits addr) :
    ∃ text, genBCUHeader d = .ok text ∧ AssemblesTo addr text (d.headerStreams addr) := by
  have htype := emitsRecords_type addr d
  rw [genBCUHeader, headerStreams]
  by_cases hbcu : d.bcu = .bcu12
  · rw [if_pos hbcu, if_pos hbcu]
    exact ⟨_, rfl, htype.assemblesTo_between d.bcu.code⟩
  · have hfits := h.bcu2 hbcu
    have hall := (htype.append (emitsRecords_keys hfits)).append (emitsRecords_start hfits)
    have htext := hall.assemblesTo_between d.bcu.code
    rw [if_neg hbcu, if_neg hbcu, readKeys_eq hfits.key]
    refine ⟨_, rfl, ?_⟩
    simp only [List.append_assoc] at htext ⊢
    exact htext

end Device

end Describe

/-- The records of `printParameterInfo` and of `GenBCUHeader` are parsed as the streams that the
    device asks for. -/
theorem loadcontrol_parses {addr : Label → Int} {d : Device} (h : d.Fits addr) :
    AssemblesTo addr (printParameterInfo d) (d.parameterStreams addr) ∧
      ∃ text, genBCUHeader d = .ok text ∧ AssemblesTo addr text (d.headerStreams addr) :=
  ⟨d.assemblesTo_printParameterInfo h, d.assemblesTo_genBCUHeader h⟩

/-- A BCU 2 with a string parameter, a list parameter and a group object. -/
def describedDevice : Device :=
  let name : CString := ⟨[0x61#8], by decide⟩
  { bcu := .bcu20
    installKey := 0xffffffff
    key := [0xffffffff#32, 0xffffffff#32, 0xffffffff#32]
    stringParameters := [{ id := name, idLineno := 1, name, maxLength := 10 }]
    listParameters := [{ id := name, idLineno := 2, name, elements := [{ name, value := name }] }]
    groupObjects := [{ id := name, idLineno := 3 }] }

theorem loadcontrol_parses_described :
    AssemblesTo (fun _ => 0x100) (printParameterInfo describedDevice)
        (describedDevice.parameterStreams fun _ => 0x100) ∧
      ∃ text, genBCUHeader describedDevice = .ok text ∧
        AssemblesTo (fun _ => 0x100) text (describedDevice.headerStreams fun _ => 0x100) := by
  refine loadcontrol_parses ⟨?_, ?_, ?_, ?_, ?_, fun _ => ⟨?_, ?_, ?_⟩⟩
  · rintro p hp -
    obtain rfl := List.mem_singleton.mp hp
    exact ⟨by decide, by decide, by decide, by decide⟩
  · exact fun p hp => absurd hp List.not_mem_nil
  · exact fun p hp => absurd hp List.not_mem_nil
  · rintro p hp -
    obtain rfl := List.mem_singleton.mp hp
    exact ⟨by decide, by decide, by decide, by decide, by decide⟩
  · rintro o ho -
    obtain rfl := List.mem_singleton.mp ho
    exact ⟨by decide, by decide, by decide⟩
  · exact ⟨by decide, by decide⟩
  · decide
  · decide

end BcuSdk.BcuGen
