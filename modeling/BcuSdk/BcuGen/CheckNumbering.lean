/-
  BcuSdk.BcuGen.CheckNumbering

  The names and IDs that the checks of the parameters leave.

  A check only appends to the symbols.  `Enters` says that the parameters it
  has gone over have symbols of their own among the new ones, and IDs, if any,
  from these.  Symbols have distinct names and distinct IDs, so names and IDs
  of parameters determine each other.
-/
import Mathlib.Data.List.Nodup
import BcuSdk.BcuGen.Check

namespace BcuSdk.BcuGen.Description

open BcuSdk.Lib

/-- The part of a parameter that the symbols are about. -/
structure Entry where
  name : CxxString
  id : CxxString
  idLineno : Int

def StringParameter.entry (o : StringParameter) : Entry := ⟨o.name, o.id, o.idLineno⟩

def FloatParameter.entry (o : FloatParameter) : Entry := ⟨o.name, o.id, o.idLineno⟩

def IntParameter.entry (o : IntParameter) : Entry := ⟨o.name, o.id, o.idLineno⟩

def ListParameter.entry (o : ListParameter) : Entry := ⟨o.name, o.id, o.idLineno⟩

/-- An element of a list parameter; its ID is its value. -/
def Map.entry (e : Map) : Entry := ⟨e.name, e.value, 1⟩

/-! ## Symbols for entries -/

/-- The entries have got symbols of their own in between. -/
def Enters (es : List Entry) (s s' : Symbols) : Prop :=
  ∃ new : List Symbol, s'.syms = s.syms ++ new ∧
    (es.map (·.name)).Sublist (new.map (·.name)) ∧
    ∀ e ∈ es, e.idLineno ≠ 0 → ∃ sym ∈ new, sym.name = e.name ∧ some sym.id = e.id

namespace Enters

variable {es es' : List Entry} {s s' s'' : Symbols}

theorem nil (s : Symbols) : Enters [] s s :=
  ⟨[], (List.append_nil _).symm, List.Sublist.refl _, by
    intro e he
    cases he⟩

theorem append (h : Enters es s s') (h' : Enters es' s' s'') : Enters (es ++ es') s s'' := by
  obtain ⟨new, hnew, hnames, hids⟩ := h
  obtain ⟨new', hnew', hnames', hids'⟩ := h'
  refine ⟨new ++ new', ?_, ?_, ?_⟩
  · rw [hnew', hnew, List.append_assoc]
  · rw [List.map_append, List.map_append]
    exact hnames.append hnames'
  · intro e he hlineno
    obtain he | he := List.mem_append.mp he
    · obtain ⟨sym, hsym, heq⟩ := hids e he hlineno
      exact ⟨sym, List.mem_append_left _ hsym, heq⟩
    · obtain ⟨sym, hsym, heq⟩ := hids' e he hlineno
      exact ⟨sym, List.mem_append_right _ hsym, heq⟩

/-- Some of the entries. -/
theorem sublist (h : Enters es s s') (hsub : es'.Sublist es) : Enters es' s s' := by
  obtain ⟨new, hnew, hnames, hids⟩ := h
  exact ⟨new, hnew, (hsub.map _).trans hnames, fun e he => hids e (hsub.subset he)⟩

/-- The entries have distinct names. -/
theorem nodup (h : Enters es s s') : (es.map (·.name)).Nodup := by
  obtain ⟨new, hnew, hnames, -⟩ := h
  have hall : (s'.syms.map (·.name)).Nodup := s'.names
  rw [hnew, List.map_append] at hall
  exact (List.nodup_append.mp hall).2.1.sublist hnames

/-- Entries with an ID have the same name exactly when they have the same ID. -/
theorem name_eq_iff (h : Enters es s s') {e e' : Entry} (he : e ∈ es) (he' : e' ∈ es)
    (hlineno : e.idLineno ≠ 0) (hlineno' : e'.idLineno ≠ 0) : e.name = e'.name ↔ e.id = e'.id := by
  obtain ⟨new, hnew, -, hids⟩ := h
  obtain ⟨sym, hsym, hname, hid⟩ := hids e he hlineno
  obtain ⟨sym', hsym', hname', hid'⟩ := hids e' he' hlineno'
  have hmem : sym ∈ s'.syms := by rw [hnew]; exact List.mem_append_right _ hsym
  have hmem' : sym' ∈ s'.syms := by rw [hnew]; exact List.mem_append_right _ hsym'
  have hidNodup : (s'.syms.map (·.id)).Nodup := by
    rw [s'.ids]
    exact List.nodup_range.map symbolId_injective
  constructor
  · intro heq
    rw [← hname, ← hname'] at heq
    rw [← hid, ← hid', List.inj_on_of_nodup_map s'.names hmem hmem' heq]
  · intro heq
    rw [← hid, ← hid'] at heq
    rw [← hname, ← hname',
      List.inj_on_of_nodup_map hidNodup hmem hmem' (Option.some.inj heq)]

end Enters

/-! ## The checks -/

/-- A new symbol is one for an entry of its name, which may have its ID. -/
theorem enters_of_newSymbol {name : CxxString} {lineno : Int} {id : CString} {s s' : Symbols}
    {e : Entry} (h : newSymbol name lineno s = .ok (id, s')) (hname : e.name = name)
    (hid : e.idLineno ≠ 0 → e.id = some id) : Enters [e] s s' := by
  rw [newSymbol] at h
  split at h
  · cases h
  · cases h
    refine ⟨[{ name := name, lineno := lineno, id := symbolId s.symId }], rfl, ?_, ?_⟩
    · rw [List.map_singleton, List.map_singleton, hname]
    · intro e' he' hlineno
      cases List.mem_singleton.mp he'
      exact ⟨_, List.mem_singleton_self _, hname.symm, (hid hlineno).symm⟩

/-- A loop enters what its steps enter, and each entry keeps what its step has found. -/
theorem of_checkAll {α : Type} {f : α → Symbols → Except CheckError (α × Symbols)}
    {entry : α → Entry} {P : α → Prop} {as : List α}
    (hf : ∀ a ∈ as, ∀ a' s s', f a s = .ok (a', s') → Enters [entry a'] s s' ∧ P a')
    {as' : List α} {s s' : Symbols} (h : checkAll f as s = .ok (as', s')) :
    Enters (as'.map entry) s s' ∧ ∀ a ∈ as', P a := by
  induction as generalizing as' s s' with
  | nil =>
      cases h
      exact ⟨.nil s, by
        intro a ha
        cases ha⟩
  | cons a as ih =>
      rw [checkAll] at h
      obtain ⟨⟨a', s₁⟩, ha, h⟩ := bind_eq_ok.mp h
      obtain ⟨⟨as₂, s₂⟩, has, h⟩ := bind_eq_ok.mp h
      cases h
      obtain ⟨henter, hP⟩ := hf a List.mem_cons_self a' s s₁ ha
      obtain ⟨hrest, hall⟩ := ih (fun b hb => hf b (List.mem_cons_of_mem _ hb)) has
      refine ⟨henter.append hrest, ?_⟩
      intro b hb
      obtain rfl | hb := List.mem_cons.mp hb
      · exact hP
      · exact hall b hb

section

variable (b : Build) (x : RegExps) (other : Int → BitVec 32) (d : Device)

/-- The end of a check enters the parameter, with or without its ID. -/
theorem enters_of_number {α : Type} {entry : α → Entry} {name : CxxString} {lineno : Int}
    {used : CString → α} {unused a : α} {s s' : Symbols}
    (h : number d name lineno used unused s = .ok (a, s'))
    (hused : ∀ id, (entry (used id)).name = name ∧ (entry (used id)).id = some id)
    (hunused : (entry unused).name = name ∧ (entry unused).idLineno = 0) :
    Enters [entry a] s s' := by
  rw [number] at h
  obtain ⟨⟨id, s₁⟩, hsymbol, h⟩ := bind_eq_ok.mp h
  cases h
  split
  · exact enters_of_newSymbol hsymbol (hused id).1 (fun _ => (hused id).2)
  · exact enters_of_newSymbol hsymbol hunused.1 (absurd hunused.2)

theorem enters_of_checkStringParameter {o o' : StringParameter} {s s' : Symbols}
    (hb : b.check1 = true) (hnew : o.idLineno = 0)
    (h : checkStringParameter b x d o s = .ok (o', s')) : Enters [o'.entry] s s' := by
  rw [checkStringParameter] at h
  obtain ⟨⟨o₁, s₁⟩, hcheck1, h⟩ := bind_eq_ok.mp (of_four_guards h)
  obtain ⟨-, -, h⟩ := bind_eq_ok.mp h
  cases h
  rw [if_pos hb, StringParameter.check1] at hcheck1
  exact enters_of_number d (of_four_guards hcheck1) (fun _ => ⟨rfl, rfl⟩) ⟨rfl, hnew⟩

theorem enters_of_checkFloatParameter {o o' : FloatParameter} {s s' : Symbols}
    (hb : b.check1 = true) (hnew : o.idLineno = 0)
    (h : checkFloatParameter b d o s = .ok (o', s')) : Enters [o'.entry] s s' := by
  rw [checkFloatParameter] at h
  obtain ⟨⟨o₁, s₁⟩, hcheck1, h⟩ := bind_eq_ok.mp (of_four_guards h)
  obtain ⟨-, -, h⟩ := bind_eq_ok.mp h
  cases h
  rw [if_pos hb, FloatParameter.check1] at hcheck1
  exact enters_of_number d (of_four_guards hcheck1) (fun _ => ⟨rfl, rfl⟩) ⟨rfl, hnew⟩

theorem enters_of_checkIntParameter {o o' : IntParameter} {s s' : Symbols}
    (hb : b.check1 = true) (hnew : o.idLineno = 0)
    (h : checkIntParameter b other d o s = .ok (o', s')) : Enters [o'.entry] s s' := by
  rw [checkIntParameter] at h
  obtain ⟨⟨o₁, s₁⟩, hcheck1, h⟩ := bind_eq_ok.mp (of_four_guards h)
  obtain ⟨-, -, h⟩ := bind_eq_ok.mp h
  cases h
  rw [if_pos hb, IntParameter.check1] at hcheck1
  -- the size that is set afterwards is no part of the entry
  show Enters [o₁.entry] s s'
  exact enters_of_number d (of_four_guards hcheck1) (fun _ => ⟨rfl, rfl⟩) ⟨rfl, hnew⟩

/-! ## List parameters -/

/-- The place that the loop has found. -/
theorem of_lastIndex {α : Type} {p : α → Bool} {as : List α} {i k : Nat} {df : Option Nat}
    (h : lastIndex p as i df = some k) :
    df = some k ∨ ∃ a, i ≤ k ∧ as[k - i]? = some a ∧ p a = true := by
  induction as generalizing i df with
  | nil => exact .inl h
  | cons a as ih =>
      rw [lastIndex] at h
      obtain hdf | ⟨b, hi, hget, hb⟩ := ih h
      · by_cases ha : p a = true
        · rw [if_pos ha] at hdf
          cases hdf
          exact .inr ⟨a, Nat.le_refl _, by rw [Nat.sub_self]; rfl, ha⟩
        · rw [if_neg ha] at hdf
          exact .inl hdf
      · refine .inr ⟨b, by omega, ?_, hb⟩
        rw [show k - i = (k - (i + 1)) + 1 by omega, List.getElem?_cons_succ]
        exact hget

/-- What the check of a list parameter leaves of its elements. -/
structure ListParameter.Numbered (o : ListParameter) : Prop where
  name_eq_iff : ∀ e ∈ o.elements, ∀ e' ∈ o.elements, e.name = e'.name ↔ e.value = e'.value
  exists_default : ∃ e ∈ o.elements, e.name = o.default ∧ e.value = o.listDefault

theorem enters_of_numberElement {lineno : Int} {e e' : Map} {s s' : Symbols}
    (h : numberElement lineno e s = .ok (e', s')) : Enters [e'.entry] s s' := by
  rw [numberElement] at h
  obtain ⟨⟨id, s₁⟩, hsymbol, h⟩ := bind_eq_ok.mp h
  cases h
  exact enters_of_newSymbol hsymbol rfl (fun _ => rfl)

theorem ListParameter.of_check1 {o o' : ListParameter} {s s' : Symbols} (hnew : o.idLineno = 0)
    (h : o.check1 d s = .ok (o', s')) : Enters [o'.entry] s s' ∧ o'.Numbered := by
  rw [check1] at h
  obtain ⟨-, h⟩ := of_guard h
  obtain ⟨-, h⟩ := of_guard h
  -- three kinds of symbols are made: the elements, the type, the parameter
  obtain ⟨⟨elements, s₁⟩, helements, h⟩ := bind_eq_ok.mp h
  dsimp only at h
  split at h
  · cases h
  · next df hdf =>
    obtain ⟨-, h⟩ := of_guard h
    obtain ⟨⟨_, s₂⟩, htype, h⟩ := bind_eq_ok.mp h
    have hall := of_checkAll (P := fun _ => True)
      (fun _ _ _ _ _ he => ⟨enters_of_numberElement he, trivial⟩) helements
    have hparameter : Enters [o'.entry] s₂ s' :=
      enters_of_number d h (fun _ => ⟨rfl, rfl⟩) ⟨rfl, hnew⟩
    have hskip : Enters [⟨_, none, 0⟩] s₁ s₂ := enters_of_newSymbol htype rfl (absurd rfl)
    have hkept : o'.elements = elements ∧ o'.default = o.default ∧
        o'.listDefault = valueAt elements (some df) := by
      obtain ⟨⟨id, s₃⟩, -, h⟩ := bind_eq_ok.mp h
      cases h
      split
      · exact ⟨rfl, rfl, rfl⟩
      · exact ⟨rfl, rfl, rfl⟩
    obtain ⟨hall', hdefault, hlistDefault⟩ := hkept
    refine ⟨((hall.1.append hskip).append hparameter).sublist (List.sublist_append_right _ _), ?_, ?_⟩
    · rw [hall']
      intro e he e' he'
      exact hall.1.name_eq_iff (List.mem_map_of_mem he) (List.mem_map_of_mem he') one_ne_zero
        one_ne_zero
    -- the default is the name of an element, whose value the field has
    · obtain hnone | ⟨e, -, hget, hname⟩ := of_lastIndex hdf
      · cases hnone
      · refine ⟨e, ?_, ?_, ?_⟩
        · rw [hall']
          exact List.mem_of_getElem? hget
        · rw [hdefault]
          exact of_decide_eq_true hname
        · rw [hlistDefault, valueAt, Option.bind_some]
          exact (congrArg (Option.bind · Map.value) hget).symm

theorem of_checkListParameter {o o' : ListParameter} {s s' : Symbols} (hb : b.check1 = true)
    (hnew : o.idLineno = 0) (h : checkListParameter b d o s = .ok (o', s')) :
    Enters [o'.entry] s s' ∧ o'.Numbered := by
  rw [checkListParameter] at h
  obtain ⟨-, h⟩ := of_guard h
  obtain ⟨-, h⟩ := of_guard h
  obtain ⟨-, h⟩ := of_guard h
  obtain ⟨⟨o₁, s₁⟩, hcheck1, h⟩ := bind_eq_ok.mp h
  obtain ⟨o₂, hcheck2, h⟩ := bind_eq_ok.mp h
  cases h
  rw [if_pos hb] at hcheck1
  obtain ⟨henter, hnumbered⟩ := ListParameter.of_check1 d hnew hcheck1
  -- the second check changes nothing that is numbered
  split at hcheck2
  · rw [ListParameter.check2] at hcheck2
    obtain ⟨-, hcheck2⟩ := of_guard hcheck2
    dsimp only at hcheck2
    split at hcheck2
    · cases hcheck2
    · cases hcheck2
      exact ⟨henter, hnumbered.1, hnumbered.2⟩
  · cases hcheck2
    exact ⟨henter, hnumbered⟩

/-! ## All parameters -/

/-- The parameters in the order of their checks. -/
def Device.entries : List Entry :=
  d.stringParameters.map (·.entry) ++ d.floatParameters.map (·.entry) ++
    d.intParameters.map (·.entry) ++ d.listParameters.map (·.entry)

/-- A description as the parser leaves it: its grammar has no `ID`, and the constructors set
`ID_lineno` to 0. -/
structure Device.Unnumbered : Prop where
  strings : ∀ o ∈ d.stringParameters, o.idLineno = 0
  floats : ∀ o ∈ d.floatParameters, o.idLineno = 0
  ints : ∀ o ∈ d.intParameters, o.idLineno = 0
  lists : ∀ o ∈ d.listParameters, o.idLineno = 0

/-- What the checks of the parameters leave. -/
theorem of_checkParameters {d' : Device} {s s' : Symbols} (hb : b.check1 = true)
    (hnew : d.Unnumbered) (h : checkParameters b x other d s = .ok (d', s')) :
    Enters d'.entries s s' ∧ ∀ o ∈ d'.listParameters, o.Numbered := by
  rw [checkParameters] at h
  obtain ⟨⟨strings, s₁⟩, hstrings, h⟩ := bind_eq_ok.mp h
  obtain ⟨⟨floats, s₂⟩, hfloats, h⟩ := bind_eq_ok.mp h
  obtain ⟨⟨ints, s₃⟩, hints, h⟩ := bind_eq_ok.mp h
  obtain ⟨⟨lists, s₄⟩, hlists, h⟩ := bind_eq_ok.mp h
  cases h
  have hs := of_checkAll (P := fun _ => True) (fun o ho _ _ _ hcheck =>
    ⟨enters_of_checkStringParameter b x d hb (hnew.strings o ho) hcheck, trivial⟩) hstrings
  have hf := of_checkAll (P := fun _ => True) (fun o ho _ _ _ hcheck =>
    ⟨enters_of_checkFloatParameter b d hb (hnew.floats o ho) hcheck, trivial⟩) hfloats
  have hi := of_checkAll (P := fun _ => True) (fun o ho _ _ _ hcheck =>
    ⟨enters_of_checkIntParameter b other d hb (hnew.ints o ho) hcheck, trivial⟩) hints
  have hl := of_checkAll (fun o ho _ _ _ hcheck =>
    of_checkListParameter b d hb (hnew.lists o ho) hcheck) hlists
  exact ⟨((hs.1.append hf.1).append hi.1).append hl.1, hl.2⟩

end

end BcuSdk.BcuGen.Description
