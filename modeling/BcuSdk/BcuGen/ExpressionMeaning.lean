/-
  BcuSdk.BcuGen.ExpressionMeaning

  The check of a condition accepts only what is well typed, and keeps what it
  means.

  A rewritten tree is read by the IDs, the original one by the names.  Both
  find the same parameter, because the checks of the parameters have given
  distinct IDs to distinct names; a parameter without an ID is replaced by
  its default, which is its value.
-/
import BcuSdk.BcuGen.CheckNumbering
import BcuSdk.BcuGen.Expression

namespace BcuSdk.BcuGen.Description

open BcuSdk.Lib

/-! ## Places -/

section

variable {α : Type} {p : α → Bool} {as : List α} {a : α} {i : Nat}

theorem of_locate (h : locate p as = some (a, i)) : as[i]? = some a ∧ p a = true := by
  have hp : p (a, i).1 = true := List.find?_some (p := fun a : α × Nat => p a.1) h
  exact ⟨List.mem_zipIdx_iff_getElem?.mp (List.mem_of_find?_eq_some h), hp⟩

/-- The code looks for the entry itself. -/
theorem find?_eq_map_locate : as.find? p = (locate p as).map (·.1) := by
  conv_lhs => rw [← List.zipIdx_map_fst 0 as]
  rw [List.find?_map]
  rfl

theorem locate_eq_none (h : ∀ a ∈ as, p a = false) : locate p as = none := by
  have hfind : as.find? p = none := List.find?_eq_none.mpr fun a ha => by rw [h a ha]; decide
  rw [find?_eq_map_locate] at hfind
  exact Option.map_eq_none_iff.mp hfind

/-- The only entry with `p`. -/
theorem locate_of_unique (hget : as[i]? = some a) (ha : p a = true)
    (h : ∀ j b, as[j]? = some b → p b = true → j = i) : locate p as = some (a, i) := by
  cases hlocate : locate p as with
  | none =>
      have hfind : as.find? p = none := by rw [find?_eq_map_locate, hlocate]; rfl
      exact absurd ha (List.find?_eq_none.mp hfind a (List.mem_of_getElem? hget))
  | some bj =>
      obtain ⟨b, j⟩ := bj
      obtain ⟨hb, hpb⟩ := of_locate hlocate
      obtain rfl := h j b hb hpb
      rw [hget] at hb
      rw [Option.some.inj hb]

/-- What the code finds has a place. -/
theorem locate_of_find? (h : as.find? p = some a) : ∃ i, locate p as = some (a, i) := by
  rw [find?_eq_map_locate] at h
  obtain ⟨⟨b, i⟩, hlocate, rfl⟩ := Option.map_eq_some_iff.mp h
  exact ⟨i, hlocate⟩

theorem locate_of_find?_none (h : as.find? p = none) : locate p as = none := by
  rw [find?_eq_map_locate] at h
  exact Option.map_eq_none_iff.mp h

end

/-! ## IDs -/

/-- Two entries with an ID have different ones. -/
def Entry.Apart (e e' : Entry) : Prop := e.idLineno ≠ 0 → e'.idLineno ≠ 0 → e.id ≠ e'.id

theorem Entry.Apart.symm {e e' : Entry} (h : e.Apart e') : e'.Apart e :=
  fun he' he heq => h he he' heq.symm

theorem Enters.pairwise {es : List Entry} {s s' : Symbols} (h : Enters es s s') :
    es.Pairwise Entry.Apart := by
  have hnames : es.Pairwise fun e e' => e.name ≠ e'.name := List.pairwise_map.mp h.nodup
  refine hnames.imp_of_mem ?_
  intro e e' he he' hne hlineno hlineno' hid
  exact hne ((h.name_eq_iff he he' hlineno hlineno').mpr hid)

section

variable {α : Type} {entry : α → Entry} {as : List α} {e : Entry}

/-- A parameter is found by its ID. -/
theorem locate_of_pairwise {a : α} {i : Nat} (h : (as.map entry).Pairwise Entry.Apart)
    (hget : as[i]? = some a) (hlineno : (entry a).idLineno ≠ 0) :
    locate (fun b => (entry b).idLineno ≠ 0 ∧ (entry b).id = (entry a).id) as = some (a, i) := by
  refine locate_of_unique hget (by simpa using hlineno) ?_
  intro j b hb hpb
  obtain ⟨hb0, hid⟩ := of_decide_eq_true hpb
  have hsame := List.pairwise_iff_getElem.mp h
  by_contra hne
  obtain ⟨hi, rfl⟩ := List.getElem?_eq_some_iff.mp hget
  obtain ⟨hj, rfl⟩ := List.getElem?_eq_some_iff.mp hb
  obtain hlt | hgt := Nat.lt_or_gt_of_ne hne
  · have hapart := hsame j i (by simpa using hj) (by simpa using hi) hlt
    rw [List.getElem_map, List.getElem_map] at hapart
    exact hapart hb0 hlineno hid
  · have hapart := hsame i j (by simpa using hi) (by simpa using hj) hgt
    rw [List.getElem_map, List.getElem_map] at hapart
    exact hapart hlineno hb0 hid.symm

/-- The ID of one table is not found in another one. -/
theorem locate_of_apart (h : ∀ e' ∈ as.map entry, e'.Apart e) (hlineno : e.idLineno ≠ 0) :
    locate (fun b => (entry b).idLineno ≠ 0 ∧ (entry b).id = e.id) as = none := by
  apply locate_eq_none
  intro b hb
  apply decide_eq_false
  rintro ⟨hb0, hid⟩
  exact h (entry b) (List.mem_map_of_mem hb) hb0 hlineno hid

end

/-- The IDs of the parameters are distinct, over all tables. -/
structure Device.Distinct (d : Device) : Prop where
  strings : (d.stringParameters.map (·.entry)).Pairwise Entry.Apart
  ints : (d.intParameters.map (·.entry)).Pairwise Entry.Apart
  floats : (d.floatParameters.map (·.entry)).Pairwise Entry.Apart
  lists : (d.listParameters.map (·.entry)).Pairwise Entry.Apart
  stringInt : ∀ e ∈ d.stringParameters.map (·.entry), ∀ e' ∈ d.intParameters.map (·.entry),
    e.Apart e'
  stringFloat : ∀ e ∈ d.stringParameters.map (·.entry), ∀ e' ∈ d.floatParameters.map (·.entry),
    e.Apart e'
  intFloat : ∀ e ∈ d.intParameters.map (·.entry), ∀ e' ∈ d.floatParameters.map (·.entry),
    e.Apart e'

theorem Device.distinct_of_pairwise {d : Device} (h : d.entries.Pairwise Entry.Apart) :
    d.Distinct := by
  rw [entries, List.pairwise_append, List.pairwise_append, List.pairwise_append] at h
  obtain ⟨⟨⟨hs, hf, hsf⟩, hi, hsfi⟩, hl, -⟩ := h
  exact {
    strings := hs
    ints := hi
    floats := hf
    lists := hl
    stringInt := fun e he e' he' => hsfi e (List.mem_append_left _ he) e' he'
    stringFloat := hsf
    intFloat := fun e he e' he' => (hsfi e' (List.mem_append_right _ he') e he).symm }

/-! ## Leaves -/

section

variable (l : Int) {d : Device} (I : Interpretation) {a : Setting}

/-! A parameter with an ID is the one that its ID names. -/

theorem byId_string (hd : d.Distinct) {o : StringParameter} {i : Nat}
    (hget : d.stringParameters[i]? = some o) (h0 : o.idLineno ≠ 0) :
    (Env.byId d a).value o.id = some (.string (a.strings i)) := by
  have hid : locate (fun b => b.idLineno ≠ 0 ∧ b.id = o.id) d.stringParameters = some (o, i) :=
    locate_of_pairwise hd.strings hget h0
  simp only [Env.byId, hid]

theorem byId_int (hd : d.Distinct) {o : IntParameter} {i : Nat}
    (hget : d.intParameters[i]? = some o) (h0 : o.idLineno ≠ 0) :
    (Env.byId d a).value o.id = some (.int (a.ints i)) := by
  have hmem := List.mem_map_of_mem (f := IntParameter.entry) (List.mem_of_getElem? hget)
  have hnone : locate (fun b => b.idLineno ≠ 0 ∧ b.id = o.id) d.stringParameters = none :=
    locate_of_apart (fun e' he' => hd.stringInt e' he' _ hmem) h0
  have hid : locate (fun b => b.idLineno ≠ 0 ∧ b.id = o.id) d.intParameters = some (o, i) :=
    locate_of_pairwise hd.ints hget h0
  simp only [Env.byId, hnone, hid]

theorem byId_float (hd : d.Distinct) {o : FloatParameter} {i : Nat}
    (hget : d.floatParameters[i]? = some o) (h0 : o.idLineno ≠ 0) :
    (Env.byId d a).value o.id = some (.float (a.floats i)) := by
  have hmem := List.mem_map_of_mem (f := FloatParameter.entry) (List.mem_of_getElem? hget)
  have hnone : locate (fun b => b.idLineno ≠ 0 ∧ b.id = o.id) d.stringParameters = none :=
    locate_of_apart (fun e' he' => hd.stringFloat e' he' _ hmem) h0
  have hnone' : locate (fun b => b.idLineno ≠ 0 ∧ b.id = o.id) d.intParameters = none :=
    locate_of_apart (fun e' he' => hd.intFloat e' he' _ hmem) h0
  have hid : locate (fun b => b.idLineno ≠ 0 ∧ b.id = o.id) d.floatParameters = some (o, i) :=
    locate_of_pairwise hd.floats hget h0
  simp only [Env.byId, hnone, hnone', hid, Option.map_some]

/-- A name that is an expression: its ID has its value, or the default is its value. -/
theorem eval_of_parameterType (hd : d.Distinct) (ha : a.Defaults d) {name : CxxString}
    {t : ExType} {e : Expr} (h : parameterType l d name = .ok (t, e)) :
    eval I (.byId d a) e = (Env.byName d a).value name := by
  rw [parameterType] at h
  split at h
  -- the lists are searched in the order strings, integers, floats
  · next o hfind =>
    cases h
    obtain ⟨i, hi⟩ := locate_of_find? hfind
    have hget := (of_locate hi).1
    have hname : (Env.byName d a).value name = some (.string (a.strings i)) := by
      simp only [Env.byName, hi]
    rw [hname]
    -- without an ID the default stands in its place
    split
    · next h0 => rw [eval, ha.strings i o hget h0]
    · next h0 => rw [eval, byId_string hd hget h0]
  · next hstrings =>
    split at h
    · next o hfind =>
      cases h
      obtain ⟨i, hi⟩ := locate_of_find? hfind
      have hget := (of_locate hi).1
      have hname : (Env.byName d a).value name = some (.int (a.ints i)) := by
        simp only [Env.byName, locate_of_find?_none hstrings, hi]
      rw [hname]
      split
      · next h0 => rw [eval, ha.ints i o hget h0]
      · next h0 => rw [eval, byId_int hd hget h0]
    · next hints =>
      split at h
      · next o hfind =>
        cases h
        obtain ⟨i, hi⟩ := locate_of_find? hfind
        have hget := (of_locate hi).1
        have hname : (Env.byName d a).value name = some (.float (a.floats i)) := by
          simp only [Env.byName, locate_of_find?_none hstrings, locate_of_find?_none hints, hi,
            Option.map_some]
        rw [hname]
        split
        · next h0 => rw [eval, ha.floats i o hget h0]
        · next h0 => rw [eval, byId_float hd hget h0]
      · cases h

theorem hasType_of_parameterType {name : CxxString} {t : ExType} {e : Expr}
    (h : parameterType l d name = .ok (t, e)) : HasType d (.par name) t := by
  rw [parameterType] at h
  split at h
  · next o hfind =>
    cases h
    obtain rfl : o.name = name := by simpa using List.find?_some hfind
    exact .stringPar (List.mem_of_find?_eq_some hfind)
  · split at h
    · next o hfind =>
      cases h
      obtain rfl : o.name = name := by simpa using List.find?_some hfind
      exact .intPar (List.mem_of_find?_eq_some hfind)
    · split at h
      · next o hfind =>
        cases h
        obtain rfl : o.name = name := by simpa using List.find?_some hfind
        exact .floatPar (List.mem_of_find?_eq_some hfind)
      · cases h

theorem of_findElement {o : ListParameter} {n v : CxxString} (h : findElement l o n = .ok v) :
    ∃ e ∈ o.elements, e.name = n ∧ e.value = v := by
  rw [findElement] at h
  split at h
  · next e hfind =>
    cases h
    exact ⟨e, List.mem_of_find?_eq_some hfind, by simpa using List.find?_some hfind, rfl⟩
  · cases h

/-- Every name is one of an element. -/
theorem exists_of_mapM_findElement {o : ListParameter} {id id' : List CxxString}
    (h : id.mapM (findElement l o) = .ok id') : ∀ n ∈ id, ∃ e ∈ o.elements, e.name = n := by
  induction id generalizing id' with
  | nil =>
      intro n hn
      cases hn
  | cons m id ih =>
      rw [List.mapM_cons] at h
      obtain ⟨v, hv, h⟩ := bind_eq_ok.mp h
      obtain ⟨vs, hvs, -⟩ := bind_eq_ok.mp h
      intro n hn
      obtain rfl | hn := List.mem_cons.mp hn
      · obtain ⟨e, he, hname, -⟩ := of_findElement l hv
        exact ⟨e, he, hname⟩
      · exact ih hvs n hn

/-- An element is among the values exactly when it is among the names. -/
theorem contains_of_mapM_findElement {o : ListParameter} (ho : o.Numbered) {e : Map}
    (he : e ∈ o.elements) {id id' : List CxxString} (h : id.mapM (findElement l o) = .ok id') :
    id'.contains e.value = id.contains e.name := by
  induction id generalizing id' with
  | nil =>
      cases h
      rfl
  | cons n id ih =>
      rw [List.mapM_cons] at h
      obtain ⟨v, hv, h⟩ := bind_eq_ok.mp h
      obtain ⟨vs, hvs, h⟩ := bind_eq_ok.mp h
      cases h
      obtain ⟨e', he', rfl, rfl⟩ := of_findElement l hv
      have hiff := ho.name_eq_iff e he e' he'
      rw [List.contains_cons, List.contains_cons, ih hvs]
      by_cases heq : e.name = e'.name
      · rw [heq, hiff.mp heq, BEq.rfl, BEq.rfl]
      · rw [beq_false_of_ne heq, beq_false_of_ne (mt hiff.mpr heq)]

theorem wellTyped_of_checkExpressionList {s : CxxString} {id : List CxxString} {e : Expr}
    (h : checkExpressionList l d (.isIn s id) = .ok e) : WellTyped d (.isIn s id) := by
  rw [checkExpressionList] at h
  split at h
  · cases h
  · next o hfind =>
    obtain ⟨id', hid', -⟩ := bind_eq_ok.mp h
    obtain rfl : o.name = s := by simpa using List.find?_some hfind
    exact .isIn (List.mem_of_find?_eq_some hfind) (exists_of_mapM_findElement l hid')

/-- A list parameter and the names of elements. -/
theorem truth_of_checkExpressionList (hd : d.Distinct) (ha : a.Defaults d)
    (hn : ∀ o ∈ d.listParameters, o.Numbered) {s : CxxString} {id : List CxxString} {e : Expr}
    (h : checkExpressionList l d (.isIn s id) = .ok e) :
    truth I (.byId d a) e = truth I (.byName d a) (.isIn s id) := by
  rw [checkExpressionList] at h
  split at h
  · cases h
  · next o hfind =>
    obtain ⟨id', hid', h⟩ := bind_eq_ok.mp h
    obtain ⟨i, hi⟩ := locate_of_find? hfind
    have hget := (of_locate hi).1
    have ho : o.Numbered := hn o (List.mem_of_find?_eq_some hfind)
    have hname : (Env.byName d a).element s = (o.elements[a.lists i]?).map (·.name) := by
      simp only [Env.byName, hi, Option.bind_some]
    rw [truth, hname]
    split at h
    -- without an ID the answer is computed from the default
    · next h0 =>
      cases h
      obtain ⟨e, he, hdefault⟩ := ha.lists i o hget h0
      obtain ⟨e', he', hdefault', hvalue⟩ := ho.exists_default
      have hsame : e.value = o.listDefault := by
        rw [← hvalue]
        exact (ho.name_eq_iff e (List.mem_of_getElem? he) e' he').mp (hdefault.trans hdefault'.symm)
      have hcontains := contains_of_mapM_findElement l ho (List.mem_of_getElem? he) hid'
      rw [he, ← hsame, hcontains]
      simp only [truth, eval, Option.map_some]
      cases id.contains e.name
      · rfl
      · rfl
    -- with an ID the names of the elements become their values
    · next h0 =>
      cases h
      have hid : (Env.byId d a).element o.id = (o.elements[a.lists i]?).map (·.value) := by
        have hlocate : locate (fun b => b.idLineno ≠ 0 ∧ b.id = o.id) d.listParameters =
            some (o, i) := locate_of_pairwise hd.lists hget h0
        simp only [Env.byId, hlocate, Option.bind_some]
      rw [truth, hid]
      cases he : o.elements[a.lists i]? with
      | none => rfl
      | some e =>
          have hcontains := contains_of_mapM_findElement l ho (List.mem_of_getElem? he) hid'
          simp only [Option.map_some, hcontains]

/-! ## Trees -/

variable {ρ ρ' : Env}

theorem ExType.join_eq (t u : ExType) :
    (if t = .float then .float else if u = .float then .float else .int) = t.join u := by
  cases t <;> cases u <;> rfl

theorem ExType.numeric_of_not {t : ExType} (h : ¬ (t ≠ .int ∧ t ≠ .float)) : t.Numeric := by
  by_cases hint : t = .int
  · exact .inl hint
  · exact .inr (by
      by_contra hfloat
      exact h ⟨hint, hfloat⟩)

/-- Trees of numbers and texts are typed, and mean the same when their names do. -/
theorem of_getExpressionType
    (hleaf : ∀ name t e, parameterType l d name = .ok (t, e) → eval I ρ' e = ρ.value name)
    {e e' : Expr} {t : ExType} (h : getExpressionType l d e = .ok (t, e')) :
    HasType d e t ∧ eval I ρ' e' = eval I ρ e := by
  induction e generalizing e' t with
  | par name => exact ⟨hasType_of_parameterType l h, hleaf name t e' h⟩
  | int i =>
      cases h
      exact ⟨.int i, rfl⟩
  | float f =>
      cases h
      exact ⟨.float f, rfl⟩
  | string s =>
      cases h
      exact ⟨.string s, rfl⟩
  | neg op1 ih =>
      rw [getExpressionType] at h
      obtain ⟨⟨t₁, e₁⟩, h₁, h⟩ := bind_eq_ok.mp h
      obtain ⟨hnum, h⟩ := of_guard h
      cases h
      obtain ⟨htype, heval⟩ := ih h₁
      exact ⟨.neg htype (ExType.numeric_of_not hnum), by rw [eval, eval, heval]⟩
  | arith op op1 op2 ih1 ih2 =>
      rw [getExpressionType] at h
      split at h
      -- `%` takes integers only
      · next hmod =>
        obtain ⟨⟨t₁, e₁⟩, h₁, h⟩ := bind_eq_ok.mp h
        obtain ⟨hint₁, h⟩ := of_guard h
        obtain ⟨⟨t₂, e₂⟩, h₂, h⟩ := bind_eq_ok.mp h
        obtain ⟨hint₂, h⟩ := of_guard h
        cases h
        obtain ⟨htype₁, heval₁⟩ := ih1 h₁
        obtain ⟨htype₂, heval₂⟩ := ih2 h₂
        rw [not_not.mp hint₁] at htype₁
        rw [not_not.mp hint₂] at htype₂
        rw [hmod]
        exact ⟨.mod htype₁ htype₂, by rw [eval, eval, heval₁, heval₂]⟩
      · next hmod =>
        obtain ⟨⟨t₁, e₁⟩, h₁, h⟩ := bind_eq_ok.mp h
        obtain ⟨hnum₁, h⟩ := of_guard h
        obtain ⟨⟨t₂, e₂⟩, h₂, h⟩ := bind_eq_ok.mp h
        obtain ⟨hnum₂, h⟩ := of_guard h
        cases h
        obtain ⟨htype₁, heval₁⟩ := ih1 h₁
        obtain ⟨htype₂, heval₂⟩ := ih2 h₂
        rw [ExType.join_eq]
        exact ⟨.arith hmod htype₁ htype₂ (ExType.numeric_of_not hnum₁)
          (ExType.numeric_of_not hnum₂), by rw [eval, eval, heval₁, heval₂]⟩
  -- the rest has no type here, and is refused
  | null => cases h
  | none => cases h
  | and op1 op2 => cases h
  | or op1 op2 => cases h
  | not op1 => cases h
  | compare op op1 op2 => cases h
  | notNull op1 => cases h
  | isIn s id => cases h

/-- The types that may be compared. -/
theorem comparable_of_check {t u : ExType}
    (h : ¬ (if t = .int ∧ u = .float then ExType.float else t) ≠
      (if (if t = .int ∧ u = .float then ExType.float else t) = .float ∧ u = .int then .float
        else u)) : t.Comparable u := by
  revert h
  cases t <;> cases u <;> simp [ExType.Comparable, ExType.Numeric]

/-- The check of a condition: what it accepts is well typed and means the same. -/
theorem of_checkExpressionBool
    (hleaf : ∀ name t e, parameterType l d name = .ok (t, e) → eval I ρ' e = ρ.value name)
    (hlist : ∀ s id e, checkExpressionList l d (.isIn s id) = .ok e →
      truth I ρ' e = truth I ρ (.isIn s id))
    {e e' : Expr} (h : checkExpressionBool l d e = .ok e') :
    WellTyped d e ∧ truth I ρ' e' = truth I ρ e := by
  induction e generalizing e' with
  | and op1 op2 ih1 ih2 =>
      rw [checkExpressionBool] at h
      obtain ⟨e₁, h₁, h⟩ := bind_eq_ok.mp h
      obtain ⟨e₂, h₂, h⟩ := bind_eq_ok.mp h
      cases h
      obtain ⟨htype₁, htruth₁⟩ := ih1 h₁
      obtain ⟨htype₂, htruth₂⟩ := ih2 h₂
      exact ⟨.and htype₁ htype₂, by rw [truth, truth, htruth₁, htruth₂]⟩
  | or op1 op2 ih1 ih2 =>
      rw [checkExpressionBool] at h
      obtain ⟨e₁, h₁, h⟩ := bind_eq_ok.mp h
      obtain ⟨e₂, h₂, h⟩ := bind_eq_ok.mp h
      cases h
      obtain ⟨htype₁, htruth₁⟩ := ih1 h₁
      obtain ⟨htype₂, htruth₂⟩ := ih2 h₂
      exact ⟨.or htype₁ htype₂, by rw [truth, truth, htruth₁, htruth₂]⟩
  | not op1 ih =>
      rw [checkExpressionBool] at h
      obtain ⟨e₁, h₁, h⟩ := bind_eq_ok.mp h
      cases h
      obtain ⟨htype, htruth⟩ := ih h₁
      exact ⟨.not htype, by rw [truth, truth, htruth]⟩
  -- both sides are typed before the types are compared
  | compare op op1 op2 =>
      rw [checkExpressionBool, checkExpressionCompare] at h
      obtain ⟨⟨s₁, s₂⟩, h', h⟩ := bind_eq_ok.mp h
      cases h
      obtain ⟨⟨t₁, e₁⟩, h₁, h'⟩ := bind_eq_ok.mp h'
      obtain ⟨⟨t₂, e₂⟩, h₂, h'⟩ := bind_eq_ok.mp h'
      obtain ⟨hcompare, h'⟩ := of_guard h'
      cases h'
      obtain ⟨htype₁, heval₁⟩ := of_getExpressionType l I hleaf h₁
      obtain ⟨htype₂, heval₂⟩ := of_getExpressionType l I hleaf h₂
      exact ⟨.compare htype₁ htype₂ (comparable_of_check hcompare),
        by rw [truth, truth, heval₁, heval₂]⟩
  -- an expression on its own has to be an integer
  | notNull op1 =>
      rw [checkExpressionBool, checkExpressionInt] at h
      obtain ⟨s₁, h', h⟩ := bind_eq_ok.mp h
      cases h
      obtain ⟨⟨t₁, e₁⟩, h₁, h'⟩ := bind_eq_ok.mp h'
      obtain ⟨hint, h'⟩ := of_guard h'
      cases h'
      obtain ⟨htype, heval⟩ := of_getExpressionType l I hleaf h₁
      rw [not_not.mp hint] at htype
      exact ⟨.notNull htype, by rw [truth, truth, heval]⟩
  | isIn s id => exact ⟨wellTyped_of_checkExpressionList l h, hlist s id e' h⟩
  -- a number or a text is no condition
  | null => cases h
  | none => cases h
  | arith op op1 op2 => cases h
  | neg op1 => cases h
  | int i => cases h
  | float f => cases h
  | string s => cases h
  | par s => cases h

end

/-- The defaults of a checked description. -/
theorem exists_defaults {d : Device} (hn : ∀ o ∈ d.listParameters, o.Numbered) :
    ∃ a : Setting, a.Defaults d := by
  have hplace : ∀ i : Nat, ∃ k : Nat, ∀ o : ListParameter, d.listParameters[i]? = some o →
      ∃ e : Map, o.elements[k]? = some e ∧ e.name = o.default := by
    intro i
    cases hget : d.listParameters[i]? with
    | none => exact ⟨0, fun o ho => by cases ho⟩
    | some o =>
        obtain ⟨e, he, hname, -⟩ := (hn o (List.mem_of_getElem? hget)).exists_default
        obtain ⟨k, hk⟩ := List.mem_iff_getElem?.mp he
        refine ⟨k, ?_⟩
        intro o' ho'
        cases ho'
        exact ⟨e, hk, hname⟩
  -- a list needs the place of its default among the elements
  choose k hk using hplace
  exact ⟨{
    strings := fun i => (d.stringParameters[i]?.map (·.default)).getD none
    ints := fun i => (d.intParameters[i]?.map (·.default)).getD 0
    floats := fun i => (d.floatParameters[i]?.map (·.default)).getD 0
    lists := k }, {
    strings := fun i o ho _ => by simp only [ho, Option.map_some, Option.getD_some]
    ints := fun i o ho _ => by simp only [ho, Option.map_some, Option.getD_some]
    floats := fun i o ho _ => by simp only [ho, Option.map_some, Option.getD_some]
    lists := fun i o ho _ => hk i o ho }⟩

/-- A condition that is accepted for a checked description is well typed, and the tree that is
left means over the IDs what the original means over the names. -/
theorem checkExpressionBool_preserves (b : Build) (x : RegExps) (other : Int → BitVec 32)
    {d₀ d : Device} {s s' : Symbols} {l : Int} {e e' : Expr} (hb : b.check1 = true)
    (hnew : d₀.Unnumbered) (hd : checkParameters b x other d₀ s = .ok (d, s'))
    (h : checkExpressionBool l d e = .ok e') :
    WellTyped d e ∧ ∀ (I : Interpretation) (a : Setting), a.Defaults d →
      truth I (.byId d a) e' = truth I (.byName d a) e := by
  obtain ⟨henter, hnumbered⟩ := of_checkParameters b x other d₀ hb hnew hd
  have hdistinct : d.Distinct := Device.distinct_of_pairwise henter.pairwise
  have hmeaning : ∀ (I : Interpretation) (a : Setting), a.Defaults d →
      WellTyped d e ∧ truth I (.byId d a) e' = truth I (.byName d a) e := fun I a ha =>
    of_checkExpressionBool l I (fun _ _ _ => eval_of_parameterType l I hdistinct ha)
      (fun _ _ _ => truth_of_checkExpressionList l I hdistinct ha hnumbered) h
  obtain ⟨a, ha⟩ := exists_defaults hnumbered
  let I : Interpretation := ⟨fun _ => none, fun _ _ _ => none, fun _ _ _ => none⟩
  exact ⟨(hmeaning I a ha).1, fun I a ha => (hmeaning I a ha).2⟩

/-- A name of one letter. -/
def letter (b : Byte) (h : 0#8 ≠ b := by decide) : CxxString :=
  some ⟨[b], fun hmem => h (List.mem_singleton.mp hmem)⟩

/-- A number that an interface refers to, and a list that none does. -/
def twoParameters : Device where
  intParameters :=
    [{ lineno := 2, name := letter 0x6e#8, minValueLineno := 3, maxValue := 9, maxValueLineno := 4
       title := letter 0x4e#8, default := 5, defaultLineno := 5 }]
  listParameters :=
    [{ lineno := 6, name := letter 0x6c#8
       elements := [{ name := letter 0x61#8 }, { name := letter 0x62#8 }], elementsLineno := 7
       title := letter 0x4c#8, default := letter 0x62#8, defaultLineno := 8 }]
  functionalBlocks := [{ interfaces := [{ reference := [letter 0x6e#8] }] }]

theorem twoParameters_unnumbered : twoParameters.Unnumbered where
  strings := by
    intro o ho
    cases ho
  floats := by
    intro o ho
    cases ho
  ints := by decide
  lists := by decide

/-- The symbols are "id0" for the number, "id1" and "id2" for the elements. -/
def twoParametersChecked : Device :=
  let list : ListParameter :=
    { lineno := 6, name := letter 0x6c#8
      elements := [{ name := letter 0x61#8, value := some (symbolId 1) },
        { name := letter 0x62#8, value := some (symbolId 2) }]
      elementsLineno := 7, title := letter 0x4c#8, default := letter 0x62#8, defaultLineno := 8
      listElements := [{ name := some (symbolId 1) }, { name := some (symbolId 2) }]
      listDefault := some (symbolId 2), value := some (symbolId 2), valueLineno := 8, defIndex := 1 }
  { twoParameters with
    intParameters := twoParameters.intParameters.map fun o =>
      { o with id := some (symbolId 0), idLineno := 2, size := 1 }
    listParameters := [list] }

/-- `l IN (a) || n == 5` -/
def listOrNumber : Expr :=
  .or (.isIn (letter 0x6c#8) [letter 0x61#8]) (.compare .eq (.par (letter 0x6e#8)) (.int 5))

/-- `0 != 0 || id0 == 5` -/
def listOrNumberChecked : Expr :=
  .or (.notNull (.int 0)) (.compare .eq (.par (some (symbolId 0))) (.int 5))

theorem checkExpressionBool_preserves_listOrNumber :
    WellTyped twoParametersChecked listOrNumber ∧
      ∀ (I : Interpretation) (a : Setting), a.Defaults twoParametersChecked →
        truth I (.byId twoParametersChecked a) listOrNumberChecked =
          truth I (.byName twoParametersChecked a) listOrNumber :=
  checkExpressionBool_preserves { check1 := true, check2 := false }
    ⟨fun _ => true, fun _ _ => true⟩ (fun _ => 0) (s := Symbols.none) (l := 9) rfl
    twoParameters_unnumbered rfl rfl

end BcuSdk.BcuGen.Description
