/-
  BcuSdk.BcuGen.PropertyConfig

  `parseProperty` (bcugen/lib/xmlreadconfig.cpp): the property that the
  configuration names is looked for in the objects of the device, and the
  element's children are stored in it.

  The search has a loop over the objects and, inside of it, one over the
  properties.  The inner loop counts `i` instead of `j`, and it takes its bound
  from the object with the number of the property.  So `j` is always 0: if the
  first object has properties, the first property of one object after the other
  is compared, and nothing ends that but a match or a read outside of an array
  (`findProperty_of_reaches`, `findProperty_of_not_reaches`); if it has none,
  nothing is compared at all (`findProperty_of_empty`).
-/
import BcuSdk.Lib.Aborting
import BcuSdk.Lib.CountedLoop
import BcuSdk.BcuGen.ImageEdit

namespace BcuSdk.BcuGen

open BcuSdk.Lib BcuSdk.Common

/-! ## Objects and properties -/

/-- `Property`. -/
structure Property where
  id : CString := emptyString
  idLineno : Int := 0
  disable : Bool := false
  disableLineno : Int := 0
  readOnly : Bool := false
  readOnlyLineno : Int := 0
  readAccess : Int := 0
  readAccessLineno : Int := 0
  writeAccess : Int := 0
  writeAccessLineno : Int := 0
  deriving DecidableEq, Repr

/-- `Object`. -/
structure Object where
  propertys : List Property := []
  deriving DecidableEq, Repr

/-- What may stand in a `Property` of the configuration. -/
inductive PropertyItem where
  | disable (v : Bool)
  | readOnly (v : Bool)
  | readAccess (v : Int)
  | writeAccess (v : Int)
  deriving DecidableEq, Repr

namespace Property

/-- The property has an ID, and it is `name`. -/
def HasID (p : Property) (name : CString) : Prop := p.idLineno ≠ 0 ∧ p.id = name

instance (p : Property) (name : CString) : Decidable (p.HasID name) :=
  inferInstanceAs (Decidable (_ ∧ _))

/-- The loop over the children. -/
def setItem (o : Property) : PropertyItem → Property
  | .disable v => { o with disable := v, disableLineno := 1 }
  | .readOnly v => { o with readOnly := v, readOnlyLineno := 1 }
  | .readAccess v => { o with readAccess := v, readAccessLineno := 1 }
  | .writeAccess v => { o with writeAccess := v, writeAccessLineno := 1 }

end Property

/-! ## The search -/

/-- `d.Objects[i].Propertys[j]`. -/
def property (objs : List Object) (i j : Nat) : Checked Property := do
  let o ← loadAt objs i
  loadAt o.propertys j

theorem property_eq_ok {objs : List Object} {i j : Nat} {p : Property} :
    property objs i j = .ok p ↔ ∃ o, objs[i]? = some o ∧ o.propertys[j]? = some p := by
  simp only [property, Checked.bind_eq_ok, loadAt_eq_ok]

theorem lt_of_property {objs : List Object} {i j : Nat} {p : Property}
    (h : property objs i j = .ok p) : i < objs.length := by
  obtain ⟨o, ho, -⟩ := property_eq_ok.mp h
  exact (List.getElem?_eq_some_iff.mp ho).1

/-- The inner loop, from `i` on: it is `i` that is counted, and `j` that stands in the bound.
    `true` stands for `goto ok`. -/
def findInner (objs : List Object) (name : CString) (i j : Nat) : Checked (Nat × Bool) :=
  match loadAt objs j with
  | .error f => .error f
  | .ok bound =>
      if j < bound.propertys.length then
        match _hp : property objs i j with
        | .error f => .error f
        | .ok p => if p.HasID name then .ok (i, true) else findInner objs name (i + 1) j
      else .ok (i, false)
termination_by objs.length - i
decreasing_by
  have := lt_of_property _hp
  omega

theorem findInner_le {objs : List Object} {name : CString} {i j i' : Nat} {found : Bool}
    (h : findInner objs name i j = .ok (i', found)) : i ≤ i' := by
  fun_induction findInner objs name i j with
  | case1 => cases h
  | case2 => cases h
  | case3 =>
      cases h
      exact Nat.le_refl _
  | case4 i bound _ _ p _ _ ih => exact (Nat.le_succ i).trans (ih h)
  | case5 =>
      cases h
      exact Nat.le_refl _

/-- The outer loop, from object `i` on. -/
def findProperty (objs : List Object) (name : CString) (i : Nat) : Aborting Die (Nat × Nat) :=
  if _hi : i < objs.length then
    match _hin : findInner objs name i 0 with
    | .error f => .ofChecked (.error f)
    | .ok (i', true) => return (i', 0)
    | .ok (i', false) => findProperty objs name (i' + 1)
  else throw .unknownProperty
termination_by objs.length - i
decreasing_by
  have := findInner_le _hin
  omega

/-- `parseProperty`, for a device with the objects `objs`. -/
def parseProperty (objs : List Object) (name : CString) (items : List PropertyItem) :
    Aborting Die (List Object) := do
  let (i, j) ← findProperty objs name 0
  let o ← .ofChecked (loadAt objs i)
  let p ← .ofChecked (loadAt o.propertys j)
  let p := items.foldl Property.setItem p
  return objs.set i { o with propertys := o.propertys.set j p }

section Search

variable {objs : List Object} {name : CString}

theorem property_of_not_ok {i j : Nat} (h : ∀ p, property objs i j ≠ .ok p) :
    property objs i j = .error .outOfBounds := by
  rw [property] at h ⊢
  rcases Nat.lt_or_ge i objs.length with hi | hi
  · rw [loadAt_of_lt hi, Checked.ok_bind] at h ⊢
    rcases Nat.lt_or_ge j objs[i].propertys.length with hj | hj
    · exact absurd (loadAt_of_lt hj) (h _)
    · exact loadAt_of_ge hj
  · rw [loadAt_of_ge hi]
    rfl

/-! ## The inner loop -/

/-- Property `j` of object `i` is there, and `name` names it. -/
def Names (objs : List Object) (name : CString) (i j : Nat) : Prop :=
  ∃ p, property objs i j = .ok p ∧ p.HasID name

/-- Some object from `i` on begins with the property, and the ones in front of it have properties,
    too. -/
def Reaches (objs : List Object) (name : CString) (i : Nat) : Prop :=
  ∃ k, i ≤ k ∧ Names objs name k 0 ∧ ∀ m, i ≤ m → m < k → ∃ p, property objs m 0 = .ok p

/-- One round, if the first object has properties. -/
theorem findInner_round {p₀ : Property} (hbound : property objs 0 0 = .ok p₀) (i : Nat) :
    findInner objs name i 0 = property objs i 0 >>= fun p =>
      if p.HasID name then .ok (i, true) else findInner objs name (i + 1) 0 := by
  obtain ⟨bound, hfirst, hsome⟩ := property_eq_ok.mp hbound
  have hlt : 0 < bound.propertys.length := (List.getElem?_eq_some_iff.mp hsome).1
  rw [findInner, loadAt_of_getElem? hfirst]
  show (if 0 < bound.propertys.length then _ else _) = _
  rw [if_pos hlt]
  split
  · next f hp => rw [hp, Checked.error_bind]
  · next p hp => rw [hp, Checked.ok_bind]

theorem findInner_of_reaches {p₀ : Property} (hbound : property objs 0 0 = .ok p₀) {i : Nat}
    (h : Reaches objs name i) :
    ∃ i', findInner objs name i 0 = .ok (i', true) ∧ Names objs name i' 0 := by
  obtain ⟨k, hik, hnamed, hfront⟩ := h
  induction hn : k - i generalizing i with
  | zero =>
      obtain rfl : i = k := by omega
      obtain ⟨p, hp, hid⟩ := hnamed
      refine ⟨i, ?_, p, hp, hid⟩
      rw [findInner_round hbound, hp, Checked.ok_bind, if_pos hid]
  | succ n ih =>
      obtain ⟨p, hp⟩ := hfront i (Nat.le_refl i) (by omega)
      rw [findInner_round hbound, hp, Checked.ok_bind]
      by_cases hid : p.HasID name
      · exact ⟨i, if_pos hid, p, hp, hid⟩
      · rw [if_neg hid]
        exact ih (by omega) (fun m hm => hfront m (by omega)) (by omega)

/-- Without such an object the loop goes on until it reads outside of an array. -/
theorem findInner_of_not_reaches {p₀ : Property} (hbound : property objs 0 0 = .ok p₀) {i : Nat}
    (h : ¬ Reaches objs name i) : findInner objs name i 0 = .error .outOfBounds := by
  rw [findInner_round hbound]
  -- object `i` has a first property, under another name, or the read goes wrong
  by_cases hok : ∃ p, property objs i 0 = .ok p
  · obtain ⟨p, hp⟩ := hok
    have hi := lt_of_property hp
    have hid : ¬ p.HasID name := fun hid =>
      h ⟨i, Nat.le_refl i, ⟨p, hp, hid⟩, fun m hm hlt => absurd hm (Nat.not_le.mpr hlt)⟩
    have hnext : ¬ Reaches objs name (i + 1) := by
      rintro ⟨k, hik, hnamed, hfront⟩
      refine h ⟨k, by omega, hnamed, ?_⟩
      intro m hm hlt
      obtain rfl | hm := Nat.eq_or_lt_of_le hm
      · exact ⟨p, hp⟩
      · exact hfront m hm hlt
    rw [hp, Checked.ok_bind, if_neg hid]
    exact findInner_of_not_reaches hbound hnext
  · rw [property_of_not_ok fun p hp => hok ⟨p, hp⟩, Checked.error_bind]
termination_by objs.length - i

/-! ## The outer loop -/

/-- One round of the outer loop. -/
theorem findProperty_round {i : Nat} (hi : i < objs.length) :
    findProperty objs name i =
      match findInner objs name i 0 with
      | .error f => .ofChecked (.error f)
      | .ok (i', true) => return (i', 0)
      | .ok (i', false) => findProperty objs name (i' + 1) := by
  rw [findProperty, dif_pos hi]
  split
  · next f hin => rw [hin]
  · next i' hin => rw [hin]
  · next i' hin => rw [hin]

theorem findProperty_of_reaches (h : Reaches objs name 0) :
    ∃ i, findProperty objs name 0 = pure (i, 0) ∧ Names objs name i 0 := by
  obtain ⟨p₀, hbound⟩ : ∃ p, property objs 0 0 = .ok p := by
    obtain ⟨k, -, ⟨p, hp, -⟩, hfront⟩ := h
    obtain rfl | hk := Nat.eq_zero_or_pos k
    · exact ⟨p, hp⟩
    · exact hfront 0 (Nat.le_refl 0) hk
  obtain ⟨i, hinner, hnamed⟩ := findInner_of_reaches hbound h
  refine ⟨i, ?_, hnamed⟩
  rw [findProperty_round (lt_of_property hbound), hinner]

theorem findProperty_of_not_reaches {p₀ : Property} (hbound : property objs 0 0 = .ok p₀)
    (h : ¬ Reaches objs name 0) : findProperty objs name 0 = .ofChecked (.error .outOfBounds) := by
  have hinner := findInner_of_not_reaches hbound h
  rw [findProperty_round (lt_of_property hbound), hinner]

/-- If the first object has no properties, the inner loop never makes a round. -/
theorem findProperty_of_empty (hempty : ∀ p, property objs 0 0 ≠ .ok p) (i : Nat) :
    findProperty objs name i = throw .unknownProperty := by
  by_cases hi : i < objs.length
  · have hfirst : 0 < objs.length := Nat.zero_lt_of_lt hi
    have hnone : ¬ 0 < objs[0].propertys.length := by
      intro hlt
      exact hempty _ (property_eq_ok.mpr
        ⟨objs[0], List.getElem?_eq_getElem hfirst, List.getElem?_eq_getElem hlt⟩)
    have hinner : findInner objs name i 0 = .ok (i, false) := by
      rw [findInner, loadAt_of_lt hfirst]
      exact if_neg hnone
    rw [findProperty_round hi, hinner]
    exact findProperty_of_empty hempty (i + 1)
  · rw [findProperty, dif_neg hi]
termination_by objs.length - i

/-! ## What the search is for -/

/-- The search selects a property that has an ID and is named if there is one in any object, and
    dies if there is none. -/
def Finds (objs : List Object) (name : CString) : Prop :=
  (∃ i j, findProperty objs name 0 = pure (i, j) ∧ Names objs name i j) ∨
    findProperty objs name 0 = throw .unknownProperty ∧ ∀ i j, ¬ Names objs name i j

/-- Either some object begins with the property and no object in front of it is without properties,
    or the first object, if there is one, is without them, and there is nothing to be found. -/
theorem finds_iff (objs : List Object) (name : CString) :
    Finds objs name ↔
      (∃ i, Names objs name i 0 ∧ ∀ k < i, ∃ p, property objs k 0 = .ok p) ∨
        (∀ p, property objs 0 0 ≠ .ok p) ∧ ∀ i j, ¬ Names objs name i j := by
  have hreaches : (∃ i, Names objs name i 0 ∧ ∀ k < i, ∃ p, property objs k 0 = .ok p) ↔
      Reaches objs name 0 := by
    constructor
    · rintro ⟨i, hnamed, hfront⟩
      exact ⟨i, Nat.zero_le i, hnamed, fun m _ hm => hfront m hm⟩
    · rintro ⟨i, -, hnamed, hfront⟩
      exact ⟨i, hnamed, fun k hk => hfront k (Nat.zero_le k) hk⟩
  rw [hreaches]
  by_cases hreach : Reaches objs name 0
  · obtain ⟨i, hfound, hnamed⟩ := findProperty_of_reaches hreach
    exact iff_of_true (.inl ⟨i, 0, hfound, hnamed⟩) (.inl hreach)
  · rw [or_iff_right hreach]
    by_cases hbound : ∃ p, property objs 0 0 = .ok p
    · -- the search reads outside of an array
      obtain ⟨p₀, hp₀⟩ := hbound
      refine iff_of_false ?_ fun h => h.1 p₀ hp₀
      have hfault := findProperty_of_not_reaches hp₀ hreach
      rintro (⟨i, j, hfound, -⟩ | ⟨hdies, -⟩)
      · rw [hfault] at hfound
        cases hfound
      · rw [hfault] at hdies
        cases hdies
    · have hempty : ∀ p, property objs 0 0 ≠ .ok p := fun p hp => hbound ⟨p, hp⟩
      have hdies : findProperty objs name 0 = throw .unknownProperty :=
        findProperty_of_empty hempty 0
      rw [and_iff_right hempty]
      constructor
      · rintro (⟨i, j, hfound, -⟩ | ⟨-, hnone⟩)
        · rw [hdies] at hfound
          cases hfound
        · exact hnone
      · intro hnone
        exact .inr ⟨hdies, hnone⟩

/-- An object with the properties "A" and "B". -/
def twoPropertys : List Object :=
  [⟨[{ id := ⟨[0x41#8], by decide⟩, idLineno := 1 }, { id := ⟨[0x42#8], by decide⟩, idLineno := 2 }]⟩]

/-- "B" is there, and the search leaves the array of the objects. -/
theorem not_finds_second :
    Names twoPropertys ⟨[0x42#8], by decide⟩ 0 1 ∧
      findProperty twoPropertys ⟨[0x42#8], by decide⟩ 0 = .ofChecked (.error .outOfBounds) ∧
      ¬ Finds twoPropertys ⟨[0x42#8], by decide⟩ := by
  have hfault : findProperty twoPropertys ⟨[0x42#8], by decide⟩ 0 =
      .ofChecked (.error .outOfBounds) := by
    refine findProperty_of_not_reaches rfl ?_
    rintro ⟨k, -, ⟨p, hp, hid⟩, -⟩
    have hk : k < 1 := lt_of_property hp
    obtain rfl : k = 0 := by omega
    cases hp
    exact absurd hid (by decide)
  refine ⟨⟨_, rfl, by decide⟩, hfault, ?_⟩
  rintro (⟨i, j, hfound, -⟩ | ⟨hdies, -⟩)
  · rw [hfault] at hfound
    cases hfound
  · rw [hfault] at hdies
    cases hdies

/-! ## The element -/

/-- The children go to the property that was found, and everything else stays. -/
theorem parseProperty_of_reaches (h : Reaches objs name 0) (items : List PropertyItem) :
    ∃ i o p, objs[i]? = some o ∧ o.propertys[0]? = some p ∧ p.HasID name ∧
      parseProperty objs name items =
        pure (objs.set i { o with propertys := o.propertys.set 0 (items.foldl Property.setItem p) }) := by
  obtain ⟨i, hfound, p, hp, hid⟩ := findProperty_of_reaches h
  obtain ⟨o, ho, hfirst⟩ := property_eq_ok.mp hp
  refine ⟨i, o, p, ho, hfirst, hid, ?_⟩
  rw [parseProperty, hfound, pure_bind]
  show (Aborting.ofChecked (loadAt objs i) >>= _) = _
  rw [loadAt_of_getElem? ho]
  show (Aborting.ofChecked (loadAt o.propertys 0) >>= _) = _
  rw [loadAt_of_getElem? hfirst]
  rfl

/-- `ImageToDevice` makes no objects. -/
theorem parseProperty_nil (name : CString) (items : List PropertyItem) (d : Device) :
    ∃ e, parseProperty [] name items = throw e ∧ parseItem d .property = .error e := by
  refine ⟨.unknownProperty, ?_, rfl⟩
  rw [parseProperty, findProperty_of_empty]
  · rfl
  · intro p hp
    exact absurd (lt_of_property hp) (Nat.not_lt_zero 0)

end Search

end BcuSdk.BcuGen
