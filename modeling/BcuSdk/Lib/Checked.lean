/-
  BcuSdk.Lib.Checked

  Programs that may stop at a fault: a read past the end of an array, or an
  assertion that does not hold.

  `Checked α` is `Except Fault α`.  Reads go through `readByte` and
  `readSlice`, assertions through `check`; the lemmas say when each of them
  returns, and `bind_eq_ok` peels a computation apart into its steps.
-/
import BcuSdk.Lib.Bytes

namespace BcuSdk.Lib

/-- Why a program stops without a result. -/
inductive Fault where
  | outOfBounds
  | assertion
  deriving DecidableEq, Repr

/-- A computation that returns a value or stops at a fault. -/
abbrev Checked := Except Fault

namespace Checked

variable {α β : Type}

/-- The computation reaches its end. -/
def Returns (x : Checked α) : Prop := ∃ a, x = .ok a

instance (x : Checked α) : Decidable x.Returns :=
  match x with
  | .ok a => isTrue ⟨a, rfl⟩
  | .error _ => isFalse fun ⟨_, h⟩ => nomatch h

instance (x : Checked α) (P : α → Prop) [DecidablePred P] : Decidable (∃ a, x = .ok a ∧ P a) :=
  match x with
  | .ok a => decidable_of_iff (P a) ⟨fun h => ⟨a, rfl, h⟩, fun ⟨_, ha, h⟩ => Except.ok.inj ha ▸ h⟩
  | .error _ => isFalse fun ⟨_, h, _⟩ => nomatch h

@[simp] theorem returns_ok (a : α) : Returns (.ok a : Checked α) := ⟨a, rfl⟩

@[simp] theorem returns_pure (a : α) : Returns (pure a : Checked α) := ⟨a, rfl⟩

@[simp] theorem not_returns_error (e : Fault) : ¬ Returns (.error e : Checked α) :=
  fun ⟨_, h⟩ => nomatch h

/-- The value of a computation that reaches its end. -/
def get : (x : Checked α) → x.Returns → α
  | .ok a, _ => a
  | .error e, h => absurd h (not_returns_error e)

theorem get_eq_of_ok {x : Checked α} {a : α} (h : x = .ok a) (hx : x.Returns) : x.get hx = a := by
  subst h
  rfl

@[simp] theorem ok_bind (a : α) (f : α → Checked β) : (Except.ok a >>= f) = f a := rfl

@[simp] theorem error_bind (e : Fault) (f : α → Checked β) :
    ((Except.error e : Checked α) >>= f) = .error e := rfl

@[simp] theorem pure_eq_ok (a : α) : (pure a : Checked α) = .ok a := rfl

/-- A sequence returns exactly when both of its steps do. -/
theorem bind_eq_ok {x : Checked α} {f : α → Checked β} {b : β} :
    (x >>= f) = .ok b ↔ ∃ a, x = .ok a ∧ f a = .ok b := by
  cases x with
  | ok a => simp
  | error e => simp

/-- A result is the only one. -/
theorem forall_eq_ok_iff {x : Checked α} {a : α} (h : x = .ok a) {P : α → Prop} :
    (∀ b, x = .ok b → P b) ↔ P a := by
  subst h
  constructor
  · intro hall
    exact hall a rfl
  · intro ha b hb
    cases hb
    exact ha

theorem returns_bind {x : Checked α} {f : α → Checked β} :
    Returns (x >>= f) ↔ ∃ a, x = .ok a ∧ Returns (f a) := by
  cases x with
  | ok a => simp
  | error e => simp

/-- A fault behind a step that returns. -/
theorem bind_eq_error {x : Checked α} {f : α → Checked β} {e : Fault} (hx : x.Returns)
    (hf : ∀ a, x = .ok a → f a = .error e) : (x >>= f) = .error e := by
  obtain ⟨a, ha⟩ := hx
  rw [ha]
  exact hf a ha

/-- A loop over a list returns if its body does for every element. -/
theorem returns_mapM {f : α → Checked β} {l : List α} (h : ∀ a ∈ l, (f a).Returns) :
    Returns (l.mapM f) := by
  induction l with
  | nil => exact ⟨[], rfl⟩
  | cons a l ih =>
      obtain ⟨b, hb⟩ := h a (List.mem_cons_self ..)
      obtain ⟨bs, hbs⟩ := ih fun x hx => h x (List.mem_cons_of_mem _ hx)
      exact ⟨b :: bs, by rw [List.mapM_cons, hb, ok_bind, hbs]; rfl⟩

/-- The results of a loop over a list, one by one. -/
theorem mapM_eq_ok {f : α → Checked β} {l : List α} {l' : List β} (h : l.mapM f = .ok l') :
    List.Forall₂ (fun a b => f a = .ok b) l l' := by
  induction l generalizing l' with
  | nil =>
      cases h
      exact .nil
  | cons a l ih =>
      rw [List.mapM_cons] at h
      obtain ⟨b, hb, h⟩ := bind_eq_ok.mp h
      obtain ⟨bs, hbs, h⟩ := bind_eq_ok.mp h
      cases h
      exact .cons hb (ih hbs)

/-- What a loop over a list returns comes from its elements. -/
theorem mem_of_mapM {f : α → Checked β} {l : List α} {l' : List β} (h : l.mapM f = .ok l') {b : β}
    (hb : b ∈ l') : ∃ a ∈ l, f a = .ok b := by
  induction mapM_eq_ok h with
  | nil => exact absurd hb List.not_mem_nil
  | @cons a b' l l' hfirst hrest ih =>
      rw [List.mapM_cons, hfirst, ok_bind] at h
      obtain ⟨bs, hbs, h⟩ := bind_eq_ok.mp h
      cases h
      rcases List.mem_cons.mp hb with rfl | hb
      · exact ⟨a, List.mem_cons_self .., hfirst⟩
      · obtain ⟨x, hx, hfx⟩ := ih hbs hb
        exact ⟨x, List.mem_cons_of_mem _ hx, hfx⟩

/-- A loop whose body returns for every element collects what it returns. -/
theorem mapM_eq_map {f : α → Checked β} {g : α → β} {l : List α} (h : ∀ a ∈ l, f a = .ok (g a)) :
    l.mapM f = .ok (l.map g) := by
  induction l with
  | nil => rfl
  | cons a l ih =>
      rw [List.mapM_cons, h a (List.mem_cons_self ..), ok_bind,
        ih fun x hx => h x (List.mem_cons_of_mem _ hx), ok_bind, List.map_cons, pure_eq_ok]

/-- A loop over a list returns only if its body does for every element. -/
theorem returns_of_mapM {f : α → Checked β} {l : List α} (h : Returns (l.mapM f)) :
    ∀ a ∈ l, (f a).Returns := by
  induction l with
  | nil => exact fun a ha => absurd ha List.not_mem_nil
  | cons a l ih =>
      rw [List.mapM_cons, returns_bind] at h
      obtain ⟨b, hb, h⟩ := h
      rw [returns_bind] at h
      obtain ⟨bs, hbs, -⟩ := h
      exact List.forall_mem_cons.mpr ⟨⟨b, hb⟩, ih ⟨bs, hbs⟩⟩

end Checked

/-! ## Assertions -/

/-- `assert (p)`. -/
def check (p : Prop) [Decidable p] : Checked Unit :=
  if p then .ok () else .error .assertion

@[simp] theorem check_of {p : Prop} [Decidable p] (h : p) : check p = .ok () := if_pos h

@[simp] theorem check_of_not {p : Prop} [Decidable p] (h : ¬ p) :
    check p = .error .assertion := if_neg h

@[simp] theorem check_eq_ok {p : Prop} [Decidable p] {u : Unit} : check p = .ok u ↔ p := by
  by_cases h : p <;> simp [h]

/-! ## Array reads -/

/-- `data[i]`. -/
def readByte (data : List Byte) (i : Nat) : Checked Byte :=
  match data[i]? with
  | some b => .ok b
  | none => .error .outOfBounds

/-- The `cnt` elements of `data` from index `start` on. -/
def readSlice (data : List Byte) (start cnt : Nat) : Checked (List Byte) :=
  if start + cnt ≤ data.length then .ok ((data.drop start).take cnt) else .error .outOfBounds

theorem readByte_of_lt {data : List Byte} {i : Nat} (h : i < data.length) :
    readByte data i = .ok data[i] := by
  simp [readByte, List.getElem?_eq_getElem h]

theorem readByte_returns {data : List Byte} {i : Nat} (h : i < data.length) :
    (readByte data i).Returns :=
  ⟨_, readByte_of_lt h⟩

theorem getElem?_of_readByte {data : List Byte} {i : Nat} {b : Byte}
    (h : readByte data i = .ok b) : data[i]? = some b := by
  rw [readByte] at h
  split at h
  · next hb => rw [hb, Except.ok.inj h]
  · cases h

theorem lt_of_readByte {data : List Byte} {i : Nat} {b : Byte} (h : readByte data i = .ok b) :
    i < data.length :=
  (List.getElem?_eq_some_iff.mp (getElem?_of_readByte h)).1

theorem drop_eq_cons_of_getElem? {data : List Byte} {i : Nat} {b : Byte} (h : data[i]? = some b) :
    data.drop i = b :: data.drop (i + 1) := by
  obtain ⟨hi, hb⟩ := List.getElem?_eq_some_iff.mp h
  rw [List.drop_eq_getElem_cons hi, hb]

/-- A read inside the array is the total one, whatever that returns outside. -/
theorem readByte_getD {data : List Byte} {i : Nat} (h : i < data.length) :
    readByte data i = .ok (data.getD i 0#8) := by
  rw [readByte_of_lt h]
  simp [h]

@[simp] theorem readByte_cons_zero (b : Byte) (bs : List Byte) :
    readByte (b :: bs) 0 = .ok b := rfl

@[simp] theorem readByte_cons_succ (b : Byte) (bs : List Byte) (i : Nat) :
    readByte (b :: bs) (i + 1) = readByte bs i := by
  simp [readByte]

theorem readSlice_of_le {data : List Byte} {start cnt : Nat} (h : start + cnt ≤ data.length) :
    readSlice data start cnt = .ok ((data.drop start).take cnt) := if_pos h

end BcuSdk.Lib
