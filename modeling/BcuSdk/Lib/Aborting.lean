/-
  BcuSdk.Lib.Aborting

  Programs that may stop with a message of their own, besides a fault.

  `wp x Q` is the weakest precondition of such a program when a message is as
  good as a result with `Q`, and a fault is not.  The rules are equivalences:
  rewriting with them computes the exact condition under which a program does
  what it should.
-/
import BcuSdk.Lib.Checked

namespace BcuSdk.Lib

/-! ## Steps that know no faults -/

theorem bind_eq_ok {ε α β : Type} {x : Except ε α} {f : α → Except ε β} {b : β} :
    (x >>= f) = .ok b ↔ ∃ a, x = .ok a ∧ f a = .ok b := by
  cases x with
  | ok a => exact ⟨fun h => ⟨a, rfl, h⟩, fun ⟨_, ha, h⟩ => by cases ha; exact h⟩
  | error e => exact ⟨nofun, fun ⟨_, ha, _⟩ => nomatch ha⟩

/-- A check that has been passed. -/
theorem of_guard {ε α : Type} {p : Prop} [Decidable p] {r : ε} {x : Except ε α} {a : α}
    (h : (if p then throw r else x) = .ok a) : ¬ p ∧ x = .ok a := by
  by_cases hp : p
  · rw [if_pos hp] at h
    cases h
  · rw [if_neg hp] at h
    exact ⟨hp, h⟩

/-- Four checks in a row that have been passed. -/
theorem of_four_guards {ε α : Type} {p₁ p₂ p₃ p₄ : Prop} [Decidable p₁] [Decidable p₂]
    [Decidable p₃] [Decidable p₄] {r₁ r₂ r₃ r₄ : ε} {x : Except ε α} {a : α}
    (h : (if p₁ then throw r₁ else if p₂ then throw r₂ else if p₃ then throw r₃
      else if p₄ then throw r₄ else x) = .ok a) : x = .ok a := by
  obtain ⟨-, h⟩ := of_guard h
  obtain ⟨-, h⟩ := of_guard h
  obtain ⟨-, h⟩ := of_guard h
  exact (of_guard h).2

theorem exists_of_mem_mapM {ε α β : Type} {f : α → Except ε β} {as : List α} {bs : List β}
    (h : as.mapM f = .ok bs) {b : β} (hb : b ∈ bs) : ∃ a ∈ as, f a = .ok b := by
  induction as generalizing bs with
  | nil =>
      cases h
      cases hb
  | cons a as ih =>
      rw [List.mapM_cons] at h
      obtain ⟨b', hb', h⟩ := bind_eq_ok.mp h
      obtain ⟨bs', hbs', h⟩ := bind_eq_ok.mp h
      cases h
      obtain rfl | hb := List.mem_cons.mp hb
      · exact ⟨a, List.mem_cons_self, hb'⟩
      · obtain ⟨a', ha', hf⟩ := ih hbs' hb
        exact ⟨a', List.mem_cons_of_mem _ ha', hf⟩

/-! ## Weakest preconditions -/

/-- A computation that returns a value, stops with an `ε`, or stops at a fault. -/
abbrev Aborting (ε : Type) := ExceptT ε Checked

namespace Aborting

variable {ε α β : Type}

/-- A step that knows no faults. -/
def ofResult (x : Except ε α) : Aborting ε α := ExceptT.mk (.ok x)

/-- A step that knows no messages. -/
def ofChecked (x : Checked α) : Aborting ε α := ExceptT.mk (x >>= fun a => .ok (.ok a))

/-- Either the program stops with a message, or it returns a value with `Q`. -/
def wp (x : Aborting ε α) (Q : α → Prop) : Prop :=
  match x.run with
  | .ok (.ok a) => Q a
  | .ok (.error _) => True
  | .error _ => False

variable {Q : α → Prop}

@[simp] theorem wp_pure (a : α) : wp (pure a : Aborting ε α) Q ↔ Q a := Iff.rfl

@[simp] theorem wp_throw (e : ε) : wp (throw e : Aborting ε α) Q := trivial

theorem wp_bind (x : Aborting ε α) (f : α → Aborting ε β) (Q : β → Prop) :
    wp (x >>= f) Q ↔ wp x fun a => wp (f a) Q := by
  show wp (ExceptT.mk (x.run >>= ExceptT.bindCont f)) Q ↔ _
  rw [wp, wp]
  rcases x.run with _ | _ | a
  · exact Iff.rfl
  · exact Iff.rfl
  · exact Iff.rfl

theorem wp_ofResult (x : Except ε α) : wp (ofResult x) Q ↔ ∀ a, x = .ok a → Q a := by
  cases x with
  | error e => exact ⟨fun _ _ h => (nomatch h), fun _ => trivial⟩
  | ok a => exact ⟨fun h _ ha => Except.ok.inj ha ▸ h, fun h => h a rfl⟩

theorem wp_ofChecked (x : Checked α) :
    wp (ofChecked x : Aborting ε α) Q ↔ ∃ a, x = .ok a ∧ Q a := by
  cases x with
  | error e =>
      constructor
      · exact False.elim
      · rintro ⟨a, ha, -⟩
        cases ha
  | ok a =>
      constructor
      · exact fun h => ⟨a, rfl, h⟩
      · rintro ⟨a', ha, h⟩
        obtain rfl := Except.ok.inj ha
        exact h

theorem wp_ite {p : Prop} [Decidable p] (x y : Aborting ε α) :
    wp (if p then x else y) Q ↔ (p → wp x Q) ∧ (¬ p → wp y Q) := by
  by_cases hp : p
  · rw [if_pos hp]
    exact ⟨fun h => ⟨fun _ => h, fun h => absurd hp h⟩, fun h => h.1 hp⟩
  · rw [if_neg hp]
    exact ⟨fun h => ⟨fun h => absurd h hp, fun _ => h⟩, fun h => h.2 hp⟩

theorem wp_guard {p : Prop} [Decidable p] (e : ε) (x : Aborting ε α) :
    wp (if p then throw e else x) Q ↔ (¬ p → wp x Q) := by
  rw [wp_ite]
  exact ⟨fun h => h.2, fun h => ⟨fun _ => wp_throw e, h⟩⟩

end Aborting

end BcuSdk.Lib
