/-
  BcuSdk.Lib.Run

  Runs of a state machine whose steps may stop at a fault.

  A run is a list of events.  `StepsMeet` says that a condition on state and
  event holds at every step of a run; `run_invariant` and `run_returns` are the
  two induction rules: an invariant that every such step keeps holds at the
  end, and a run whose steps all return returns.  `HoldsAlong` says that a
  property holds in every state a run reaches, and `holdsAlong_iff` that it does
  exactly as long as no step breaks it.
-/
import BcuSdk.Lib.Checked

namespace BcuSdk.Lib

variable {σ ε : Type} {step : σ → ε → Checked σ}

/-- The state after a list of events. -/
def run (step : σ → ε → Checked σ) : σ → List ε → Checked σ
  | s, [] => .ok s
  | s, e :: es => step s e >>= fun s' => run step s' es

/-- Every step of the run from `s` meets the condition `P`. -/
def StepsMeet (step : σ → ε → Checked σ) (P : σ → ε → Prop) : σ → List ε → Prop
  | _, [] => True
  | s, e :: es => P s e ∧ ∀ s', step s e = .ok s' → StepsMeet step P s' es

instance StepsMeet.decidable {P : σ → ε → Prop} [∀ s e, Decidable (P s e)] :
    (s : σ) → (es : List ε) → Decidable (StepsMeet step P s es)
  | _, [] => isTrue trivial
  | s, e :: es =>
      match hs : step s e with
      | .ok s' =>
          haveI : Decidable (StepsMeet step P s' es) := StepsMeet.decidable s' es
          decidable_of_iff (P s e ∧ StepsMeet step P s' es)
            ⟨fun ⟨h, hrest⟩ => ⟨h, fun _ h' => Except.ok.inj (hs.symm.trans h') ▸ hrest⟩,
              fun ⟨h, hrest⟩ => ⟨h, hrest s' hs⟩⟩
      | .error _ =>
          decidable_of_iff (P s e)
            ⟨fun h => ⟨h, fun _ h' => nomatch hs.symm.trans h'⟩, fun h => h.1⟩

@[simp] theorem run_nil (s : σ) : run step s [] = .ok s := rfl

@[simp] theorem run_cons (s : σ) (e : ε) (es : List ε) :
    run step s (e :: es) = step s e >>= fun s' => run step s' es := rfl

/-- A run and one from where it ends make one run. -/
theorem run_append {s s' s'' : σ} {es₁ es₂ : List ε} (h₁ : run step s es₁ = .ok s')
    (h₂ : run step s' es₂ = .ok s'') : run step s (es₁ ++ es₂) = .ok s'' := by
  induction es₁ generalizing s with
  | nil =>
      cases h₁
      exact h₂
  | cons e es₁ ih =>
      obtain ⟨s₁, hstep, hrest⟩ := Checked.bind_eq_ok.mp h₁
      rw [List.cons_append, run_cons, hstep, Checked.ok_bind, ih hrest]

/-- An invariant that every step meeting `P` keeps holds after a run whose steps all meet `P`. -/
theorem run_invariant {Inv : σ → Prop} {P : σ → ε → Prop}
    (hstep : ∀ s e s', Inv s → P s e → step s e = .ok s' → Inv s') {s s' : σ} {es : List ε}
    (hinit : Inv s) (hmeet : StepsMeet step P s es) (hrun : run step s es = .ok s') : Inv s' := by
  induction es generalizing s with
  | nil =>
      cases hrun
      exact hinit
  | cons e es ih =>
      obtain ⟨s₁, h₁, hrest⟩ := Checked.bind_eq_ok.mp hrun
      exact ih (hstep s e s₁ hinit hmeet.1 h₁) (hmeet.2 s₁ h₁) hrest

/-- If every step meeting `P` returns and keeps the invariant, so does a whole run. -/
theorem run_returns {Inv : σ → Prop} {P : σ → ε → Prop}
    (hstep : ∀ s e, Inv s → P s e → ∃ s', step s e = .ok s' ∧ Inv s') {s : σ} {es : List ε}
    (hinit : Inv s) (hmeet : StepsMeet step P s es) : ∃ s', run step s es = .ok s' ∧ Inv s' := by
  induction es generalizing s with
  | nil => exact ⟨s, rfl, hinit⟩
  | cons e es ih =>
      obtain ⟨s₁, h₁, hinv⟩ := hstep s e hinit hmeet.1
      obtain ⟨s', hrest, hend⟩ := ih hinv (hmeet.2 s₁ h₁)
      exact ⟨s', by rw [run_cons, h₁, Checked.ok_bind, hrest], hend⟩

/-- A condition on the events alone. -/
theorem StepsMeet.of_events {P : ε → Prop} {s : σ} {es : List ε} (h : ∀ e ∈ es, P e) :
    StepsMeet step (fun _ => P) s es := by
  induction es generalizing s with
  | nil => trivial
  | cons e es ih =>
      exact ⟨h e (List.mem_cons_self ..), fun _ _ => ih fun x hx => h x (List.mem_cons_of_mem _ hx)⟩

theorem stepsMeet_cons {P : σ → ε → Prop} {s : σ} {e : ε} {es : List ε} :
    StepsMeet step P s (e :: es) ↔ P s e ∧ ∀ s', step s e = .ok s' → StepsMeet step P s' es :=
  Iff.rfl

/-- The condition at a step in the middle of a run. -/
theorem StepsMeet.of_append {P : σ → ε → Prop} {s s' : σ} {es₁ es₂ : List ε} {e : ε}
    (h : StepsMeet step P s (es₁ ++ e :: es₂)) (hrun : run step s es₁ = .ok s') : P s' e := by
  induction es₁ generalizing s with
  | nil =>
      cases hrun
      exact h.1
  | cons e₁ es₁ ih =>
      obtain ⟨s₁, h₁, hrest⟩ := Checked.bind_eq_ok.mp hrun
      exact ih (h.2 s₁ h₁) hrest

/-- Two conditions that agree wherever the invariant holds are met by the same runs. -/
theorem StepsMeet.congr {Inv : σ → Prop} {P Q : σ → ε → Prop}
    (hstep : ∀ s e s', Inv s → step s e = .ok s' → Inv s')
    (hPQ : ∀ s e, Inv s → (P s e ↔ Q s e)) {s : σ} {es : List ε} (hinit : Inv s) :
    StepsMeet step P s es ↔ StepsMeet step Q s es := by
  induction es generalizing s with
  | nil => exact Iff.rfl
  | cons e es ih =>
      have hrest : (∀ s', step s e = .ok s' → StepsMeet step P s' es) ↔
          ∀ s', step s e = .ok s' → StepsMeet step Q s' es :=
        forall₂_congr fun s' h => ih (hstep s e s' hinit h)
      exact and_congr (hPQ s e hinit) hrest

/-! ## Properties of all states reached -/

/-- `Q` holds in every state the run from `s` goes through, its last one included. -/
def HoldsAlong (step : σ → ε → Checked σ) (Q : σ → Prop) (s : σ) (es : List ε) : Prop :=
  ∀ es₁ es₂ s', es = es₁ ++ es₂ → run step s es₁ = .ok s' → Q s'

@[simp] theorem holdsAlong_nil {Q : σ → Prop} {s : σ} : HoldsAlong step Q s [] ↔ Q s := by
  constructor
  · intro h
    exact h [] [] s rfl rfl
  · intro h es₁ es₂ s' hes hrun
    obtain ⟨rfl, -⟩ := List.append_eq_nil_iff.mp hes.symm
    cases hrun
    exact h

theorem holdsAlong_cons {Q : σ → Prop} {s : σ} {e : ε} {es : List ε} :
    HoldsAlong step Q s (e :: es) ↔ Q s ∧ ∀ s', step s e = .ok s' → HoldsAlong step Q s' es := by
  constructor
  · intro h
    refine ⟨h [] (e :: es) s rfl rfl, fun s₁ h₁ es₁ es₂ s' hes hrun => ?_⟩
    exact h (e :: es₁) es₂ s' (by rw [hes, List.cons_append])
      (by rw [run_cons, h₁, Checked.ok_bind, hrun])
  · rintro ⟨hs, h⟩ es₁ es₂ s' hes hrun
    rcases es₁ with _ | ⟨e', es₁⟩
    · cases hrun
      exact hs
    · obtain ⟨rfl, rfl⟩ := List.cons.inj hes
      obtain ⟨s₁, h₁, hrest⟩ := Checked.bind_eq_ok.mp hrun
      exact h s₁ h₁ es₁ es₂ s' rfl hrest

/-- What follows from an invariant of all steps holds all along a run. -/
theorem holdsAlong_of_invariant {Inv Q : σ → Prop}
    (hstep : ∀ s e s', Inv s → step s e = .ok s' → Inv s') (hQ : ∀ s, Inv s → Q s) {s : σ}
    (hinit : Inv s) (es : List ε) : HoldsAlong step Q s es := by
  induction es generalizing s with
  | nil => exact holdsAlong_nil.mpr (hQ s hinit)
  | cons e es ih =>
      exact holdsAlong_cons.mpr ⟨hQ s hinit, fun s' h => ih (hstep s e s' hinit h)⟩

/-- Over events that meet `E`: if a step from a state with the property leads to one with it
    exactly when it meets `P`, and a step that faults meets `P`, the property holds all along a
    run exactly when all its steps meet `P`. -/
theorem holdsAlong_iff {Inv Q : σ → Prop} {P : σ → ε → Prop} {E : ε → Prop}
    (hinv : ∀ s e s', Inv s → E e → step s e = .ok s' → Inv s')
    (hfault : ∀ s e, Inv s → Q s → E e → (∀ s', step s e ≠ .ok s') → P s e)
    (hstep : ∀ s e s', Inv s → Q s → E e → step s e = .ok s' → (Q s' ↔ P s e)) {s : σ}
    {es : List ε} (hes : ∀ e ∈ es, E e) (hinit : Inv s) (hs : Q s) :
    HoldsAlong step Q s es ↔ StepsMeet step P s es := by
  induction es generalizing s with
  | nil => exact iff_of_true (holdsAlong_nil.mpr hs) trivial
  | cons e es ih =>
      have he : E e := hes e (List.mem_cons_self ..)
      have hrest : ∀ x ∈ es, E x := fun x hx => hes x (List.mem_cons_of_mem _ hx)
      rw [holdsAlong_cons, stepsMeet_cons]
      -- a step that faults ends the run, and meets `P` by assumption
      rcases hrun : step s e with f | s₁
      · have hnone (s' : σ) : (.error f : Checked σ) ≠ .ok s' := nofun
        exact iff_of_true ⟨hs, fun s' h' => absurd h' (hnone s')⟩
          ⟨hfault s e hinit hs he (fun s' h' => hnone s' (hrun.symm.trans h')),
            fun s' h' => absurd h' (hnone s')⟩
      · rw [Checked.forall_eq_ok_iff rfl, Checked.forall_eq_ok_iff rfl]
        have hiff := hstep s e s₁ hinit hs he hrun
        have hnext := hinv s e s₁ hinit he hrun
        constructor
        · rintro ⟨-, h⟩
          have hq : Q s₁ := h [] es s₁ rfl rfl
          exact ⟨hiff.mp hq, (ih hrest hnext hq).mp h⟩
        · rintro ⟨hp, h⟩
          exact ⟨hs, (ih hrest hnext (hiff.mpr hp)).mpr h⟩

/-- The same for a run that returns, where it does not matter what a step that faults meets. -/
theorem holdsAlong_iff_of_run {Inv Q : σ → Prop} {P : σ → ε → Prop}
    (hinv : ∀ s e s', Inv s → step s e = .ok s' → Inv s')
    (hstep : ∀ s e s', Inv s → Q s → step s e = .ok s' → (Q s' ↔ P s e)) {s s' : σ}
    {es : List ε} (hinit : Inv s) (hs : Q s) (hrun : run step s es = .ok s') :
    HoldsAlong step Q s es ↔ StepsMeet step P s es := by
  induction es generalizing s with
  | nil => exact iff_of_true (holdsAlong_nil.mpr hs) trivial
  | cons e es ih =>
      obtain ⟨s₁, h₁, hrest⟩ := Checked.bind_eq_ok.mp hrun
      have hiff := hstep s e s₁ hinit hs h₁
      have hnext := hinv s e s₁ hinit h₁
      rw [holdsAlong_cons, stepsMeet_cons, Checked.forall_eq_ok_iff h₁,
        Checked.forall_eq_ok_iff h₁]
      constructor
      · rintro ⟨-, h⟩
        have hq : Q s₁ := h [] es s₁ rfl rfl
        exact ⟨hiff.mp hq, (ih hnext hq hrest).mp h⟩
      · rintro ⟨hp, h⟩
        exact ⟨hs, (ih hnext (hiff.mpr hp) hrest).mpr h⟩

end BcuSdk.Lib
