/-
  BcuSdk.Lib.Simulation

  Machines that answer every event, and simulations between two of them.

  A step returns an output and the next state, or stops at a fault.  A
  relation between the states of two machines is a simulation if from related
  states both answer every event alike and stay related, or both stop at the
  same fault.  `Simulates.transcript` carries this over to whole runs: nobody
  who sees the outputs and the faults alone can tell the two machines apart.
-/
import BcuSdk.Lib.Checked

namespace BcuSdk.Lib

variable {σ τ ε ο : Type}

/-- The outputs of a run, and the state behind it. -/
def transcript (step : σ → ε → Checked (ο × σ)) : σ → List ε → Checked (List ο × σ)
  | s, [] => .ok ([], s)
  | s, e :: es => do
      let r ← step s e
      let rest ← transcript step r.2 es
      return (r.1 :: rest.1, rest.2)

/-- The same fault, or the same output and states that are related. -/
inductive Agree (R : σ → τ → Prop) : Checked (ο × σ) → Checked (ο × τ) → Prop
  | ok {o : ο} {s : σ} {t : τ} (h : R s t) : Agree R (.ok (o, s)) (.ok (o, t))
  | error (e : Fault) : Agree R (.error e) (.error e)

/-- From related states both machines answer every event alike. -/
def Simulates (R : σ → τ → Prop) (step : σ → ε → Checked (ο × σ))
    (step' : τ → ε → Checked (ο × τ)) : Prop :=
  ∀ s t e, R s t → Agree R (step s e) (step' t e)

variable {R : σ → τ → Prop} {step : σ → ε → Checked (ο × σ)} {step' : τ → ε → Checked (ο × τ)}

/-- What is seen of two runs that agree is the same. -/
theorem Agree.outputs {x : Checked (ο × σ)} {y : Checked (ο × τ)} (h : Agree R x y) :
    Prod.fst <$> x = Prod.fst <$> y := by
  cases h with
  | ok h => rfl
  | error e => rfl

/-- If one of them returns, so does the other, in a related state. -/
theorem Agree.related {x : Checked (ο × σ)} {y : Checked (ο × τ)} (h : Agree R x y) {o : ο} {s : σ}
    (hx : x = .ok (o, s)) : ∃ t, y = .ok (o, t) ∧ R s t := by
  cases h with
  | ok h =>
      cases hx
      exact ⟨_, rfl, h⟩
  | error e => cases hx

theorem Agree.mono {R' : σ → τ → Prop} {x : Checked (ο × σ)} {y : Checked (ο × τ)}
    (h : Agree R x y) (hR : ∀ s t, R s t → R' s t) : Agree R' x y := by
  cases h with
  | ok h => exact .ok (hR _ _ h)
  | error e => exact .error e

/-- Two agreements after each other. -/
theorem Agree.trans {υ : Type} {R' : τ → υ → Prop} {x : Checked (ο × σ)} {y : Checked (ο × τ)}
    {z : Checked (ο × υ)} (h : Agree R x y) (h' : Agree R' y z) :
    Agree (fun s u => ∃ t, R s t ∧ R' t u) x z := by
  cases h with
  | ok h =>
      cases h' with
      | ok h' => exact .ok ⟨_, h, h'⟩
  | error e =>
      cases h' with
      | error => exact .error e

theorem Simulates.transcript (h : Simulates R step step') {s : σ} {t : τ} (hR : R s t)
    (es : List ε) : Agree R (Lib.transcript step s es) (Lib.transcript step' t es) := by
  induction es generalizing s t with
  | nil => exact .ok hR
  | cons e es ih =>
      have hfirst := h s t e hR
      rw [Lib.transcript, Lib.transcript]
      generalize step s e = x, step' t e = y at hfirst ⊢
      cases hfirst with
      | error e => exact .error e
      | @ok o s' t' hnext =>
          have hrest := ih hnext
          rw [Checked.ok_bind, Checked.ok_bind]
          dsimp only
          generalize Lib.transcript step s' es = x, Lib.transcript step' t' es = y at hrest ⊢
          cases hrest with
          | error e => exact .error e
          | ok hend => exact .ok hend

/-! ## Histories -/

/-- `transcript_history` for a run that goes on from events and outputs. -/
theorem transcript_history_from {I : List ε → List ο → σ → Prop} {P : ε → Prop}
    (hstep : ∀ es os s e o s', I es os s → P e → step s e = .ok (o, s') →
      I (es ++ [e]) (os ++ [o]) s') {es₀ : List ε} {os₀ : List ο} {s s' : σ} {es : List ε}
    {os : List ο} (hinit : I es₀ os₀ s) (hes : ∀ e ∈ es, P e)
    (hrun : transcript step s es = .ok (os, s')) : I (es₀ ++ es) (os₀ ++ os) s' := by
  induction es generalizing s os es₀ os₀ with
  | nil =>
      cases hrun
      rwa [List.append_nil, List.append_nil]
  | cons e es ih =>
      obtain ⟨⟨o, s₁⟩, hfirst, hrun⟩ := Checked.bind_eq_ok.mp hrun
      obtain ⟨⟨os₁, s₂⟩, hrest, hrun⟩ := Checked.bind_eq_ok.mp hrun
      cases hrun
      have hnext := hstep es₀ os₀ s e o s₁ hinit (hes e (List.mem_cons_self ..)) hfirst
      have h := ih hnext (fun x hx => hes x (List.mem_cons_of_mem _ hx)) hrest
      rwa [List.append_assoc, List.append_assoc] at h

/-- What every step keeps true of the events, the outputs and the state so far is true of the whole
    run. -/
theorem transcript_history {I : List ε → List ο → σ → Prop} {P : ε → Prop}
    (hstep : ∀ es os s e o s', I es os s → P e → step s e = .ok (o, s') →
      I (es ++ [e]) (os ++ [o]) s') {s s' : σ} {es : List ε} {os : List ο} (hinit : I [] [] s)
    (hes : ∀ e ∈ es, P e) (hrun : transcript step s es = .ok (os, s')) : I es os s' :=
  transcript_history_from hstep hinit hes hrun

/-- A run whose events all meet `P` returns, if from states with the invariant such steps do. -/
theorem transcript_returns {I : σ → Prop} {P : ε → Prop}
    (hstep : ∀ s e, I s → P e → ∃ o s', step s e = .ok (o, s') ∧ I s') {s : σ} {es : List ε}
    (hinit : I s) (hes : ∀ e ∈ es, P e) :
    ∃ os s', transcript step s es = .ok (os, s') ∧ I s' := by
  induction es generalizing s with
  | nil => exact ⟨[], s, rfl, hinit⟩
  | cons e es ih =>
      obtain ⟨o, s₁, hfirst, hinv⟩ := hstep s e hinit (hes e (List.mem_cons_self ..))
      obtain ⟨os, s', hrest, hend⟩ := ih hinv fun x hx => hes x (List.mem_cons_of_mem _ hx)
      exact ⟨o :: os, s', by rw [transcript, hfirst, Checked.ok_bind, hrest]; rfl, hend⟩

/-- A run returns and keeps what every step, which returns, keeps of the events, the outputs and the
    state so far. -/
theorem transcript_keeps {I : List ε → List ο → σ → Prop}
    (hstep : ∀ es os s e, I es os s → ∃ o s', step s e = .ok (o, s') ∧ I (es ++ [e]) (os ++ [o]) s')
    {s : σ} (hinit : I [] [] s) (es : List ε) :
    ∃ os s', transcript step s es = .ok (os, s') ∧ I es os s' := by
  obtain ⟨os, s', hrun, -⟩ := transcript_returns (I := fun s => ∃ es os, I es os s)
    (P := fun _ => True) (fun s e hs _ => by
      obtain ⟨es, os, hs⟩ := hs
      obtain ⟨o, s', hfirst, hs'⟩ := hstep es os s e hs
      exact ⟨o, s', hfirst, _, _, hs'⟩) ⟨[], [], hinit⟩ fun _ _ => trivial
  refine ⟨os, s', hrun, ?_⟩
  refine transcript_history (P := fun _ => True) (fun es os s e o s' hs _ hfirst => ?_) hinit
    (fun _ _ => trivial) hrun
  obtain ⟨o', s'', hfirst', hs'⟩ := hstep es os s e hs
  cases hfirst.symm.trans hfirst'
  exact hs'

end BcuSdk.Lib
