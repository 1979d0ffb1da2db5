/-
  BcuSdk.Lib.Loop

  Loops that end when a test says so, if they end.

  `passes n` makes at most `n` passes.  `passes_end` is the rule for loops that
  end: some number goes down with every pass.  What a pass keeps holds in every
  state reached (`passes_invariant`), and two states reached by one loop lie one
  behind the other (`passes_add`, `passes_of_done`).
-/
import BcuSdk.Lib.Checked

namespace BcuSdk.Lib

variable {σ : Type} {pass : σ → Checked σ} {done : σ → Bool}

/-- The state after at most `n` passes. -/
def passes (pass : σ → Checked σ) (done : σ → Bool) : Nat → σ → Checked σ
  | 0, s => .ok s
  | n + 1, s => if done s then .ok s else pass s >>= passes pass done n

@[simp] theorem passes_zero (s : σ) : passes pass done 0 s = .ok s := rfl

/-- Behind its end the loop makes no pass. -/
theorem passes_of_done {s : σ} (h : done s = true) (n : Nat) : passes pass done n s = .ok s := by
  cases n with
  | zero => rfl
  | succ n => rw [passes, if_pos h]

theorem passes_succ {s : σ} (h : done s = false) (n : Nat) :
    passes pass done (n + 1) s = pass s >>= passes pass done n := by
  rw [passes, h, if_neg Bool.false_ne_true]

/-- `n` passes, and `m` more. -/
theorem passes_add (n m : Nat) (s : σ) :
    passes pass done (n + m) s = passes pass done n s >>= passes pass done m := by
  induction n generalizing s with
  | zero => rw [Nat.zero_add, passes_zero, Checked.ok_bind]
  | succ n ih =>
      cases hdone : done s with
      | true => rw [passes_of_done hdone, passes_of_done hdone, Checked.ok_bind, passes_of_done hdone]
      | false =>
          rw [Nat.add_right_comm, passes_succ hdone, passes_succ hdone]
          cases pass s with
          | ok s' => exact ih s'
          | error f => rfl

/-- What every pass keeps holds in every state reached. -/
theorem passes_invariant (Inv : σ → Prop)
    (hpass : ∀ s s', Inv s → done s = false → pass s = .ok s' → Inv s') {n : Nat} {s s' : σ}
    (hinit : Inv s) (hrun : passes pass done n s = .ok s') : Inv s' := by
  induction n generalizing s with
  | zero =>
      cases hrun
      exact hinit
  | succ n ih =>
      cases hdone : done s with
      | true =>
          rw [passes_of_done hdone] at hrun
          cases hrun
          exact hinit
      | false =>
          rw [passes_succ hdone] at hrun
          obtain ⟨s₁, hfirst, hrest⟩ := Checked.bind_eq_ok.mp hrun
          exact ih (hpass s s₁ hinit hdone hfirst) hrest

/-- A loop ends if every pass returns, keeps the invariant and makes `μ` smaller or ends it. -/
theorem passes_end {Inv : σ → Prop} (μ : σ → Nat)
    (hpass : ∀ s, Inv s → done s = false →
      ∃ s', pass s = .ok s' ∧ Inv s' ∧ (done s' = true ∨ μ s' < μ s)) {s : σ} (hinit : Inv s) :
    ∃ n s', passes pass done n s = .ok s' ∧ done s' = true ∧ Inv s' := by
  induction hμ : μ s using Nat.strong_induction_on generalizing s with
  | _ k ih =>
      cases hdone : done s with
      | true => exact ⟨0, s, rfl, hdone, hinit⟩
      | false =>
          obtain ⟨s₁, hfirst, hinv, hend | hless⟩ := hpass s hinit hdone
          · exact ⟨1, s₁, by rw [passes_succ hdone, hfirst, Checked.ok_bind, passes_zero], hend, hinv⟩
          · obtain ⟨n, s', hrun, hend, hinv'⟩ := ih (μ s₁) (hμ ▸ hless) hinv rfl
            exact ⟨n + 1, s', by rw [passes_succ hdone, hfirst, Checked.ok_bind, hrun], hend, hinv'⟩

/-- A loop that ends goes through every state it reaches before: from there it ends, too. -/
theorem passes_through {n m : Nat} {s s₁ s₂ : σ} (h₁ : passes pass done n s = .ok s₁)
    (hgoes : done s₁ = false) (h₂ : passes pass done m s = .ok s₂) (hend : done s₂ = true) :
    ∃ k, passes pass done k s₁ = .ok s₂ := by
  rcases Nat.le_total n m with hle | hle
  · obtain ⟨k, rfl⟩ := Nat.exists_eq_add_of_le hle
    rw [passes_add, h₁, Checked.ok_bind] at h₂
    exact ⟨k, h₂⟩
  · obtain ⟨k, rfl⟩ := Nat.exists_eq_add_of_le hle
    rw [passes_add, h₂, Checked.ok_bind, passes_of_done hend] at h₁
    cases h₁
    rw [hend] at hgoes
    cases hgoes

end BcuSdk.Lib
