/-
  BcuSdk.Lib.CallLog

  Logs of the calls that one component makes to another.

  A protocol is an automaton with a partial step: a log that it accepts makes
  each call in a mode it is meant for.  Calls that switch something on and
  off then alternate in such a log.
-/
import Mathlib.Data.Option.Basic

namespace BcuSdk.Lib

variable {μ γ : Type}

/-- The mode after a log; `none` if a call came in a mode it is not meant for. -/
def modeAfter (step : μ → γ → Option μ) : μ → List γ → Option μ
  | m, [] => some m
  | m, x :: log => (step m x).bind fun m' => modeAfter step m' log

theorem modeAfter_append {step : μ → γ → Option μ} (m : μ) (log log' : List γ) :
    modeAfter step m (log ++ log') = (modeAfter step m log).bind (modeAfter step · log') := by
  induction log generalizing m with
  | nil => rfl
  | cons x log ih =>
      rw [List.cons_append, modeAfter, modeAfter]
      cases step m x with
      | none => rfl
      | some m' => exact ih m'

/-- The calls that meet `p` or `q` alternate, with one that meets `p` first. -/
def Alternates (p q : γ → Bool) : List γ → Bool
  | [] => true
  | x :: log => if p x then Alternates q p log else !q x && Alternates p q log

/-- If `p` switches from off to on, `q` from on to off, and no other call switches, they alternate
    in every log that is accepted. -/
theorem alternates_of_modeAfter {step : μ → γ → Option μ} (on : μ → Bool) {p q : γ → Bool}
    (hp : ∀ m x m', step m x = some m' → p x = true → on m = false ∧ on m' = true)
    (hq : ∀ m x m', step m x = some m' → q x = true → on m = true ∧ on m' = false)
    (hother : ∀ m x m', step m x = some m' → p x = false → q x = false → on m' = on m)
    {m m' : μ} {log : List γ} (h : modeAfter step m log = some m') :
    if on m then Alternates q p log = true else Alternates p q log = true := by
  induction log generalizing m with
  | nil => cases on m <;> rfl
  | cons x log ih =>
      obtain ⟨m₁, hx, hlog⟩ := Option.bind_eq_some_iff.mp h
      have hrest := ih hlog
      -- a call that meets `p` is not looked at for `q`
      cases hpx : p x with
      | true =>
          obtain ⟨hoff, hon⟩ := hp m x m₁ hx hpx
          rw [hon, if_pos rfl] at hrest
          rw [hoff, if_neg Bool.false_ne_true, Alternates, if_pos hpx]
          exact hrest
      | false =>
          cases hqx : q x with
          | true =>
              obtain ⟨hon, hoff⟩ := hq m x m₁ hx hqx
              rw [hoff, if_neg Bool.false_ne_true] at hrest
              rw [hon, if_pos rfl, Alternates, if_pos hqx]
              exact hrest
          | false =>
              rw [hother m x m₁ hx hpx hqx] at hrest
              rw [Alternates, Alternates, hpx, hqx]
              cases hm : on m <;> rw [hm] at hrest <;> exact hrest

end BcuSdk.Lib
