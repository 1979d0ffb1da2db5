/-
  BcuSdk.Lib.Parser

  Parsers that may refuse their input, and a small logic for them.

  A parser is a `Checked (Option α)`: it can stop at a fault, answer `none`
  for an input it refuses, or answer `some a`.  `Answers x P` says that it
  does not fault and that what it accepts satisfies `P`; there is one rule
  for each way a parser is built, so that a proof follows the text of the
  parser.
-/
import BcuSdk.Lib.Buffer

namespace BcuSdk.Lib

variable {α β : Type}

/-- The parser does not fault, and what it accepts satisfies `P`. -/
def Answers (x : Checked (Option α)) (P : α → Prop) : Prop :=
  ∃ o, x = .ok o ∧ ∀ a, o = some a → P a

namespace Answers

variable {P Q : α → Prop} {x : Checked (Option α)}

/-- The input is refused. -/
theorem refuse : Answers (.ok none : Checked (Option α)) P :=
  ⟨none, rfl, fun _ h => nomatch h⟩

/-- The input is accepted. -/
theorem accept {a : α} (h : P a) : Answers (.ok (some a)) P :=
  ⟨some a, rfl, fun _ ha => Option.some.inj ha ▸ h⟩

theorem mono (hx : Answers x P) (h : ∀ a, P a → Q a) : Answers x Q := by
  obtain ⟨o, ho, hP⟩ := hx
  exact ⟨o, ho, fun a ha => h a (hP a ha)⟩

theorem not_error {e : Fault} : ¬ Answers (.error e : Checked (Option α)) P :=
  fun ⟨_, h, _⟩ => nomatch h

/-- `if (c) return 1;` -/
theorem guard {c : Prop} [Decidable c] (h : ¬ c → Answers x P) :
    Answers (if c then pure none else x) P := by
  by_cases hc : c
  · rw [if_pos hc]
    exact refuse
  · rw [if_neg hc]
    exact h hc

theorem branch {c : Prop} [Decidable c] {y : Checked (Option α)} (hx : c → Answers x P)
    (hy : ¬ c → Answers y P) : Answers (if c then x else y) P := by
  by_cases hc : c
  · rw [if_pos hc]
    exact hx hc
  · rw [if_neg hc]
    exact hy hc

/-- A step that returns. -/
theorem step {y : Checked β} {f : β → Checked (Option α)} (hy : y.Returns)
    (h : ∀ b, y = .ok b → Answers (f b) P) : Answers (y >>= f) P := by
  obtain ⟨b, hb⟩ := hy
  rw [hb]
  exact h b hb

/-- `data[i]` inside of `data`. -/
theorem readByte {data : List Byte} {i : Nat} {f : Byte → Checked (Option α)}
    (hi : i < data.length) (h : ∀ b, data[i]? = some b → Answers (f b) P) :
    Answers (BcuSdk.Lib.readByte data i >>= f) P := by
  rw [readByte_of_lt hi]
  exact h data[i] (List.getElem?_eq_getElem hi)

/-- A slice inside of `data`. -/
theorem readSlice {data : List Byte} {start n : Nat} {f : List Byte → Checked (Option α)}
    (hi : start + n ≤ data.length)
    (h : ∀ part : List Byte, part.length = n → (∀ i < n, part[i]? = data[start + i]?) →
      Answers (f part) P) : Answers (BcuSdk.Lib.readSlice data start n >>= f) P := by
  rw [readSlice_of_le hi]
  apply h
  · rw [List.length_take, List.length_drop]
    omega
  · intro i hin
    rw [List.getElem?_take_of_lt hin, List.getElem?_drop]

/-- A parser calls another one and refuses what that refuses. -/
theorem call {y : Checked (Option β)} {R : β → Prop} {g : Option β → Checked (Option α)}
    (hy : Answers y R) (hnone : g none = .ok none) (h : ∀ b, R b → Answers (g (some b)) P) :
    Answers (y >>= g) P := by
  obtain ⟨o, ho, hR⟩ := hy
  rw [ho, Checked.ok_bind]
  cases o with
  | none =>
      rw [hnone]
      exact refuse
  | some b => exact h b (hR b rfl)

/-- What another parser accepts, under a constructor. -/
theorem map {y : Checked (Option β)} {R : β → Prop} {f : β → α} (hy : Answers y R)
    (h : ∀ b, R b → P (f b)) : Answers (do return (← y).map f) P :=
  hy.call rfl fun b hb => accept (h b hb)

end Answers

end BcuSdk.Lib
