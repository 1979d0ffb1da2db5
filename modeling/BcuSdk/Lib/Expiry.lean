/-
  BcuSdk.Lib.Expiry

  Lists of entries with deadlines that are purged at some later time.

  Such a list is a lazy record of a history: every entry stands for something
  that happened, and what happened is in the list at least until its deadline.
  A lookup is exact if it looks at the deadlines, and not if it only finds.
-/
import Mathlib.Data.List.Basic

namespace BcuSdk.Lib

variable {ε η : Type} {R : ε → η → Prop} {deadline : ε → Nat}

/-- The entries stand for parts of the history, and no part is missing before its deadline. -/
structure Tracks (R : ε → η → Prop) (deadline : ε → Nat) (entries : List ε) (history : List η)
    (now : Nat) : Prop where
  sound : ∀ e ∈ entries, ∃ p ∈ history, R e p
  complete : ∀ p ∈ history, ∀ e, R e p → now ≤ deadline e → e ∈ entries

namespace Tracks

variable {entries : List ε} {history : List η} {now : Nat}

theorem nil : Tracks R deadline [] [] now where
  sound _ h := absurd h List.not_mem_nil
  complete _ h := absurd h List.not_mem_nil

/-- Time passes. -/
theorem later (h : Tracks R deadline entries history now) {now' : Nat} (hle : now ≤ now') :
    Tracks R deadline entries history now' where
  sound := h.sound
  complete p hp e he hdeadline := h.complete p hp e he (Nat.le_trans hle hdeadline)

/-- Something happens and is entered. -/
theorem record (h : Tracks R deadline entries history now) {e : ε} {p : η} (he : R e p)
    (hunique : ∀ e', R e' p → e' = e) :
    Tracks R deadline (entries ++ [e]) (history ++ [p]) now where
  sound e' he' := by
    obtain hold | hnew := List.mem_append.mp he'
    · obtain ⟨p', hp', hR⟩ := h.sound e' hold
      exact ⟨p', List.mem_append_left _ hp', hR⟩
    · rw [List.mem_singleton.mp hnew]
      exact ⟨p, List.mem_append_right _ List.mem_cons_self, he⟩
  complete p' hp' e' he' hdeadline := by
    obtain hold | hnew := List.mem_append.mp hp'
    · exact List.mem_append_left _ (h.complete p' hold e' he' hdeadline)
    · rw [List.mem_singleton.mp hnew] at he'
      rw [hunique e' he']
      exact List.mem_append_right _ List.mem_cons_self

/-- Expired entries are deleted. -/
theorem purge (h : Tracks R deadline entries history now) :
    Tracks R deadline (entries.filter fun e => ¬ deadline e < now) history now where
  sound e he := h.sound e (List.mem_filter.mp he).1
  complete p hp e he hdeadline :=
    List.mem_filter.mpr ⟨h.complete p hp e he hdeadline, by simpa using hdeadline⟩

/-- A lookup among the entries that have not expired finds what the history says. -/
theorem exists_fresh_iff (h : Tracks R deadline entries history now) (Q : ε → Prop) :
    (∃ e ∈ entries, Q e ∧ now ≤ deadline e) ↔
      ∃ p ∈ history, ∃ e, R e p ∧ Q e ∧ now ≤ deadline e := by
  constructor
  · rintro ⟨e, he, hQ, hfresh⟩
    obtain ⟨p, hp, hR⟩ := h.sound e he
    exact ⟨p, hp, e, hR, hQ, hfresh⟩
  · rintro ⟨p, hp, e, hR, hQ, hfresh⟩
    exact ⟨e, h.complete p hp e hR hfresh, hQ, hfresh⟩

end Tracks

end BcuSdk.Lib
