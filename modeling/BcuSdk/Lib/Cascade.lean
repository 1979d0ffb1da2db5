/-
  BcuSdk.Lib.Cascade

  Collections of items in which one item after the other is replaced by what
  it gives rise to.

  Nothing is said about the order in which items are taken, nor about how many
  new ones an item gives rise to.  If everything it gives rise to has a lower
  rank, the replacing ends (`cascade_wellFounded`); if there are at most `B`
  new items each time, `weight` bounds the number of steps (`steps_le`).
-/
import Mathlib.Algebra.BigOperators.Group.Multiset.Basic
import Mathlib.Algebra.Order.BigOperators.Group.Multiset
import Mathlib.Logic.Hydra

namespace BcuSdk.Lib

variable {τ : Type} {Spawns : τ → τ → Prop} {rank : τ → Nat}

/-- One item goes, and some of what it gives rise to comes. -/
def Cascade (Spawns : τ → τ → Prop) (ts ts' : Multiset τ) : Prop :=
  ∃ t rest new, ts = t ::ₘ rest ∧ (∀ u ∈ new, Spawns t u) ∧ ts' = rest + new

/-- A step that brings at most `B` new items. -/
def CascadeWithin (Spawns : τ → τ → Prop) (B : Nat) (ts ts' : Multiset τ) : Prop :=
  ∃ t rest new, ts = t ::ₘ rest ∧ (∀ u ∈ new, Spawns t u) ∧ Multiset.card new ≤ B ∧
    ts' = rest + new

/-- The steps an item of rank `r` is good for: itself, and `B` items of the rank below. -/
def weight (B : Nat) : Nat → Nat
  | 0 => 1
  | r + 1 => 1 + B * weight B r

theorem weight_mono (B : Nat) : Monotone (weight B) := by
  refine monotone_nat_of_le_succ fun r => ?_
  induction r with
  | zero => exact Nat.le_add_right ..
  | succ r ih =>
      have hmul : B * weight B r ≤ B * weight B (r + 1) := Nat.mul_le_mul_left B ih
      exact Nat.add_le_add_left hmul 1

/-- Without a bound on the new items the replacing ends all the same. -/
theorem cascade_wellFounded (hrank : ∀ t u, Spawns t u → rank u < rank t) :
    WellFounded fun ts' ts : Multiset τ => Cascade Spawns ts ts' := by
  have hwf : WellFounded fun u t : τ => rank u < rank t := InvImage.wf rank Nat.lt_wfRel.wf
  refine Subrelation.wf ?_ hwf.cutExpand
  rintro ts' ts ⟨t, rest, new, rfl, hnew, rfl⟩
  refine ⟨new, t, fun u hu => hrank t u (hnew u hu), ?_⟩
  rw [← Multiset.singleton_add, add_assoc, add_comm new, ← add_assoc, add_comm rest, add_assoc]

/-- No collection can be replaced from for ever. -/
theorem cascade_ends (hrank : ∀ t u, Spawns t u → rank u < rank t) :
    ¬ ∃ ts : Nat → Multiset τ, ∀ n, Cascade Spawns (ts n) (ts (n + 1)) := by
  rintro ⟨ts, hstep⟩
  exact (wellFounded_iff_isEmpty_descending_chain.mp (cascade_wellFounded hrank)).false ⟨ts, hstep⟩

/-- What is left to do in a collection. -/
def potential (rank : τ → Nat) (B : Nat) (ts : Multiset τ) : Nat :=
  (ts.map fun t => weight B (rank t)).sum

/-- Every step lowers what is left to do. -/
theorem CascadeWithin.potential_lt (hrank : ∀ t u, Spawns t u → rank u < rank t) {B : Nat}
    {ts ts' : Multiset τ} (h : CascadeWithin Spawns B ts ts') :
    potential rank B ts' < potential rank B ts := by
  obtain ⟨t, rest, new, rfl, hnew, hcard, rfl⟩ := h
  have hsum : potential rank B new < weight B (rank t) := by
    rcases Multiset.empty_or_exists_mem new with rfl | ⟨u, hu⟩
    · rw [potential, Multiset.map_zero, Multiset.sum_zero]
      cases rank t with
      | zero => exact Nat.one_pos
      | succ r => exact Nat.add_pos_left Nat.one_pos _
    · -- there is something new, so the rank is not 0
      obtain ⟨r, hr⟩ : ∃ r, rank t = r + 1 :=
        Nat.exists_eq_succ_of_ne_zero (Nat.ne_zero_of_lt (hrank t u (hnew u hu)))
      have hle : ∀ x ∈ new.map fun u => weight B (rank u), x ≤ weight B r := by
        intro x hx
        obtain ⟨u, hu, rfl⟩ := Multiset.mem_map.mp hx
        have hlt := hrank t u (hnew u hu)
        exact weight_mono B (by omega)
      have hbound := Multiset.sum_le_card_nsmul _ _ hle
      rw [Multiset.card_map, smul_eq_mul] at hbound
      have hmul := Nat.mul_le_mul_right (weight B r) hcard
      rw [hr, weight, potential]
      omega
  rw [potential, potential, Multiset.map_add, Multiset.sum_add, Multiset.map_cons,
    Multiset.sum_cons]
  rw [potential] at hsum
  omega

/-- A run is not longer than what is to do at its start. -/
theorem steps_le (hrank : ∀ t u, Spawns t u → rank u < rank t) {B n : Nat}
    {ts : Nat → Multiset τ} (hstep : ∀ i < n, CascadeWithin Spawns B (ts i) (ts (i + 1))) :
    n + potential rank B (ts n) ≤ potential rank B (ts 0) := by
  induction n with
  | zero => rw [Nat.zero_add]
  | succ n ih =>
      have hlt := (hstep n (Nat.lt_succ_self n)).potential_lt hrank
      have hle := ih fun i hi => hstep i (Nat.lt_succ_of_lt hi)
      omega

end BcuSdk.Lib
