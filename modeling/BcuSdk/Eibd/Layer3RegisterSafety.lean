/-
  BcuSdk.Eibd.Layer3RegisterSafety

  What holds after any sequence of register and deregister calls.

  Layer 2 has exactly the addresses that some listener asked for, the
  busmonitor excludes the other listeners, and Layer 2 is in the mode that
  belongs to `mode`.  For each operation there is one lemma about what it can
  do; the invariants are kept by each outcome.
-/
import BcuSdk.Eibd.Layer3Register

namespace BcuSdk.Eibd

open BcuSdk.Lib

/-! ## Layer 2, as its calls tell -/

/-- The mode of Layer 2. -/
inductive Layer2Mode where
  | closed
  | open
  | busmonitor
  deriving DecidableEq, Repr

namespace Layer2Call

/-- The mode after a call; `none` if the call does not belong to this mode. -/
def mode : Layer2Mode → Layer2Call → Option Layer2Mode
  | .closed, .open => some .open
  | .open, .close => some .closed
  | .closed, .enterBusmonitor true => some .busmonitor
  | .closed, .enterBusmonitor false => some .closed
  | .busmonitor, .leaveBusmonitor => some .closed
  | _, .open | _, .close | _, .enterBusmonitor _ | _, .leaveBusmonitor => none
  | m, _ => some m

def isOpen (c : Layer2Call) : Bool := c = .open

def isClose (c : Layer2Call) : Bool := c = .close

/-- A call of `enterBusmonitor`, with whatever result. -/
def isEnter : Layer2Call → Bool
  | .enterBusmonitor _ => true
  | _ => false

/-- A call of `enterBusmonitor` that succeeds. -/
def isEntered (c : Layer2Call) : Bool := c = .enterBusmonitor true

def isLeave (c : Layer2Call) : Bool := c = .leaveBusmonitor

def addsGroup : Layer2Call → Option EibAddr
  | .addGroupAddress addr true => some addr
  | _ => none

def removesGroup : Layer2Call → Option EibAddr
  | .removeGroupAddress addr => some addr
  | _ => none

def adds : Layer2Call → Option EibAddr
  | .addAddress addr true => some addr
  | _ => none

def removes : Layer2Call → Option EibAddr
  | .removeAddress addr => some addr
  | _ => none

/-- `Open` and `Close` alternate in a log that keeps to the modes. -/
theorem alternates_open {m : Layer2Mode} {log : List Layer2Call}
    (h : modeAfter mode .closed log = some m) : Alternates isOpen isClose log = true := by
  refine alternates_of_modeAfter (· = .open) ?_ ?_ ?_ h
  · intro m x m' hstep hx
    obtain rfl : x = .open := of_decide_eq_true hx
    cases m <;> cases hstep
    exact ⟨rfl, rfl⟩
  · intro m x m' hstep hx
    obtain rfl : x = .close := of_decide_eq_true hx
    cases m <;> cases hstep
    exact ⟨rfl, rfl⟩
  · -- no other call leads into or out of the open mode
    intro m x m' hstep hopen hclose
    rcases x with _ | _ | (_ | _) | _ | _ | _ | _ | _ | _ | _ <;> cases m <;> cases hstep <;>
      first | rfl | exact absurd hopen (by decide) | exact absurd hclose (by decide)

/-- Successful `enterBusmonitor` and `leaveBusmonitor` alternate in such a log. -/
theorem alternates_entered {m : Layer2Mode} {log : List Layer2Call}
    (h : modeAfter mode .closed log = some m) : Alternates isEntered isLeave log = true := by
  refine alternates_of_modeAfter (· = .busmonitor) ?_ ?_ ?_ h
  · intro m x m' hstep hx
    obtain rfl : x = .enterBusmonitor true := of_decide_eq_true hx
    cases m <;> cases hstep
    exact ⟨rfl, rfl⟩
  · intro m x m' hstep hx
    obtain rfl : x = .leaveBusmonitor := of_decide_eq_true hx
    cases m <;> cases hstep
    exact ⟨rfl, rfl⟩
  · -- a refused `enterBusmonitor` stays in the closed mode
    intro m x m' hstep henter hleave
    rcases x with _ | _ | (_ | _) | _ | _ | _ | _ | _ | _ | _ <;> cases m <;> cases hstep <;>
      first | rfl | exact absurd henter (by decide) | exact absurd hleave (by decide)

/-- The addresses that the calls of one kind carry. -/
def collect (kind : Layer2Call → Option EibAddr) (log : List Layer2Call) : Multiset EibAddr :=
  log.filterMap kind

theorem collect_skip {kind : Layer2Call → Option EibAddr} {c : Layer2Call} (h : kind c = none)
    (log : List Layer2Call) : collect kind (log ++ [c]) = collect kind log := by
  rw [collect, List.filterMap_append, List.filterMap_cons_none h, List.filterMap_nil,
    List.append_nil, collect]

theorem collect_take {kind : Layer2Call → Option EibAddr} {c : Layer2Call} {a : EibAddr}
    (h : kind c = some a) (log : List Layer2Call) :
    collect kind (log ++ [c]) = a ::ₘ collect kind log := by
  rw [collect, List.filterMap_append, List.filterMap_cons_some h, List.filterMap_nil, collect,
    Multiset.cons_coe, Multiset.coe_eq_coe]
  exact List.perm_append_singleton a _

/-- What was added and not removed again are just the given addresses, each of them once. -/
def Balanced (adds removes : Layer2Call → Option EibAddr) (log : List Layer2Call)
    (addrs : Finset EibAddr) : Prop :=
  collect adds log = collect removes log + addrs.val

namespace Balanced

variable {adds removes : Layer2Call → Option EibAddr} {log : List Layer2Call} {c : Layer2Call}
  {a : EibAddr} {addrs addrs' : Finset EibAddr}

theorem skip (h : Balanced adds removes log addrs) (hadds : adds c = none)
    (hremoves : removes c = none) : Balanced adds removes (log ++ [c]) addrs := by
  rw [Balanced, collect_skip hadds, collect_skip hremoves]
  exact h

theorem add (h : Balanced adds removes log addrs) (hadds : adds c = some a)
    (hremoves : removes c = none) (haddrs : addrs'.val = a ::ₘ addrs.val) :
    Balanced adds removes (log ++ [c]) addrs' := by
  rw [Balanced, collect_take hadds, collect_skip hremoves, haddrs, Multiset.add_cons]
  exact congrArg _ h

theorem remove (h : Balanced adds removes log addrs) (hadds : adds c = none)
    (hremoves : removes c = some a) (haddrs : addrs.val = a ::ₘ addrs'.val) :
    Balanced adds removes (log ++ [c]) addrs' := by
  rw [Balanced, collect_skip hadds, collect_take hremoves, Multiset.cons_add, ← Multiset.add_cons,
    ← haddrs]
  exact h

end Balanced

theorem modeAfter_call {log : List Layer2Call} {c : Layer2Call} {m m' : Layer2Mode}
    (h : modeAfter mode .closed log = some m) (hc : mode m c = some m') :
    modeAfter mode .closed (log ++ [c]) = some m' := by
  rw [modeAfter_append, h, Option.bind_some, modeAfter, hc]
  rfl

end Layer2Call

/-! ## What an operation can do -/

namespace Layer3State

open Layer2Call

variable {α β : Type}

/-- Where Layer 2 is not asked, the address is 0 or has a listener. -/
theorem not_asked {γ : Type} {l : List γ} {key : γ → EibAddr} {addr : EibAddr}
    (h : ¬ ((!l.any (key · = addr)) = true ∧ addr ≠ 0)) : addr = 0 ∨ ∃ x ∈ l, key x = addr := by
  rw [not_and_not_right, Bool.not_eq_true', List.any_eq_false] at h
  by_cases hused : ∃ x ∈ l, key x = addr
  · exact .inr hused
  · exact .inl (h fun x hx => by simpa using fun hkey => hused ⟨x, hx, hkey⟩)

/-- The possible outcomes of `registerGroupCallBack`. -/
theorem registerGroupCallBack_cases {s : Layer3State α β} {c : α} {addr : EibAddr} {ok : Bool}
    {r : Bool × Layer3State α β} (h : s.registerGroupCallBack c addr ok = r) :
    r = (false, s) ∨
    r = (false, { s with calls := s.calls ++ [.addGroupAddress addr false] }) ∨
    (s.mode ≠ 1 ∧
      ((addr ≠ 0 ∧ (∀ g ∈ s.group, g.dest ≠ addr) ∧ r = (true,
        { s with
          group := s.group ++ [⟨c, addr⟩]
          calls := s.calls ++ [.addGroupAddress addr true] })) ∨
      ((addr = 0 ∨ ∃ g ∈ s.group, g.dest = addr) ∧
        r = (true, { s with group := s.group ++ [⟨c, addr⟩] })))) := by
  rw [registerGroupCallBack] at h
  split at h
  · exact .inl h.symm
  next hmode =>
  refine .inr ?_
  dsimp only at h
  split at h
  · next hnew =>
    cases ok with
    | false => exact .inl h.symm
    | true => exact .inr ⟨hmode, .inl ⟨hnew.2, by simpa using hnew.1, h.symm⟩⟩
  · next hnew => exact .inr ⟨hmode, .inr ⟨not_asked hnew, h.symm⟩⟩

/-- The possible outcomes of `registerIndividualCallBack`. -/
theorem registerIndividualCallBack_cases {s : Layer3State α β} {c : α} {lock : IndividualLock}
    {src dest : EibAddr} {ok : Bool} {r : Bool × Layer3State α β}
    (h : s.registerIndividualCallBack c lock src dest ok = r) :
    r = (false, s) ∨
    r = (false, { s with calls := s.calls ++ [.addAddress dest false] }) ∨
    (s.mode ≠ 1 ∧
      (lock = .connection → ∀ i ∈ s.individual, i.src = src → i.lock ≠ .connection) ∧
      ((dest ≠ 0 ∧ (∀ i ∈ s.individual, i.dest ≠ dest) ∧ r = (true,
        { s with
          individual := s.individual ++ [⟨c, src, dest, lock⟩]
          calls := s.calls ++ [.addAddress dest true] })) ∨
      ((dest = 0 ∨ ∃ i ∈ s.individual, i.dest = dest) ∧
        r = (true, { s with individual := s.individual ++ [⟨c, src, dest, lock⟩] })))) := by
  rw [registerIndividualCallBack] at h
  split at h
  · exact .inl h.symm
  -- behind the mode the lock is checked, then the address is asked for
  next hmode =>
  split at h
  · exact .inl h.symm
  next hlock =>
  have hfree : lock = .connection → ∀ i ∈ s.individual, i.src = src → i.lock ≠ .connection := by
    intro hconn i hi hsrc hlocked
    exact hlock (List.any_eq_true.mpr ⟨i, hi, by simp [hconn, hsrc, hlocked]⟩)
  refine .inr ?_
  dsimp only at h
  split at h
  · next hnew =>
    cases ok with
    | false => exact .inl h.symm
    | true => exact .inr ⟨hmode, hfree, .inl ⟨hnew.2, by simpa using hnew.1, h.symm⟩⟩
  · next hnew => exact .inr ⟨hmode, hfree, .inr ⟨not_asked hnew, h.symm⟩⟩

/-- The possible outcomes of `registerBusmonitor`. -/
theorem registerBusmonitor_cases {s : Layer3State α β} {c : β} {ok : Bool}
    {r : Bool × Layer3State α β} (h : s.registerBusmonitor c ok = r) :
    r = (false, s) ∨
    (s.individual = [] ∧ s.group = [] ∧ s.broadcast = [] ∧
      ((s.mode = 0 ∧ r = (true,
        { s with
          mode := 1
          busmonitor := s.busmonitor ++ [c]
          calls := s.calls ++ [.close] ++ [.enterBusmonitor true] })) ∨
      (s.mode = 0 ∧ r = (false,
        { s with calls := s.calls ++ [.close] ++ [.enterBusmonitor false] ++ [.open] })) ∨
      (s.mode ≠ 0 ∧ r = (true, { s with mode := 1, busmonitor := s.busmonitor ++ [c] })))) := by
  rw [registerBusmonitor] at h
  split at h
  · exact .inl h.symm
  next hindividual =>
  split at h
  · exact .inl h.symm
  next hgroup =>
  split at h
  · exact .inl h.symm
  next hbroadcast =>
  refine .inr ⟨not_not.mp hindividual, not_not.mp hgroup, not_not.mp hbroadcast, ?_⟩
  split at h
  · next hmode =>
    cases ok with
    | true => exact .inl ⟨hmode, h.symm⟩
    | false => exact .inr (.inl ⟨hmode, h.symm⟩)
  · next hmode => exact .inr (.inr ⟨hmode, h.symm⟩)

/-- The possible outcomes of `deregisterGroupCallBack`. -/
theorem deregisterGroupCallBack_cases [DecidableEq α] {s : Layer3State α β} {c : α} {addr : EibAddr}
    {r : Bool × Layer3State α β} (h : s.deregisterGroupCallBack c addr = r) :
    r = (false, s) ∨ ∃ g group, g.dest = addr ∧ (g :: group).Perm s.group ∧
      (((addr = 0 ∨ ∃ g ∈ group, g.dest = addr) ∧ r = (true, { s with group })) ∨
      (addr ≠ 0 ∧ (∀ g ∈ group, g.dest ≠ addr) ∧
        r = (true, { s with group, calls := s.calls ++ [.removeGroupAddress addr] }))) := by
  rw [deregisterGroupCallBack] at h
  cases hremove : removeFirst (fun g => g.cb = c ∧ g.dest = addr) s.group with
  | none =>
      rw [hremove] at h
      exact .inl h.symm
  | some group =>
      rw [hremove] at h
      obtain ⟨g, hg, hperm⟩ := removeFirst_eq_some hremove
      refine .inr ⟨g, group, (of_decide_eq_true hg).2, hperm, ?_⟩
      dsimp only at h
      split at h
      · next hany => exact .inl ⟨.inr (by simpa using hany), h.symm⟩
      next hany =>
      split at h
      · next haddr => exact .inr ⟨haddr, by simpa using hany, h.symm⟩
      · next haddr => exact .inl ⟨.inl (not_not.mp haddr), h.symm⟩

/-- The possible outcomes of `deregisterIndividualCallBack`. -/
theorem deregisterIndividualCallBack_cases [DecidableEq α] {s : Layer3State α β} {c : α}
    {src dest : EibAddr} {r : Bool × Layer3State α β}
    (h : s.deregisterIndividualCallBack c src dest = r) :
    r = (false, s) ∨ ∃ i individual, i.dest = dest ∧ (i :: individual).Perm s.individual ∧
      (((dest = 0 ∨ ∃ i ∈ individual, i.dest = dest) ∧ r = (true, { s with individual })) ∨
      (dest ≠ 0 ∧ (∀ i ∈ individual, i.dest ≠ dest) ∧
        r = (true, { s with individual, calls := s.calls ++ [.removeAddress dest] }))) := by
  rw [deregisterIndividualCallBack] at h
  cases hremove : removeFirst (fun i => i.cb = c ∧ i.src = src ∧ i.dest = dest) s.individual with
  | none =>
      rw [hremove] at h
      exact .inl h.symm
  | some individual =>
      rw [hremove] at h
      obtain ⟨i, hi, hperm⟩ := removeFirst_eq_some hremove
      refine .inr ⟨i, individual, (of_decide_eq_true hi).2.2, hperm, ?_⟩
      -- the address goes with the last entry for it
      dsimp only at h
      split at h
      · next hany => exact .inl ⟨.inr (by simpa using hany), h.symm⟩
      next hany =>
      split at h
      · next haddr => exact .inr ⟨haddr, by simpa using hany, h.symm⟩
      · next haddr => exact .inl ⟨.inl (not_not.mp haddr), h.symm⟩

/-- The possible outcomes of `deregisterBusmonitor`. -/
theorem deregisterBusmonitor_cases [DecidableEq β] {s : Layer3State α β} {c : β}
    {r : Bool × Layer3State α β} (h : s.deregisterBusmonitor c = r) :
    r = (false, s) ∨ (s.busmonitor ≠ [] ∧
      (r = (true, { s with
        mode := 0, busmonitor := [], calls := s.calls ++ [.leaveBusmonitor] ++ [.open] }) ∨
      ∃ busmonitor, busmonitor ≠ [] ∧ r = (true, { s with busmonitor }))) := by
  rw [deregisterBusmonitor] at h
  cases hremove : removeFirst (· = c) s.busmonitor with
  | none =>
      rw [hremove] at h
      exact .inl h.symm
  | some busmonitor =>
      rw [hremove] at h
      obtain ⟨b, -, hperm⟩ := removeFirst_eq_some hremove
      refine .inr ⟨fun hnil => ?_, ?_⟩
      · rw [hnil] at hperm
        exact List.cons_ne_nil _ _ hperm.eq_nil
      dsimp only at h
      split at h
      · next hnil =>
        subst hnil
        exact .inl h.symm
      · next hnil => exact .inr ⟨busmonitor, hnil, h.symm⟩

/-- The possible outcomes of `deregisterBroadcastCallBack`. -/
theorem deregisterBroadcastCallBack_cases [DecidableEq α] {s : Layer3State α β} {c : α}
    {r : Bool × Layer3State α β} (h : s.deregisterBroadcastCallBack c = r) :
    r = (false, s) ∨ (s.broadcast ≠ [] ∧ ∃ broadcast, r = (true, { s with broadcast })) := by
  rw [deregisterBroadcastCallBack] at h
  cases hremove : removeFirst (· = c) s.broadcast with
  | none =>
      rw [hremove] at h
      exact .inl h.symm
  | some broadcast =>
      rw [hremove] at h
      obtain ⟨b, -, hperm⟩ := removeFirst_eq_some hremove
      refine .inr ⟨fun hnil => ?_, broadcast, h.symm⟩
      rw [hnil] at hperm
      exact List.cons_ne_nil _ _ hperm.eq_nil

/-! ## The invariant -/

/-- What holds between the calls. -/
structure Invariant (s : Layer3State α β) : Prop where
  mode : s.mode = if s.busmonitor = [] then 0 else 1
  exclusive : s.busmonitor ≠ [] → s.broadcast = [] ∧ s.group = [] ∧ s.individual = []
  layer2 : modeAfter Layer2Call.mode .closed s.calls =
    some (if s.busmonitor = [] then .open else .busmonitor)
  locks : ∀ src, (s.individual.filter fun i => i.src = src ∧ i.lock = .connection).length ≤ 1
  group : Balanced addsGroup removesGroup s.calls (used GroupInfo.dest 0 s.group)
  individual : Balanced adds removes s.calls (used IndividualInfo.dest 0 s.individual)

namespace Invariant

variable {s : Layer3State α β}

theorem init : Invariant (init : Layer3State α β) where
  mode := rfl
  exclusive h := absurd rfl h
  layer2 := rfl
  locks _ := Nat.zero_le 1
  group := rfl
  individual := rfl

/-- A call for another purpose does not change the mode of Layer 2. -/
theorem layer2_skip (h : Invariant s) {c : Layer2Call}
    (hc : ∀ m, Layer2Call.mode m c = some m) :
    modeAfter Layer2Call.mode .closed (s.calls ++ [c]) =
      some (if s.busmonitor = [] then .open else .busmonitor) :=
  modeAfter_call h.layer2 (hc _)

theorem busmonitor_eq_nil (h : Invariant s) (hmode : s.mode ≠ 1) : s.busmonitor = [] := by
  by_contra hne
  exact hmode (h.mode.trans (if_neg hne))

theorem registerGroupCallBack (h : Invariant s) (c : α) (addr : EibAddr) (ok : Bool) :
    Invariant (s.registerGroupCallBack c addr ok).2 := by
  obtain hr | hr | ⟨hmode, ⟨haddr, hnew, hr⟩ | ⟨hold, hr⟩⟩ := registerGroupCallBack_cases rfl
  · rw [hr]
    exact h
  · -- the address is refused: only the log grows, by a call that adds nothing
    rw [hr]
    exact { h with
      layer2 := h.layer2_skip fun m => by cases m <;> rfl
      group := h.group.skip rfl rfl
      individual := h.individual.skip rfl rfl }
  · -- the address is new: one listener more uses it, and Layer 2 has it
    rw [hr]
    have hnil := h.busmonitor_eq_nil hmode
    exact { h with
      exclusive := fun hne => absurd hnil hne
      layer2 := h.layer2_skip fun m => by cases m <;> rfl
      group := h.group.add rfl rfl (by
        rw [used_append_singleton]
        exact used_cons_of_new haddr hnew)
      individual := h.individual.skip rfl rfl }
  · -- the address is in use or 0: the set of used addresses stays the same
    rw [hr]
    have hnil := h.busmonitor_eq_nil hmode
    exact { h with
      exclusive := fun hne => absurd hnil hne
      group := by
        rw [used_append_singleton, used_cons_of_mem hold]
        exact h.group }

/-- A new entry keeps the locks if there is none from its source yet. -/
theorem locks_append {individual : List (IndividualInfo α)} {i : IndividualInfo α}
    (h : ∀ src, (individual.filter fun i => i.src = src ∧ i.lock = .connection).length ≤ 1)
    (hfree : i.lock = .connection → ∀ j ∈ individual, j.src = i.src → j.lock ≠ .connection)
    (src : EibAddr) :
    ((individual ++ [i]).filter fun i => i.src = src ∧ i.lock = .connection).length ≤ 1 := by
  rw [List.filter_append, List.length_append]
  by_cases hi : i.src = src ∧ i.lock = .connection
  · have hnone : individual.filter (fun i => i.src = src ∧ i.lock = .connection) = [] := by
      rw [List.filter_eq_nil_iff]
      intro j hj
      simp only [decide_eq_true_eq, not_and]
      exact fun hsrc => hfree hi.2 j hj (hsrc.trans hi.1.symm)
    rw [hnone, List.length_nil, Nat.zero_add]
    exact List.length_filter_le _ [i]
  · have hnone : [i].filter (fun i => i.src = src ∧ i.lock = .connection) = [] := by
      simpa using hi
    rw [hnone]
    exact h src

theorem registerIndividualCallBack (h : Invariant s) (c : α) (lock : IndividualLock)
    (src dest : EibAddr) (ok : Bool) :
    Invariant (s.registerIndividualCallBack c lock src dest ok).2 := by
  obtain hr | hr | ⟨hmode, hfree, ⟨haddr, hnew, hr⟩ | ⟨hold, hr⟩⟩ :=
    registerIndividualCallBack_cases rfl
  · rw [hr]
    exact h
  -- refused by Layer 2: only the call is new
  · rw [hr]
    exact { h with
      layer2 := h.layer2_skip fun m => by cases m <;> rfl
      group := h.group.skip rfl rfl
      individual := h.individual.skip rfl rfl }
  -- a new address
  · rw [hr]
    have hnil := h.busmonitor_eq_nil hmode
    exact { h with
      exclusive := fun hne => absurd hnil hne
      layer2 := h.layer2_skip fun m => by cases m <;> rfl
      locks := locks_append h.locks hfree
      group := h.group.skip rfl rfl
      individual := h.individual.add rfl rfl (by
        rw [used_append_singleton]
        exact used_cons_of_new haddr hnew) }
  -- an address that Layer 2 has already
  · rw [hr]
    have hnil := h.busmonitor_eq_nil hmode
    exact { h with
      exclusive := fun hne => absurd hnil hne
      locks := locks_append h.locks hfree
      individual := by
        rw [used_append_singleton, used_cons_of_mem hold]
        exact h.individual }

theorem registerBusmonitor (h : Invariant s) (c : β) (ok : Bool) :
    Invariant (s.registerBusmonitor c ok).2 := by
  obtain hr | ⟨hindividual, hgroup, hbroadcast, ⟨hmode, hr⟩ | ⟨hmode, hr⟩ | ⟨hmode, hr⟩⟩ :=
    registerBusmonitor_cases rfl
  · rw [hr]
    exact h
  · -- the first busmonitor: Layer 2 is closed and enters its busmonitor state
    rw [hr]
    have hopen := h.layer2
    rw [if_pos (h.busmonitor_eq_nil (by omega))] at hopen
    exact { h with
      mode := by rw [if_neg (by simp)]
      exclusive := fun _ => ⟨hbroadcast, hgroup, hindividual⟩
      layer2 := by
        rw [if_neg (by simp)]
        exact modeAfter_call (modeAfter_call hopen rfl) rfl
      group := (h.group.skip rfl rfl).skip rfl rfl
      individual := (h.individual.skip rfl rfl).skip rfl rfl }
  · -- Layer 2 refuses, and is opened again
    rw [hr]
    have hnil := h.busmonitor_eq_nil (by omega)
    have hopen := h.layer2
    rw [if_pos hnil] at hopen
    exact { h with
      layer2 := by
        rw [if_pos hnil]
        exact modeAfter_call (modeAfter_call (modeAfter_call hopen rfl) rfl) rfl
      group := ((h.group.skip rfl rfl).skip rfl rfl).skip rfl rfl
      individual := ((h.individual.skip rfl rfl).skip rfl rfl).skip rfl rfl }
  · -- a further busmonitor: Layer 2 is not called
    rw [hr]
    have hne : s.busmonitor ≠ [] := fun hnil => hmode (h.mode.trans (if_pos hnil))
    have hmonitor := h.layer2
    rw [if_neg hne] at hmonitor
    exact { h with
      mode := by rw [if_neg (by simp)]
      exclusive := fun _ => ⟨hbroadcast, hgroup, hindividual⟩
      layer2 := by
        rw [if_neg (by simp)]
        exact hmonitor }

theorem registerVBusmonitor (h : Invariant s) (c : β) (ok : Bool) :
    Invariant (s.registerVBusmonitor c ok).2 := by
  have hcall : Invariant (s.call (.openVBusmonitor ok)) := { h with
    layer2 := h.layer2_skip fun m => by cases m <;> rfl
    group := h.group.skip rfl rfl
    individual := h.individual.skip rfl rfl }
  rw [Layer3State.registerVBusmonitor]
  split
  · cases ok with
    | true => exact { hcall with }
    | false => exact hcall
  · exact { h with }

theorem registerBroadcastCallBack (h : Invariant s) (c : α) :
    Invariant (s.registerBroadcastCallBack c).2 := by
  rw [Layer3State.registerBroadcastCallBack]
  split
  · exact h
  · next hmode =>
    exact { h with exclusive := fun hne => absurd (h.busmonitor_eq_nil hmode) hne }

theorem deregisterBusmonitor [DecidableEq β] (h : Invariant s) (c : β) :
    Invariant (s.deregisterBusmonitor c).2 := by
  obtain hr | ⟨hne, hr | ⟨busmonitor, hrest, hr⟩⟩ :=
    deregisterBusmonitor_cases (rfl : s.deregisterBusmonitor c = _)
  · rw [hr]
    exact h
  · -- the last busmonitor leaves, and Layer 2 goes back to normal operation
    rw [hr]
    have hmonitor := h.layer2
    rw [if_neg hne] at hmonitor
    exact { h with
      mode := rfl
      exclusive := fun hnil => absurd rfl hnil
      layer2 := modeAfter_call (modeAfter_call hmonitor rfl) rfl
      group := (h.group.skip rfl rfl).skip rfl rfl
      individual := (h.individual.skip rfl rfl).skip rfl rfl }
  · rw [hr]
    exact { h with
      mode := h.mode.trans ((if_neg hne).trans (if_neg hrest).symm)
      exclusive := fun _ => h.exclusive hne
      layer2 := by
        rw [if_neg hrest, h.layer2, if_neg hne] }

theorem deregisterVBusmonitor [DecidableEq β] (h : Invariant s) (c : β) :
    Invariant (s.deregisterVBusmonitor c).2 := by
  rw [Layer3State.deregisterVBusmonitor]
  split
  · exact h
  · split
    · exact { h with
        layer2 := h.layer2_skip fun m => by cases m <;> rfl
        group := h.group.skip rfl rfl
        individual := h.individual.skip rfl rfl }
    · exact { h with }

theorem deregisterBroadcastCallBack [DecidableEq α] (h : Invariant s) (c : α) :
    Invariant (s.deregisterBroadcastCallBack c).2 := by
  obtain hr | ⟨hsome, broadcast, hr⟩ :=
    deregisterBroadcastCallBack_cases (rfl : s.deregisterBroadcastCallBack c = _)
  · rw [hr]
    exact h
  · rw [hr]
    exact { h with exclusive := fun hne => absurd (h.exclusive hne).1 hsome }

theorem deregisterGroupCallBack [DecidableEq α] (h : Invariant s) (c : α) (addr : EibAddr) :
    Invariant (s.deregisterGroupCallBack c addr).2 := by
  obtain hr | ⟨g, group, rfl, hperm, hout⟩ :=
    deregisterGroupCallBack_cases (rfl : s.deregisterGroupCallBack c addr = _)
  · rw [hr]
    exact h
  have hsome : s.group ≠ [] := fun hnil => List.cons_ne_nil g group (hnil ▸ hperm).eq_nil
  -- the list as it was, with the leaving entry in front
  have hgroup := h.group
  rw [← used_perm hperm] at hgroup
  obtain ⟨hold, hr⟩ | ⟨haddr, hnew, hr⟩ := hout
  · -- another listener keeps the address
    rw [hr]
    rw [used_cons_of_mem hold] at hgroup
    exact { h with
      exclusive := fun hne => absurd (h.exclusive hne).2.1 hsome
      group := hgroup }
  · rw [hr]
    exact { h with
      exclusive := fun hne => absurd (h.exclusive hne).2.1 hsome
      layer2 := h.layer2_skip fun m => by cases m <;> rfl
      group := hgroup.remove rfl rfl (used_cons_of_new haddr hnew)
      individual := h.individual.skip rfl rfl }

theorem deregisterIndividualCallBack [DecidableEq α] (h : Invariant s) (c : α)
    (src dest : EibAddr) : Invariant (s.deregisterIndividualCallBack c src dest).2 := by
  obtain hr | ⟨i, individual, rfl, hperm, hout⟩ :=
    deregisterIndividualCallBack_cases (rfl : s.deregisterIndividualCallBack c src dest = _)
  · rw [hr]
    exact h
  have hsome : s.individual ≠ [] := fun hnil => List.cons_ne_nil i individual (hnil ▸ hperm).eq_nil
  have hlocks : ∀ src,
      (individual.filter fun i => i.src = src ∧ i.lock = .connection).length ≤ 1 := by
    intro src
    refine Nat.le_trans ?_ (h.locks src)
    rw [← (hperm.filter _).length_eq]
    exact ((List.sublist_cons_self i individual).filter _).length_le
  -- the list as it was, with the leaving entry in front
  have hindividual := h.individual
  rw [← used_perm hperm] at hindividual
  obtain ⟨hold, hr⟩ | ⟨haddr, hnew, hr⟩ := hout
  · -- another listener keeps the address
    rw [hr]
    rw [used_cons_of_mem hold] at hindividual
    exact { h with
      exclusive := fun hne => absurd (h.exclusive hne).2.2 hsome
      locks := hlocks
      individual := hindividual }
  · rw [hr]
    exact { h with
      exclusive := fun hne => absurd (h.exclusive hne).2.2 hsome
      layer2 := h.layer2_skip fun m => by cases m <;> rfl
      locks := hlocks
      group := h.group.skip rfl rfl
      individual := hindividual.remove rfl rfl (used_cons_of_new haddr hnew) }

section Run

variable [DecidableEq α] [DecidableEq β]

theorem step (h : Invariant s) (op : Layer3Op α β) : Invariant (s.step op).2 := by
  cases op with
  | registerBusmonitor c ok => exact h.registerBusmonitor c ok
  | registerVBusmonitor c ok => exact h.registerVBusmonitor c ok
  | registerBroadcastCallBack c => exact h.registerBroadcastCallBack c
  | registerGroupCallBack c addr ok => exact h.registerGroupCallBack c addr ok
  | registerIndividualCallBack c lock src dest ok =>
      exact h.registerIndividualCallBack c lock src dest ok
  | deregisterBusmonitor c => exact h.deregisterBusmonitor c
  | deregisterVBusmonitor c => exact h.deregisterVBusmonitor c
  | deregisterBroadcastCallBack c => exact h.deregisterBroadcastCallBack c
  | deregisterGroupCallBack c addr => exact h.deregisterGroupCallBack c addr
  | deregisterIndividualCallBack c src dest => exact h.deregisterIndividualCallBack c src dest

theorem foldl (h : Invariant s) (ops : List (Layer3Op α β)) :
    Invariant (ops.foldl (fun s op => (s.step op).2) s) := by
  induction ops generalizing s with
  | nil => exact h
  | cons op ops ih => exact ih (h.step op)

theorem after (ops : List (Layer3Op α β)) : Invariant (after ops) := init.foldl ops

end Run

end Invariant

/-! ## Addresses at Layer 2 -/

/-- The lists are the same, and so are the addresses that Layer 2 has. -/
def Unchanged (s s' : Layer3State α β) : Prop :=
  { s' with calls := s.calls } = s ∧
    collect addsGroup s'.calls = collect addsGroup s.calls ∧
    collect removesGroup s'.calls = collect removesGroup s.calls ∧
    collect adds s'.calls = collect adds s.calls ∧
    collect removes s'.calls = collect removes s.calls

theorem Unchanged.refl (s : Layer3State α β) : Unchanged s s := ⟨rfl, rfl, rfl, rfl, rfl⟩

theorem unchanged_registerGroupCallBack {s : Layer3State α β} {c : α} {addr : EibAddr} {ok : Bool}
    (h : (s.registerGroupCallBack c addr ok).1 = false) :
    Unchanged s (s.registerGroupCallBack c addr ok).2 := by
  obtain hr | hr | ⟨-, ⟨-, -, hr⟩ | ⟨-, hr⟩⟩ := registerGroupCallBack_cases
    (rfl : s.registerGroupCallBack c addr ok = _)
  · rw [hr]
    exact .refl s
  · rw [hr]
    exact ⟨rfl, collect_skip rfl _, collect_skip rfl _, collect_skip rfl _, collect_skip rfl _⟩
  · rw [hr] at h
    cases h
  · rw [hr] at h
    cases h

theorem unchanged_registerIndividualCallBack {s : Layer3State α β} {c : α} {lock : IndividualLock}
    {src dest : EibAddr} {ok : Bool}
    (h : (s.registerIndividualCallBack c lock src dest ok).1 = false) :
    Unchanged s (s.registerIndividualCallBack c lock src dest ok).2 := by
  obtain hr | hr | ⟨-, -, ⟨-, -, hr⟩ | ⟨-, hr⟩⟩ := registerIndividualCallBack_cases
    (rfl : s.registerIndividualCallBack c lock src dest ok = _)
  · rw [hr]
    exact .refl s
  · rw [hr]
    exact ⟨rfl, collect_skip rfl _, collect_skip rfl _, collect_skip rfl _, collect_skip rfl _⟩
  · rw [hr] at h
    cases h
  · rw [hr] at h
    cases h

section Run

variable [DecidableEq α] [DecidableEq β]

/-- Layer 2 has just the addresses other than 0 that occur in the lists, each of them once; and a
    registration that fails changes nothing. -/
theorem layer2_addresses (ops : List (Layer3Op α β)) :
    Balanced addsGroup removesGroup (after ops).calls (used GroupInfo.dest 0 (after ops).group) ∧
    Balanced adds removes (after ops).calls
      (used IndividualInfo.dest 0 (after ops).individual) ∧
    (∀ c addr ok, ((after ops).registerGroupCallBack c addr ok).1 = false →
      Unchanged (after ops) ((after ops).registerGroupCallBack c addr ok).2) ∧
    ∀ c lock src dest ok,
      ((after ops).registerIndividualCallBack c lock src dest ok).1 = false →
      Unchanged (after ops) ((after ops).registerIndividualCallBack c lock src dest ok).2 :=
  ⟨(Invariant.after ops).group, (Invariant.after ops).individual,
    fun _ _ _ => unchanged_registerGroupCallBack,
    fun _ _ _ _ _ => unchanged_registerIndividualCallBack⟩

end Run

/-! ## Modes -/

/-- The busmonitor excludes all listeners for data frames, Layer 2 is in the mode that belongs to
    `mode`, its calls alternate, and each source is locked at most once.  The calls of
    `enterBusmonitor` that count are those that meet `enters`. -/
def ModesKept (enters : Layer2Call → Bool) (s : Layer3State α β) : Prop :=
  (s.mode = 1 ↔ s.busmonitor ≠ []) ∧
    (s.mode = 1 → s.broadcast = [] ∧ s.group = [] ∧ s.individual = []) ∧
    modeAfter Layer2Call.mode .closed s.calls =
      some (if s.mode = 0 then .open else .busmonitor) ∧
    Alternates isOpen isClose s.calls = true ∧ Alternates enters isLeave s.calls = true ∧
    ∀ src, (s.individual.filter fun i => i.src = src ∧ i.lock = .connection).length ≤ 1

theorem modesKept_after [DecidableEq α] [DecidableEq β] (ops : List (Layer3Op α β)) :
    ModesKept isEntered (after ops) := by
  have h := Invariant.after ops
  have hmode : (after ops).mode = 1 ↔ (after ops).busmonitor ≠ [] := by
    rw [h.mode]
    split <;> simp [*]
  have hzero : (after ops).mode = 0 ↔ (after ops).busmonitor = [] := by
    rw [h.mode]
    split <;> simp [*]
  refine ⟨hmode, fun hone => h.exclusive (hmode.mp hone), ?_, alternates_open h.layer2,
    alternates_entered h.layer2, h.locks⟩
  simp only [hzero]
  exact h.layer2

/-- Layer 2 refuses the busmonitor twice, and is asked twice with no `leaveBusmonitor` between. -/
theorem not_modesKept_enter :
    ¬ ∀ ops : List (Layer3Op Nat Nat), ModesKept isEnter (after ops) := by
  intro h
  obtain ⟨-, -, -, -, henter, -⟩ := h [.registerBusmonitor 0 false, .registerBusmonitor 0 false]
  exact absurd henter (by decide)

end Layer3State

end BcuSdk.Eibd
