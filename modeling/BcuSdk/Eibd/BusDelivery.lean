/-
  BcuSdk.Eibd.BusDelivery

  The eibds on a bus are an exchange of letters: nobody who sees only what
  the clients get, and which eibd comes down, can tell `BusNetwork` from
  `Exchange`.

  Four things carry the proof: the driver has its own address and those that
  somebody listens to (`Ready`), so that it refuses its own address only, which
  callbacks are registered is known from the mailboxes (`Realizes.entry`), no
  callback is registered twice, so that nobody gets a letter twice, and a frame
  that has just been heard is known to Layer 3, so that its repetitions are
  discarded.
-/
import BcuSdk.Eibd.Exchange
import BcuSdk.Eibd.Layer3RegisterSafety
import BcuSdk.Eibd.Layer3Repeat
import BcuSdk.Lib.CheckByte
import Mathlib.Data.List.ModifyLast

namespace BcuSdk.Eibd

open BcuSdk.Lib

/-! ## The addresses of the driver -/

section Addresses

open TPUARTSerialLayer2Driver (addTo)

theorem addTo_of_mem {addrs : List EibAddr} {addr : EibAddr} (h : addr ∈ addrs) :
    addTo addrs addr = (false, addrs) := if_pos h

theorem addTo_of_not_mem {addrs : List EibAddr} {addr : EibAddr} (h : addr ∉ addrs) :
    addTo addrs addr = (true, addrs ++ [addr]) := if_neg h

theorem coe_addTo_of_not_mem {addrs : List EibAddr} {addr : EibAddr} (h : addr ∉ addrs) :
    ((addTo addrs addr).2 : Multiset EibAddr) = addr ::ₘ (addrs : Multiset EibAddr) := by
  rw [addTo_of_not_mem h]
  exact Multiset.coe_eq_coe.mpr (List.perm_append_singleton addr addrs)

theorem AckTable.after_call (own : EibAddr) (calls : List Layer2Call) (c : Layer2Call) :
    after own (calls ++ [c]) = (after own calls).onCall c := List.foldl_concat ..

end Addresses

namespace Layer3State

/-- Layer 3 outside the busmonitor mode, and the driver has its own address and those that somebody
    listens to, each once. -/
structure Ready (own : EibAddr) (l3 : Callbacks) : Prop where
  normal : l3.mode = 0
  group : ((AckTable.after own l3.calls).groupaddr : Multiset EibAddr) =
    (used GroupInfo.dest 0 l3.group).val
  individual : ((AckTable.after own l3.calls).indaddr : Multiset EibAddr) =
    own ::ₘ (used IndividualInfo.dest 0 l3.individual).val
  /-- Nobody listens to the address of the station itself but by the name 0. -/
  own : own ∉ used IndividualInfo.dest 0 l3.individual

namespace Ready

variable {own : EibAddr} {l3 : Callbacks}

theorem init (own : EibAddr) : Ready own init where
  normal := rfl
  group := rfl
  individual := rfl
  own := Finset.notMem_empty own

theorem mode_ne (h : l3.Ready own) : l3.mode ≠ 1 := by
  rw [h.normal]
  decide

/-- Other group listeners, and calls that do for their addresses what has to be done. -/
theorem groups (h : l3.Ready own) (group : List (GroupInfo Nat)) (calls : List Layer2Call)
    (hgroup : ((AckTable.after own calls).groupaddr : Multiset EibAddr) =
      (used GroupInfo.dest 0 group).val)
    (hindividual : (AckTable.after own calls).indaddr = (AckTable.after own l3.calls).indaddr) :
    Ready own { l3 with group, calls } where
  normal := h.normal
  group := hgroup
  individual := (congrArg _ hindividual).trans h.individual
  own := h.own

/-- Other individual listeners, none of them to the address of the station. -/
theorem individuals (h : l3.Ready own) (individual : List (IndividualInfo Nat))
    (calls : List Layer2Call)
    (hgroup : (AckTable.after own calls).groupaddr = (AckTable.after own l3.calls).groupaddr)
    (hindividual : ((AckTable.after own calls).indaddr : Multiset EibAddr) =
      own ::ₘ (used IndividualInfo.dest 0 individual).val)
    (hown : own ∉ used IndividualInfo.dest 0 individual) :
    Ready own { l3 with individual, calls } where
  normal := h.normal
  group := (congrArg _ hgroup).trans h.group
  individual := hindividual
  own := hown

theorem mem_groupaddr (h : l3.Ready own) {addr : EibAddr} :
    addr ∈ (AckTable.after own l3.calls).groupaddr ↔ addr ≠ 0 ∧ ∃ g ∈ l3.group, g.dest = addr := by
  rw [← Multiset.mem_coe, h.group, Finset.mem_val, mem_used]

theorem mem_indaddr (h : l3.Ready own) {addr : EibAddr} :
    addr ∈ (AckTable.after own l3.calls).indaddr ↔
      addr = own ∨ addr ≠ 0 ∧ ∃ i ∈ l3.individual, i.dest = addr := by
  rw [← Multiset.mem_coe, h.individual, Multiset.mem_cons, Finset.mem_val, mem_used]

end Ready

end Layer3State

/-! ## What is registered -/

/-- What a callback is registered for. -/
inductive Subscription where
  | broadcast
  | group (dest : EibAddr)
  | individual (src dest : EibAddr)
  deriving DecidableEq, Repr

/-- The letters that a callback gets to see. -/
def Subscription.hears (u : Subscription) (t : Letter) : Bool :=
  match u with
  | .broadcast => t.addrType = .groupAddress ∧ t.dest = 0
  | .group dest => t.addrType = .groupAddress ∧ t.dest ≠ 0 ∧ (dest = t.dest ∨ dest = 0)
  | .individual src dest =>
      t.addrType = .individualAddress ∧ dest = t.dest ∧ (src = t.src ∨ src = 0)

def Handler.subscription : Handler → Subscription
  | .broadcast => .broadcast
  | .group groupaddr => .group groupaddr
  | .tpdu src => .individual 0 src
  | .individual dest => .individual dest 0
  | .groupSocket => .group 0

namespace Layer3State

/-- All callbacks of a kind of registration. -/
def entries (l3 : Callbacks) : List (Nat × Subscription) :=
  l3.broadcast.map (·, .broadcast) ++ l3.group.map (fun g => (g.cb, .group g.dest)) ++
    l3.individual.map fun i => (i.cb, .individual i.src i.dest)

variable (l3 : Callbacks) {cb : Nat}

/-! ### Registration -/

/-- Two states that differ in one broadcast callback. -/
theorem entries_broadcast {broadcast : List Nat} (h : (cb :: broadcast).Perm l3.broadcast) :
    ((cb, .broadcast) :: { l3 with broadcast }.entries).Perm l3.entries :=
  ((h.map (·, Subscription.broadcast)).append_right _).append_right _

/-- Two states that differ in one group callback. -/
theorem entries_group {g : GroupInfo Nat} {group : List (GroupInfo Nat)}
    (h : (g :: group).Perm l3.group) :
    ((g.cb, .group g.dest) :: { l3 with group }.entries).Perm l3.entries := by
  have hgroup := (h.map fun g => (g.cb, Subscription.group g.dest)).append_left
    (l3.broadcast.map (·, .broadcast))
  refine .trans ?_ (hgroup.append_right _)
  exact (List.perm_middle.symm).append_right _

/-- Two states that differ in one individual callback. -/
theorem entries_individual {i : IndividualInfo Nat} {individual : List (IndividualInfo Nat)}
    (h : (i :: individual).Perm l3.individual) :
    ((i.cb, .individual i.src i.dest) :: { l3 with individual }.entries).Perm l3.entries := by
  refine .trans List.perm_middle.symm ?_
  exact (h.map fun i => (i.cb, Subscription.individual i.src i.dest)).append_left _

variable {l3}

/-- A listener to a group address is registered. -/
theorem Ready.registerGroupCallBack {own : EibAddr} (h : l3.Ready own) (cb : Nat) (addr : EibAddr) :
    ∃ l3', l3.registerGroupCallBack cb addr
        ((AckTable.after own l3.calls).takesGroupAddress addr) = (true, l3') ∧
      l3'.Ready own ∧ l3'.entries.Perm ((cb, .group addr) :: l3.entries) := by
  have hentries := (entries_group { l3 with group := l3.group ++ [⟨cb, addr⟩] }
    (List.perm_append_singleton _ _).symm).symm
  rw [Layer3State.registerGroupCallBack, if_neg h.mode_ne]
  dsimp only
  split
  · -- nobody listens to it yet, so the driver does not have it
    next hasked =>
    have hnew : ∀ g ∈ l3.group, g.dest ≠ addr := by simpa using hasked.1
    have hfree : addr ∉ (AckTable.after own l3.calls).groupaddr := by
      rw [h.mem_groupaddr]
      rintro ⟨-, g, hg, haddr⟩
      exact hnew g hg haddr
    rw [AckTable.takesGroupAddress, addTo_of_not_mem hfree, if_pos rfl]
    have hready := h.groups (l3.group ++ [⟨cb, addr⟩]) (l3.calls ++ [.addGroupAddress addr true])
    refine ⟨_, rfl, hready ?_ ?_, hentries⟩
    · rw [AckTable.after_call, used_append_singleton, used_cons_of_new hasked.2 hnew, ← h.group]
      exact coe_addTo_of_not_mem hfree
    · rw [AckTable.after_call]
      rfl
  · next hasked =>
    have hready := h.groups (l3.group ++ [⟨cb, addr⟩]) l3.calls
    refine ⟨_, rfl, hready ?_ rfl, hentries⟩
    rw [used_append_singleton, used_cons_of_mem (not_asked hasked)]
    exact h.group

/-- Nobody holds a lock for a connection. -/
theorem not_locked (src : EibAddr) : ¬ (l3.individual.any fun i =>
    IndividualLock.none = .connection ∧ i.src = src ∧ i.lock = .connection) := by
  simp

/-- A listener to an individual address is registered, if it is not that of the station. -/
theorem Ready.registerIndividualCallBack {own : EibAddr} (h : l3.Ready own) (cb : Nat)
    (src : EibAddr) {dest : EibAddr} (hdest : dest = 0 ∨ dest ≠ own) :
    ∃ l3', l3.registerIndividualCallBack cb .none src dest
        ((AckTable.after own l3.calls).takesAddress dest) = (true, l3') ∧
      l3'.Ready own ∧ l3'.entries.Perm ((cb, .individual src dest) :: l3.entries) := by
  have hentries := (entries_individual
    { l3 with individual := l3.individual ++ [⟨cb, src, dest, .none⟩] }
    (List.perm_append_singleton _ _).symm).symm
  rw [Layer3State.registerIndividualCallBack, if_neg h.mode_ne, if_neg (not_locked src)]
  dsimp only
  split
  · next hasked =>
    have hnew : ∀ i ∈ l3.individual, i.dest ≠ dest := by simpa using hasked.1
    have hother : dest ≠ own := hdest.resolve_left hasked.2
    have hfree : dest ∉ (AckTable.after own l3.calls).indaddr := by
      rw [h.mem_indaddr]
      rintro (hown | ⟨-, i, hi, haddr⟩)
      · exact hother hown
      · exact hnew i hi haddr
    have hused : (used IndividualInfo.dest 0 (l3.individual ++ [⟨cb, src, dest, .none⟩])).val =
        dest ::ₘ (used IndividualInfo.dest 0 l3.individual).val := by
      rw [used_append_singleton]
      exact used_cons_of_new hasked.2 hnew
    rw [AckTable.takesAddress, addTo_of_not_mem hfree, if_pos rfl]
    have hready := h.individuals (l3.individual ++ [⟨cb, src, dest, .none⟩])
      (l3.calls ++ [.addAddress dest true])
    refine ⟨_, rfl, hready ?_ ?_ ?_, hentries⟩
    · rw [AckTable.after_call]
      rfl
    · rw [AckTable.after_call, hused, Multiset.cons_swap, ← h.individual]
      exact coe_addTo_of_not_mem hfree
    · rw [← Finset.mem_val, hused, Multiset.mem_cons, not_or]
      exact ⟨hother.symm, h.own⟩
  · next hasked =>
    have hused : used IndividualInfo.dest 0 (l3.individual ++ [⟨cb, src, dest, .none⟩]) =
        used IndividualInfo.dest 0 l3.individual := by
      rw [used_append_singleton]
      exact used_cons_of_mem (not_asked hasked)
    have hready := h.individuals (l3.individual ++ [⟨cb, src, dest, .none⟩]) l3.calls rfl
    refine ⟨_, rfl, hready ?_ ?_, hentries⟩
    · rw [hused]
      exact h.individual
    · rw [hused]
      exact h.own

/-- The driver has the address of the station, so that a listener to it is refused. -/
theorem Ready.refuses_own {own : EibAddr} (h : l3.Ready own) (cb : Nat) (src : EibAddr)
    (hown : own ≠ 0) :
    ∃ l3', l3.registerIndividualCallBack cb .none src own
        ((AckTable.after own l3.calls).takesAddress own) = (false, l3') ∧
      l3'.Ready own ∧ l3'.entries = l3.entries := by
  have hmem : own ∈ (AckTable.after own l3.calls).indaddr := h.mem_indaddr.mpr (.inl rfl)
  have hasked : (!l3.individual.any (·.dest = own)) = true ∧ own ≠ 0 := by
    have hnone : ∀ i ∈ l3.individual, i.dest ≠ own := fun i hi hdest =>
      h.own (mem_used.mpr ⟨hown, i, hi, hdest⟩)
    refine ⟨?_, hown⟩
    simpa using hnone
  rw [Layer3State.registerIndividualCallBack, if_neg h.mode_ne, if_neg (not_locked src)]
  dsimp only
  rw [if_pos hasked, AckTable.takesAddress, addTo_of_mem hmem, if_neg Bool.false_ne_true]
  have hready := h.individuals l3.individual (l3.calls ++ [.addAddress own false])
  refine ⟨_, rfl, hready ?_ ?_ h.own, rfl⟩
  · rw [AckTable.after_call]
    rfl
  · rw [AckTable.after_call, AckTable.onCall]
    dsimp only
    rw [addTo_of_mem hmem]
    exact h.individual

/-- The constructors register what the client has asked for, if it is allowed. -/
theorem entries_register {own : EibAddr} (h : Handler) (hready : l3.Ready own) (cb : Nat)
    (writeOnly : Bool) :
    ∃ l3', h.register l3 (.after own l3.calls) cb writeOnly = (h.allowed own, l3') ∧
      l3'.Ready own ∧
      l3'.entries.Perm
        ((if h.allowed own && h.listens writeOnly then [(cb, h.subscription)] else []) ++
          l3.entries) := by
  have hsilent : ∃ l3', ((true, l3) : Bool × Callbacks) = (true, l3') ∧ l3'.Ready own ∧
      l3'.entries.Perm l3.entries := ⟨l3, rfl, hready, .refl _⟩
  cases h with
  | tpdu src =>
      by_cases hsrc : src = 0 ∨ src ≠ own
      · have hallowed : (Handler.tpdu src).allowed own = true := by
          simpa [Handler.allowed] using hsrc
        rw [hallowed]
        exact hready.registerIndividualCallBack cb 0 hsrc
      · obtain ⟨hzero, rfl⟩ : src ≠ 0 ∧ src = own := by simpa using hsrc
        have hrefused : (Handler.tpdu src).allowed src = false := by
          simpa [Handler.allowed] using hzero
        obtain ⟨l3', hregister, hready', hentries⟩ := hready.refuses_own cb 0 hzero
        rw [hrefused]
        exact ⟨l3', hregister, hready', .of_eq hentries⟩
  | broadcast =>
      cases writeOnly with
      | true => exact hsilent
      | false =>
          rw [Handler.register, if_neg Bool.false_ne_true, registerBroadcastCallBack,
            if_neg hready.mode_ne]
          exact ⟨_, rfl, { hready with }, (entries_broadcast
            { l3 with broadcast := l3.broadcast ++ [cb] }
            (List.perm_append_singleton _ _).symm).symm⟩
  | group groupaddr =>
      rw [Handler.register]
      by_cases hzero : groupaddr = 0
      · subst hzero
        exact ⟨l3, rfl, hready, .refl _⟩
      · have hallowed : (Handler.group groupaddr).allowed own = true := by
          simpa [Handler.allowed] using hzero
        rw [if_neg hzero, hallowed]
        cases writeOnly with
        | true => exact hsilent
        | false => exact hready.registerGroupCallBack cb groupaddr
  | individual dest =>
      cases writeOnly with
      | true => exact hsilent
      | false => exact hready.registerIndividualCallBack cb dest (.inl rfl)
  | groupSocket =>
      cases writeOnly with
      | true => exact hsilent
      | false => exact hready.registerGroupCallBack cb 0

/-- What a destructor does to the registrations: that of the object goes, if it has one. -/
def Removes (cb : Nat) (u : Subscription) (l3 l3' : Callbacks) : Prop :=
  ((cb, u) ∉ l3.entries ∧ l3'.entries = l3.entries) ∨ ((cb, u) :: l3'.entries).Perm l3.entries

theorem removes_broadcast (l3 : Callbacks) (cb : Nat) :
    Removes cb .broadcast l3 (l3.deregisterBroadcastCallBack cb).2 := by
  rw [deregisterBroadcastCallBack]
  cases hfirst : removeFirst (· = cb) l3.broadcast with
  | none =>
      refine .inl ⟨fun hmem => ?_, rfl⟩
      have hnone := removeFirst_eq_none hfirst cb (by simpa [entries] using hmem)
      simp at hnone
  | some broadcast =>
      obtain ⟨c, hc, hperm⟩ := removeFirst_eq_some hfirst
      obtain rfl : c = cb := by simpa using hc
      exact .inr (entries_broadcast _ hperm)

theorem removes_group (l3 : Callbacks) (cb : Nat) (addr : EibAddr) :
    Removes cb (.group addr) l3 (l3.deregisterGroupCallBack cb addr).2 := by
  rw [deregisterGroupCallBack]
  cases hfirst : removeFirst (fun g => g.cb = cb ∧ g.dest = addr) l3.group with
  | none =>
      refine .inl ⟨fun hmem => ?_, rfl⟩
      obtain ⟨g, hg, hcb, haddr⟩ : ∃ g ∈ l3.group, g.cb = cb ∧ g.dest = addr := by
        simpa [entries] using hmem
      have hnone := removeFirst_eq_none hfirst g hg
      simp [hcb, haddr] at hnone
  | some group =>
      obtain ⟨g, hg, hperm⟩ := removeFirst_eq_some hfirst
      obtain ⟨rfl, rfl⟩ : g.cb = cb ∧ g.dest = addr := by simpa using hg
      have hremoved := entries_group _ hperm
      dsimp only
      split
      · exact .inr hremoved
      · split
        · exact .inr hremoved
        · exact .inr hremoved

theorem removes_individual (l3 : Callbacks) (cb : Nat) (src dest : EibAddr) :
    Removes cb (.individual src dest) l3 (l3.deregisterIndividualCallBack cb src dest).2 := by
  rw [deregisterIndividualCallBack]
  cases hfirst : removeFirst (fun i => i.cb = cb ∧ i.src = src ∧ i.dest = dest)
      l3.individual with
  | none =>
      refine .inl ⟨fun hmem => ?_, rfl⟩
      obtain ⟨i, hi, hcb, hsrc, hdest⟩ :
          ∃ i ∈ l3.individual, i.cb = cb ∧ i.src = src ∧ i.dest = dest := by
        simpa [entries] using hmem
      have hnone := removeFirst_eq_none hfirst i hi
      simp [hcb, hsrc, hdest] at hnone
  | some individual =>
      obtain ⟨i, hi, hperm⟩ := removeFirst_eq_some hfirst
      obtain ⟨rfl, rfl, rfl⟩ : i.cb = cb ∧ i.src = src ∧ i.dest = dest := by simpa using hi
      have hremoved := entries_individual _ hperm
      dsimp only
      split
      · exact .inr hremoved
      · split
        · exact .inr hremoved
        · exact .inr hremoved

theorem removes_deregister (h : Handler) (l3 : Callbacks) (cb : Nat) :
    Removes cb h.subscription l3 (h.deregister l3 cb) := by
  cases h with
  | broadcast => exact removes_broadcast l3 cb
  | group groupaddr => exact removes_group l3 cb groupaddr
  | tpdu src => exact removes_individual l3 cb 0 src
  | individual dest => exact removes_individual l3 cb dest 0
  | groupSocket => exact removes_group l3 cb 0

/-- A group listener goes, and with the last one for its address the driver loses it. -/
theorem Ready.deregisterGroupCallBack {own : EibAddr} (h : l3.Ready own) (cb : Nat)
    (addr : EibAddr) : (l3.deregisterGroupCallBack cb addr).2.Ready own := by
  obtain hr | ⟨g, group, rfl, hperm, hout⟩ :=
    deregisterGroupCallBack_cases (rfl : l3.deregisterGroupCallBack cb addr = _)
  · rw [hr]
    exact h
  have hgroup := h.group
  rw [← used_perm hperm] at hgroup
  obtain ⟨hold, hr⟩ | ⟨haddr, hnew, hr⟩ := hout
  · rw [hr]
    rw [used_cons_of_mem hold] at hgroup
    exact h.groups group l3.calls hgroup rfl
  · rw [hr]
    rw [used_cons_of_new haddr hnew] at hgroup
    refine h.groups group (l3.calls ++ [.removeGroupAddress g.dest]) ?_ ?_
    · rw [AckTable.after_call, AckTable.onCall, ← Multiset.coe_erase, hgroup,
        Multiset.erase_cons_head]
    · rw [AckTable.after_call]
      rfl

/-- An individual listener goes; it has not been one to the address of the station. -/
theorem Ready.deregisterIndividualCallBack {own : EibAddr} (h : l3.Ready own) (cb : Nat)
    (src dest : EibAddr) : (l3.deregisterIndividualCallBack cb src dest).2.Ready own := by
  obtain hr | ⟨i, individual, rfl, hperm, hout⟩ :=
    deregisterIndividualCallBack_cases (rfl : l3.deregisterIndividualCallBack cb src dest = _)
  · rw [hr]
    exact h
  have hindividual := h.individual
  have hown := h.own
  rw [← used_perm hperm] at hindividual hown
  obtain ⟨hold, hr⟩ | ⟨haddr, hnew, hr⟩ := hout
  · rw [hr]
    rw [used_cons_of_mem hold] at hindividual hown
    exact h.individuals individual l3.calls rfl hindividual hown
  · rw [hr]
    rw [← Finset.mem_val, used_cons_of_new haddr hnew, Multiset.mem_cons, not_or] at hown
    rw [used_cons_of_new haddr hnew, Multiset.cons_swap] at hindividual
    refine h.individuals individual (l3.calls ++ [.removeAddress i.dest]) ?_ ?_ hown.2
    · rw [AckTable.after_call]
      rfl
    · rw [AckTable.after_call, AckTable.onCall, ← Multiset.coe_erase, hindividual,
        Multiset.erase_cons_head]

theorem Ready.deregister {own : EibAddr} (h : l3.Ready own) (k : Handler) (cb : Nat) :
    (k.deregister l3 cb).Ready own := by
  cases k with
  | broadcast =>
      rw [Handler.deregister, deregisterBroadcastCallBack]
      split
      · exact h
      · exact { h with }
  | group groupaddr => exact h.deregisterGroupCallBack cb groupaddr
  | tpdu src => exact h.deregisterIndividualCallBack cb 0 src
  | individual dest => exact h.deregisterIndividualCallBack cb dest 0
  | groupSocket => exact h.deregisterGroupCallBack cb 0

end Layer3State

/-! ### Who is called -/

/-- The callbacks that a frame goes to are those that hear its letter. -/
theorem Station.recipients_eq (s : Station) (l : LDataPDU) :
    s.recipients l = (s.layer3.entries.filter (·.2.hears l.letter)).map (·.1) := by
  rw [recipients, Layer3State.entries]
  cases htype : l.addrType with
  | groupAddress =>
      by_cases hdest : l.dest = 0#16
      · simp [List.filter_map, Function.comp_def, Subscription.hears, LDataPDU.letter, htype, hdest]
      · simp [List.filter_map, Function.comp_def, Subscription.hears, LDataPDU.letter, htype, hdest]
  | individualAddress =>
      simp [List.filter_map, Function.comp_def, Subscription.hears, LDataPDU.letter, htype]

theorem Station.mem_recipients {s : Station} {l : LDataPDU} {cb : Nat} :
    cb ∈ s.recipients l ↔ ∃ u, (cb, u) ∈ s.layer3.entries ∧ u.hears l.letter = true := by
  rw [recipients_eq]
  simp

theorem Station.nodup_recipients {s : Station} (h : (s.layer3.entries.map (·.1)).Nodup)
    (l : LDataPDU) : (s.recipients l).Nodup := by
  rw [recipients_eq]
  exact h.sublist (List.filter_sublist.map _)

/-- Only a client for TPDUs gets all classes of them. -/
def Handler.anyClass : Handler → Bool
  | .tpdu _ => true
  | _ => false

/-- A client wants what its callback hears, but for other classes of TPDUs. -/
theorem Handler.wants_eq {h : Handler} (hvalid : h ≠ .group 0) (t : Letter) :
    h.wants t = (h.subscription.hears t && (h.anyClass || t.isData)) := by
  have hzero : ∀ groupaddr, h = .group groupaddr → groupaddr ≠ 0 := by
    rintro _ rfl rfl
    exact hvalid rfl
  rw [Bool.eq_iff_iff]
  cases h <;> simp [wants, subscription, Subscription.hears, anyClass] <;> grind

/-! ## Frames -/

/-- A frame on the bus. -/
def LDataPDU.frame (l : LDataPDU) : CArray := l.body ++ [~~~(xorBytes l.body)]

theorem LDataPDU.toPacket_frame {l : LDataPDU} (h : l.Encodable) : l.toPacket = .ok l.frame :=
  toPacket_eq_ok.mpr ⟨h, rfl⟩

theorem LDataPDU.asRepetition_encodable {l : LDataPDU} (h : l.Encodable) :
    l.asRepetition.Encodable := ⟨h.nonempty, h.fits, h.hops⟩

theorem repeatFlag_xor (fmt : Byte) (p : EIBPriority) (hfmt : fmt = 0x90#8 ∨ fmt = 0x10#8) :
    fmt ||| (p.code <<< 2) ||| repeatFlag true =
      (fmt ||| (p.code <<< 2) ||| repeatFlag false) ^^^ 0x20#8 := by
  rcases hfmt with rfl | rfl <;> cases p <;> decide

/-- The control byte is all that tells a repetition from the frame. -/
theorem LDataPDU.body_asRepetition {l : LDataPDU} (h : l.repeated = false) :
    ∃ c0 rest, l.body = c0 :: rest ∧ l.asRepetition.body = (c0 ^^^ 0x20#8) :: rest := by
  by_cases hshort : l.data.length - 1 ≤ 0x0f
  · refine ⟨_, _, by rw [body, if_pos hshort, standardBody]; rfl, ?_⟩
    rw [h, ← repeatFlag_xor 0x90#8 l.prio (.inl rfl), body, show l.asRepetition.data = l.data from rfl,
      if_pos hshort, standardBody]
    rfl
  · refine ⟨_, _, by rw [body, if_neg hshort, extendedBody]; rfl, ?_⟩
    rw [h, ← repeatFlag_xor 0x10#8 l.prio (.inr rfl), body, show l.asRepetition.data = l.data from rfl,
      if_neg hshort, extendedBody]
    rfl

theorem LDataPDU.repetition_frame {l : LDataPDU} (h : l.repeated = false) :
    repetition l.frame = l.asRepetition.frame := by
  obtain ⟨c0, rest, hbody, hagain⟩ := l.body_asRepetition h
  have hcheck : ~~~(xorBytes (c0 :: rest)) ^^^ 0x20#8 = ~~~(xorBytes ((c0 ^^^ 0x20#8) :: rest)) := by
    rw [xorBytes_cons, xorBytes_cons, ← BitVec.not_xor_left, BitVec.xor_assoc, BitVec.xor_assoc,
      BitVec.xor_comm 0x20#8]
  rw [frame, frame, hbody, hagain, List.cons_append, repetition, List.modifyLast_concat, hcheck,
    List.cons_append]

/-- A frame of bytes and the letter in it. -/
def CarriesLetter (c : CArray) (t : Letter) : Prop :=
  ∃ l : LDataPDU, l.Encodable ∧ l.repeated = false ∧ c = l.frame ∧ t = l.letter

/-- The first byte alone says whether a TPDU is connectionless data. -/
theorem TPDU.fromPacket_of_isData {t : Letter} (h : t.isData = true) :
    fromPacket t.data = .tDataXXXReq t.data := by
  rw [Letter.isData] at h
  cases hdata : t.data with
  | nil => simp [hdata] at h
  | cons c0 rest =>
      have hc0 : c0 &&& 0xfc#8 = 0#8 := by simpa [hdata] using h
      have hclass := classOf_dataXXX c0
      rw [and_03_of_and_fc hc0] at hclass
      simp [fromPacket, known, hclass, tDataXXXReqInit]

theorem TPDU.isData_of_fromPacket {t : Letter} {data : CArray}
    (h : fromPacket t.data = .tDataXXXReq data) : t.isData = true := by
  have hback := toPacket_fromPacket t.data
  rw [h] at hback
  obtain ⟨_, hpos, hback⟩ := Checked.bind_eq_ok.mp hback
  cases data with
  | nil => cases hpos
  | cons d rest =>
      have hdata : t.data = (d &&& 0x03#8) :: rest := (Except.ok.inj hback).symm
      have hmask : (d &&& 0x03#8) &&& 0xfc#8 = 0#8 := by
        rw [BitVec.and_assoc]
        exact BitVec.and_zero
      simp [Letter.isData, hdata, hmask]

/-! ## Reception -/

namespace Station

/-- What a frame makes of a station that gets it for the first time. -/
structure Heard (s s' : Station) (l : LDataPDU) : Prop where
  layer3 : s'.layer3 = s.layer3
  next : s'.next = s.next
  own : s'.defaultAddr = s.defaultAddr
  line : s'.line = s.line
  transports : ∃ l', l'.letter = l.letter.arrive s.defaultAddr ∧ ∀ cb, s'.transports cb =
    if cb ∈ s.recipients l' then (s.transports cb).map (·.getLData l') else s.transports cb
  known : ∃ i ∈ s'.ignore, i.data = l.received.asRepetition.frame

theorem foldl_callBack (l : LDataPDU) {ids : List Nat} (hids : ids.Nodup) (s : Station) :
    ids.foldl (callBack l) s = { s with transports := fun cb =>
      if cb ∈ ids then (s.transports cb).map (·.getLData l) else s.transports cb } := by
  induction ids generalizing s with
  | nil => simp
  | cons id ids ih =>
      obtain ⟨hid, hids⟩ := List.nodup_cons.mp hids
      rw [List.foldl_cons, ih hids]
      simp only [callBack]
      congr 1
      funext cb
      by_cases hcb : cb = id
      · subst hcb
        simp [hid]
      · simp [hcb]

/-- The frame as `Layer3::Run` passes it on. -/
def arrived (s : Station) (l : LDataPDU) : LDataPDU :=
  let l := { l with repeated := false }
  if l.addrType = .individualAddress ∧ l.dest = s.defaultAddr then { l with dest := 0 } else l

theorem letter_arrived (s : Station) (l : LDataPDU) :
    (s.arrived l).letter = l.letter.arrive s.defaultAddr := by
  rw [arrived, Letter.arrive]
  split
  · next h => exact (if_pos h).symm
  · next h => exact (if_neg h).symm

theorem arrived_encodable (s : Station) {l : LDataPDU} (h : l.Encodable) :
    (s.arrived l).Encodable := by
  rw [arrived]
  split
  · exact ⟨h.nonempty, h.fits, h.hops⟩
  · exact ⟨h.nonempty, h.fits, h.hops⟩

/-- `Layer3::Run` takes a frame that is no repetition. -/
theorem onLData_first {s : Station} {l : LDataPDU} (henc : l.Encodable)
    (hfirst : l.repeated = false) :
    s.onLData l = .ok (((s.recipients (s.arrived l)).foldl (callBack (s.arrived l))
      { s with ignore := s.ignore ++ [⟨l.asRepetition.frame, s.now + 1000000⟩] }).expire) := by
  have hseen := LDataPDU.toPacket_frame (LDataPDU.asRepetition_encodable henc)
  have hdeliver : s.deliver l = .ok ((s.recipients (s.arrived l)).foldl (callBack (s.arrived l))
      { s with ignore := s.ignore ++ [⟨l.asRepetition.frame, s.now + 1000000⟩] }) := by
    rw [deliver]
    show (l.asRepetition.toPacket >>= _) = _
    rw [hseen, Checked.ok_bind]
    show (tracePrintf s.showPrint (s.arrived l).decode >>= _) = _
    rw [tracePrintf_decode (s.arrived_encodable henc), Checked.ok_bind]
    rfl
  rw [onLData, hfirst, if_neg Bool.false_ne_true, hdeliver]
  rfl

theorem recv_first {s : Station} (hids : (s.layer3.entries.map (·.1)).Nodup) {l : LDataPDU}
    (henc : l.Encodable) (hfirst : l.repeated = false) :
    ∃ s', s.recv l.frame = .ok s' ∧ s.Heard s' l := by
  have hfrom : LPDU.fromPacket l.frame = .ok (.lData l.received) := LPDU.fromPacket_body henc
  have hreceived : l.received.Encodable := ⟨henc.nonempty, henc.fits, henc.hops⟩
  rw [recv, hfrom, Checked.ok_bind]
  dsimp only
  rw [if_pos ⟨rfl, rfl⟩, onLData_first hreceived hfirst,
    foldl_callBack _ (nodup_recipients hids _)]
  refine ⟨_, rfl, rfl, rfl, rfl, rfl, ⟨s.arrived l.received, s.letter_arrived _, fun cb => rfl⟩, ?_⟩
  refine ⟨⟨l.received.asRepetition.frame, s.now + 1000000⟩, ?_, rfl⟩
  simp [expire]

/-- A repetition of it is discarded. -/
theorem recv_repetition {s : Station} {l : LDataPDU} (henc : l.Encodable)
    (hfirst : l.repeated = false)
    (hknown : ∃ i ∈ s.ignore, i.data = l.received.asRepetition.frame) :
    s.recv (repetition l.frame) = .ok s := by
  have hagain := LDataPDU.asRepetition_encodable henc
  have hfrom : LPDU.fromPacket l.asRepetition.frame = .ok (.lData l.asRepetition.received) :=
    LPDU.fromPacket_body hagain
  have hpacket : l.asRepetition.received.toPacket = .ok l.received.asRepetition.frame :=
    LDataPDU.toPacket_frame ⟨henc.nonempty, henc.fits, henc.hops⟩
  have hany : s.ignore.any (·.data = l.received.asRepetition.frame) = true := by
    simpa using hknown
  rw [LDataPDU.repetition_frame hfirst, recv, hfrom, Checked.ok_bind]
  dsimp only
  rw [if_pos ⟨rfl, rfl⟩, onLData,
    if_pos (show l.asRepetition.received.repeated = true from rfl), hpacket, Checked.ok_bind,
    if_pos hany]
  rfl

theorem recvAgain_repetition {s : Station} {l : LDataPDU} (henc : l.Encodable)
    (hfirst : l.repeated = false)
    (hknown : ∃ i ∈ s.ignore, i.data = l.received.asRepetition.frame) (n : Nat) :
    s.recvAgain (repetition l.frame) n = .ok s := by
  induction n with
  | zero => rfl
  | succ n ih => rw [recvAgain, recv_repetition henc hfirst hknown, Checked.ok_bind, ih]

end Station

/-! ## Stations and post offices -/

/-- The transport of a mailbox. -/
def Mailbox.transport (b : Mailbox) : Transport := ⟨b.handler, b.mail⟩

/-- The station behind a post office. -/
structure Station.Realizes (s : Station) (p : PostOffice) : Prop where
  own : s.defaultAddr = p.own
  next : s.next = p.next
  ready : s.layer3.Ready p.own
  nodup : (s.layer3.entries.map (·.1)).Nodup
  entry : ∀ cb u, (cb, u) ∈ s.layer3.entries ↔
    ∃ b, p.boxes cb = some b ∧ b.listens = true ∧ b.handler.subscription = u
  fresh : ∀ cb, p.next ≤ cb → p.boxes cb = none
  valid : ∀ cb b, p.boxes cb = some b → b.handler ≠ .group 0
  transports : ∀ cb, s.transports cb = (p.boxes cb).map Mailbox.transport
  line : List.Forall₂ CarriesLetter s.line p.line

/-- What a callback without a class of its own drops is not connectionless data. -/
theorem Transport.getLData_of_not_isData {t : Transport} {l : LDataPDU}
    (hclass : t.handler.anyClass = false) (hdata : l.letter.isData = false) :
    t.getLData l = t := by
  have hother : ∀ data, TPDU.fromPacket l.data ≠ .tDataXXXReq data := by
    intro data hfrom
    rw [TPDU.isData_of_fromPacket (t := l.letter) hfrom] at hdata
    exact Bool.noConfusion hdata
  rw [getLData]
  split
  · next src hhandler =>
      rw [hhandler] at hclass
      exact Bool.noConfusion hclass
  · split
    · next data hfrom => exact absurd hfrom (hother data)
    · rfl

theorem Transport.getLData_eq (t : Transport) (l : LDataPDU) :
    t.getLData l = if t.handler.anyClass || l.letter.isData then
      { t with outqueue := t.outqueue ++ [l.letter.comm] } else t := by
  cases hdata : l.letter.isData with
  | true =>
      have hfrom : TPDU.fromPacket l.data = .tDataXXXReq l.data := TPDU.fromPacket_of_isData hdata
      obtain ⟨handler, outqueue⟩ := t
      rw [getLData, hfrom, Bool.or_true, if_pos rfl]
      cases handler <;> rfl
  | false =>
      rw [Bool.or_false]
      cases hclass : t.handler.anyClass with
      | false => exact getLData_of_not_isData hclass hdata
      | true =>
          obtain ⟨handler, outqueue⟩ := t
          cases handler with
          | tpdu src => rfl
          | _ => exact Bool.noConfusion hclass

/-- A callback takes a frame into its `outqueue` as its client would put the letter into the box. -/
theorem Mailbox.transport_put {b : Mailbox} (hvalid : b.handler ≠ .group 0) {l : LDataPDU}
    (hhears : b.handler.subscription.hears l.letter = true) (hlistens : b.listens = true) :
    (b.put l.letter).transport = b.transport.getLData l := by
  have htakes : b.takes l.letter = (b.handler.anyClass || l.letter.isData) := by
    rw [takes, hlistens, Handler.wants_eq hvalid, hhears, Bool.true_and, Bool.true_and]
  rw [put, htakes, Transport.getLData_eq]
  split
  · next h => exact (if_pos h).symm
  · next h => exact (if_neg h).symm

theorem Mailbox.put_of_not_hears {b : Mailbox} (hvalid : b.handler ≠ .group 0) {t : Letter}
    (h : ¬ (b.listens = true ∧ b.handler.subscription.hears t = true)) : b.put t = b := by
  rw [put, takes, Handler.wants_eq hvalid, if_neg]
  simp only [Bool.and_eq_true]
  exact fun ⟨hlistens, hhears, _⟩ => h ⟨hlistens, hhears⟩

theorem Mailbox.handler_put (b : Mailbox) (t : Letter) : (b.put t).handler = b.handler := by
  rw [put]
  split <;> rfl

theorem Mailbox.listens_put (b : Mailbox) (t : Letter) : (b.put t).listens = b.listens := by
  rw [put]
  split <;> rfl

namespace Station.Realizes

variable {s : Station} {p : PostOffice}

/-- A letter comes in. -/
theorem deliver (h : s.Realizes p) {s' : Station} {l : LDataPDU} (hheard : s.Heard s' l) :
    s'.Realizes (p.deliver l.letter) := by
  obtain ⟨l', hletter, htransports⟩ := hheard.transports
  refine
    { own := hheard.own.trans h.own
      next := hheard.next.trans h.next
      ready := by rw [hheard.layer3]; exact h.ready
      nodup := by rw [hheard.layer3]; exact h.nodup
      entry := fun cb u => ?_
      fresh := fun cb hcb => by simp [PostOffice.deliver, h.fresh cb hcb]
      valid := fun cb b hb => ?_
      transports := fun cb => ?_
      line := by rw [hheard.line]; exact h.line }
  · rw [hheard.layer3, h.entry]
    constructor
    · rintro ⟨b, hb, hlistens, hu⟩
      refine ⟨b.put (l.letter.arrive p.own), by simp [PostOffice.deliver, hb], ?_, ?_⟩
      · rw [Mailbox.listens_put, hlistens]
      · rw [Mailbox.handler_put, hu]
    · rintro ⟨b', hb', hlistens, hu⟩
      obtain ⟨b, hb, rfl⟩ := Option.map_eq_some_iff.mp hb'
      rw [Mailbox.listens_put] at hlistens
      rw [Mailbox.handler_put] at hu
      exact ⟨b, hb, hlistens, hu⟩
  · obtain ⟨b₀, hb₀, rfl⟩ := Option.map_eq_some_iff.mp hb
    rw [Mailbox.handler_put]
    exact h.valid cb b₀ hb₀
  · rw [htransports, h.transports]
    cases hb : p.boxes cb with
    | none => simp [PostOffice.deliver, hb]
    | some b =>
        have hvalid := h.valid cb b hb
        have hmem : cb ∈ s.recipients l' ↔
            b.listens = true ∧ b.handler.subscription.hears l'.letter = true := by
          rw [Station.mem_recipients]
          constructor
          · rintro ⟨u, hu, hhears⟩
            obtain ⟨b', hb', hlistens, rfl⟩ := (h.entry cb u).mp hu
            obtain rfl : b = b' := by simpa [hb] using hb'
            exact ⟨hlistens, hhears⟩
          · rintro ⟨hlistens, hhears⟩
            exact ⟨_, (h.entry cb _).mpr ⟨b, hb, hlistens, rfl⟩, hhears⟩
        have hboxes : (p.deliver l.letter).boxes cb = some (b.put l'.letter) := by
          simp [PostOffice.deliver, hb, hletter, h.own]
        rw [hboxes]
        simp only [Option.map_some]
        by_cases hin : cb ∈ s.recipients l'
        · obtain ⟨hlistens, hhears⟩ := hmem.mp hin
          rw [if_pos hin, Mailbox.transport_put hvalid hhears hlistens]
        · rw [if_neg hin, Mailbox.put_of_not_hears hvalid (mt hmem.mpr hin)]

/-- No callback has the number of the next transport. -/
theorem entry_next (h : s.Realizes p) (u : Subscription) : (s.next, u) ∉ s.layer3.entries := by
  intro hmem
  obtain ⟨b, hb, -, -⟩ := (h.entry _ u).mp hmem
  rw [h.next, h.fresh p.next le_rfl] at hb
  cases hb

/-- A client opens a transport with the next number. -/
theorem subscribe (h : s.Realizes p) {k : Handler} (hvalid : k ≠ .group 0) {listens : Bool}
    {l3' : Callbacks} (hready : l3'.Ready p.own)
    (hperm : l3'.entries.Perm
      ((if listens then [(s.next, k.subscription)] else []) ++ s.layer3.entries)) :
    Realizes
      { s with
        layer3 := l3'
        transports := Function.update s.transports s.next (some ⟨k, []⟩)
        next := s.next + 1 }
      { p with
        boxes := Function.update p.boxes p.next (some { handler := k, listens })
        next := p.next + 1 } := by
  have hnone : p.boxes p.next = none := h.fresh p.next le_rfl
  refine
    { own := h.own
      next := congrArg (· + 1) h.next
      ready := hready
      nodup := ?_
      entry := fun cb u => ?_
      fresh := fun cb hcb => ?_
      valid := fun cb b hb => ?_
      transports := fun cb => ?_
      line := h.line }
  · have hnew : s.next ∉ s.layer3.entries.map (·.1) := by
      intro hmem
      obtain ⟨⟨_, u⟩, hu, rfl⟩ := List.mem_map.mp hmem
      exact h.entry_next u hu
    rw [(hperm.map _).nodup_iff]
    cases listens with
    | true => exact List.nodup_cons.mpr ⟨hnew, h.nodup⟩
    | false => exact h.nodup
  · rw [hperm.mem_iff, List.mem_append, h.entry]
    dsimp only
    by_cases hcb : cb = p.next
    · subst hcb
      rw [Function.update_self, hnone, h.next]
      cases listens with
      | true =>
          simp
          exact eq_comm
      | false => simp
    · rw [Function.update_of_ne hcb, h.next]
      cases listens <;> simp [hcb]
  · have hlt : p.next < cb := hcb
    dsimp only
    rw [Function.update_of_ne hlt.ne']
    exact h.fresh cb hlt.le
  · dsimp only at hb
    by_cases hcb : cb = p.next
    · subst hcb
      rw [Function.update_self] at hb
      cases hb
      exact hvalid
    · rw [Function.update_of_ne hcb] at hb
      exact h.valid cb b hb
  · dsimp only
    rw [h.next]
    by_cases hcb : cb = p.next
    · subst hcb
      rw [Function.update_self, Function.update_self]
      rfl
    · rw [Function.update_of_ne hcb, Function.update_of_ne hcb]
      exact h.transports cb

/-- A transport that could not be registered is deleted. -/
theorem refuse (h : s.Realizes p) (k : Handler) {l3' : Callbacks} (hready : l3'.Ready p.own)
    (hperm : l3'.entries.Perm s.layer3.entries) :
    Realizes { s with layer3 := k.deregister l3' s.next } p := by
  have hentries : (k.deregister l3' s.next).entries = l3'.entries := by
    rcases Layer3State.removes_deregister k l3' s.next with ⟨-, heq⟩ | hremoved
    · exact heq
    · have hmem := (hremoved.trans hperm).mem_iff.mp List.mem_cons_self
      exact absurd hmem (h.entry_next _)
  exact
    { own := h.own
      next := h.next
      ready := hready.deregister k s.next
      nodup := by
        rw [hentries, (hperm.map _).nodup_iff]
        exact h.nodup
      entry := fun cb u => by
        rw [hentries, hperm.mem_iff]
        exact h.entry cb u
      fresh := h.fresh
      valid := h.valid
      transports := h.transports
      line := h.line }

/-- A transport is opened. -/
theorem openTransport (h : s.Realizes p) (k : Handler) (m : Message) :
    (s.openTransport k m).1 = (p.openBox k m).1 ∧
      (s.openTransport k m).2.Realizes (p.openBox k m).2 := by
  obtain ⟨l3', hregister, hready, hperm⟩ :=
    Layer3State.entries_register k h.ready s.next m.writeOnly
  have htable : s.table = .after p.own s.layer3.calls := by rw [Station.table, h.own]
  rw [Station.openTransport, PostOffice.openBox]
  by_cases hlen : m.bytes.length = 5
  · rw [if_neg (not_not.mpr hlen), htable, hregister]
    cases hallowed : k.allowed p.own with
    | true =>
        have hvalid : k ≠ .group 0 := by
          rintro rfl
          cases hallowed
        rw [hallowed, Bool.true_and] at hperm
        rw [if_pos ⟨hlen, rfl⟩]
        exact ⟨rfl, h.subscribe hvalid hready hperm⟩
    | false =>
        -- the destructor finds nothing to remove
        rw [hallowed] at hperm
        rw [if_neg fun hboth => Bool.false_ne_true hboth.2]
        exact ⟨rfl, h.refuse k hready hperm⟩
  · rw [if_pos hlen, if_neg fun hboth => hlen hboth.1]
    exact ⟨rfl, h⟩

/-- A transport is closed. -/
theorem closeTransport (h : s.Realizes p) {cb : Nat} {b : Mailbox} (hb : p.boxes cb = some b) :
    (s.closeTransport b.handler cb).Realizes (p.closeBox cb) := by
  have hremoves := Layer3State.removes_deregister b.handler s.layer3 cb
  -- afterwards the entries are those of the other transports
  have hentries : ∀ c u, (c, u) ∈ (b.handler.deregister s.layer3 cb).entries ↔
      c ≠ cb ∧ (c, u) ∈ s.layer3.entries := by
    intro c u
    rcases hremoves with ⟨hnone, heq⟩ | hperm
    · rw [heq]
      refine ⟨fun hmem => ⟨?_, hmem⟩, fun hmem => hmem.2⟩
      rintro rfl
      obtain ⟨b', hb', -, rfl⟩ := (h.entry c u).mp hmem
      obtain rfl : b = b' := by simpa [hb] using hb'
      exact hnone hmem
    · have hnodup := List.nodup_cons.mp ((hperm.map (·.1)).nodup_iff.mpr h.nodup)
      rw [← hperm.mem_iff, List.mem_cons, Prod.mk.injEq]
      constructor
      · intro hmem
        refine ⟨?_, .inr hmem⟩
        rintro rfl
        exact hnodup.1 (List.mem_map.mpr ⟨(c, u), hmem, rfl⟩)
      · rintro ⟨hc, ⟨hcb, -⟩ | hmem⟩
        · exact absurd hcb hc
        · exact hmem
  have hnodup : ((b.handler.deregister s.layer3 cb).entries.map (·.1)).Nodup := by
    rcases hremoves with ⟨-, heq⟩ | hperm
    · rw [heq]
      exact h.nodup
    · exact (((hperm.map (·.1)).nodup_iff.mpr h.nodup)).of_cons
  refine
    { own := h.own
      next := h.next
      ready := h.ready.deregister b.handler cb
      nodup := hnodup
      entry := fun c u => ?_
      fresh := fun c hc => ?_
      valid := fun c b' hb' => ?_
      transports := fun c => ?_
      line := h.line }
  · rw [Station.closeTransport, hentries, h.entry, PostOffice.closeBox]
    dsimp only
    by_cases hc : c = cb
    · simp [hc]
    · simp [hc]
  · rw [PostOffice.closeBox]
    dsimp only
    rw [Function.update_apply]
    split
    · rfl
    · exact h.fresh c hc
  · rw [PostOffice.closeBox] at hb'
    dsimp only at hb'
    rw [Function.update_apply] at hb'
    split at hb'
    · cases hb'
    · exact h.valid c b' hb'
  · rw [Station.closeTransport, PostOffice.closeBox]
    dsimp only
    rw [Function.update_apply, Function.update_apply]
    split
    · rfl
    · exact h.transports c

/-- Some mail is taken out of a mailbox. -/
theorem rebox (h : s.Realizes p) {cb : Nat} {b b' : Mailbox} (hb : p.boxes cb = some b)
    (hhandler : b'.handler = b.handler) (hlistens : b'.listens = b.listens) :
    Realizes { s with transports := Function.update s.transports cb (some b'.transport) }
      { p with boxes := Function.update p.boxes cb (some b') } := by
  refine { h with
    entry := fun c u => ?_
    fresh := fun c hc => ?_
    valid := fun c b'' hb'' => ?_
    transports := fun c => ?_ }
  · rw [h.entry]
    dsimp only
    by_cases hc : c = cb
    · subst hc
      rw [Function.update_self, hb]
      simp [hhandler, hlistens]
    · rw [Function.update_of_ne hc]
  · dsimp only
    rw [Function.update_of_ne]
    · exact h.fresh c hc
    · rintro rfl
      rw [h.fresh c hc] at hb
      cases hb
  · dsimp only at hb''
    by_cases hc : c = cb
    · subst hc
      rw [Function.update_self] at hb''
      cases hb''
      rw [hhandler]
      exact h.valid c b hb
    · rw [Function.update_of_ne hc] at hb''
      exact h.valid c b'' hb''
  · dsimp only
    by_cases hc : c = cb
    · subst hc
      rw [Function.update_self, Function.update_self]
      rfl
    · rw [Function.update_of_ne hc, Function.update_of_ne hc]
      exact h.transports c

/-- A client gets the first of its mail. -/
theorem takeComm (h : s.Realizes p) (cb : Nat) :
    (s.takeComm cb).1 = (p.takeMail cb).1 ∧ (s.takeComm cb).2.Realizes (p.takeMail cb).2 := by
  rw [Station.takeComm, PostOffice.takeMail, h.transports]
  rcases hb : p.boxes cb with _ | ⟨handler, listens, _ | ⟨e, mail⟩⟩
  · exact ⟨rfl, h⟩
  · exact ⟨rfl, h⟩
  · have hrest := h.rebox hb (show (Mailbox.mk handler listens mail).handler = handler from rfl) rfl
    exact ⟨rfl, hrest⟩

/-- A frame goes to the station. -/
theorem append_line (h : s.Realizes p) {c : CArray} {t : Letter} (hc : CarriesLetter c t) :
    Realizes { s with line := s.line ++ [c] } { p with line := p.line ++ [t] } :=
  { h with line := List.rel_append h.line (.cons hc .nil) }

end Station.Realizes

/-! ## Sending -/

theorem LDataPDU.checkEncodable_of_not {l : LDataPDU} (h : ¬ l.Encodable) :
    l.checkEncodable = .error .assertion := by
  rw [checkEncodable]
  by_cases h1 : l.data.length ≥ 1
  · by_cases h255 : l.data.length ≤ 0xff
    · have hhops : ¬ l.hopcount &&& 0xf8#8 = 0#8 := fun hhops => h ⟨h1, h255, hhops⟩
      rw [check_of h1, Checked.ok_bind, check_of h255, Checked.ok_bind, check_of_not hhops]
    · rw [check_of h1, Checked.ok_bind, check_of_not h255]
      rfl
  · rw [check_of_not h1]
    rfl

namespace Station

variable {s : Station} {l : LDataPDU}

/-- The frame with the address of its sender. -/
def sourced (s : Station) (l : LDataPDU) : LDataPDU :=
  if l.source = 0 then { l with source := s.defaultAddr } else l

theorem sourced_encodable_iff : (s.sourced l).Encodable ↔ l.Encodable := by
  rw [sourced]
  split
  · exact ⟨fun h => ⟨h.nonempty, h.fits, h.hops⟩, fun h => ⟨h.nonempty, h.fits, h.hops⟩⟩
  · exact Iff.rfl

theorem sendLData_of_encodable (h : l.Encodable) :
    s.sendLData l = .ok [(s.sourced l).frame] := by
  have hl' := sourced_encodable_iff (s := s).mpr h
  rw [sendLData, tracePrintf_decode h, Checked.ok_bind]
  show (Layer2.tpuart.sendLData s.showPrint (s.sourced l) >>= _) = _
  rw [Layer2.sendLData, tracePrintf_decode hl', Checked.ok_bind, LDataPDU.toPacket_frame hl']
  rfl

theorem sendLData_of_not_encodable (h : ¬ l.Encodable) : s.sendLData l = .error .assertion := by
  have hl' : ¬ (s.sourced l).Encodable := mt sourced_encodable_iff.mp h
  have hfail : ∀ l' : LDataPDU, ¬ l'.Encodable →
      tracePrintf s.showPrint l'.decode = .ok () ∨
        tracePrintf s.showPrint l'.decode = .error .assertion := by
    intro l' hl'
    rw [tracePrintf, LDataPDU.decode, LDataPDU.checkEncodable_of_not hl']
    cases s.showPrint with
    | true => exact .inr rfl
    | false => exact .inl rfl
  have hpacket : (s.sourced l).toPacket = .error .assertion := by
    rw [LDataPDU.toPacket, LDataPDU.checkEncodable_of_not hl']
    rfl
  rw [sendLData]
  rcases hfail l h with hfirst | hfirst
  · rw [hfirst, Checked.ok_bind]
    show (Layer2.tpuart.sendLData s.showPrint (s.sourced l) >>= _) = _
    rw [Layer2.sendLData]
    rcases hfail (s.sourced l) hl' with hsecond | hsecond
    · rw [hsecond, Checked.ok_bind, hpacket]
      rfl
    · rw [hsecond]
      rfl
  · rw [hfirst]
    rfl

end Station

/-- What the clients' `Send`s have in common. -/
theorem Handler.send_cases (h : Handler) (own addr : EibAddr) (c : CArray) :
    (∃ l, h.send addr c = .ok l ∧ l.repeated = false ∧ l.hopcount = 0x07#8 ∧
      l.data.length = c.length ∧
      (if l.source = 0 then { l with source := own } else l).letter = h.letter own addr c) ∨
    c = [] ∧ h.send addr c = .error .assertion := by
  have htpdu : ∀ src, (if src = 0 then ({ source := own, dest := addr, data := c } : LDataPDU)
      else { source := src, dest := addr, data := c }).letter = letter own (.tpdu src) addr c := by
    intro src
    rw [letter]
    split
    · rfl
    · rfl
  by_cases hc : c = []
  · subst hc
    cases h with
    | tpdu src => exact .inl ⟨_, rfl, rfl, rfl, rfl, htpdu src⟩
    | broadcast => exact .inr ⟨rfl, rfl⟩
    | group groupaddr => exact .inr ⟨rfl, rfl⟩
    | individual dest => exact .inr ⟨rfl, rfl⟩
    | groupSocket => exact .inr ⟨rfl, rfl⟩
  · have hlen : (maskHead c).length = c.length := by
      rw [maskHead, List.length_modifyHead]
    left
    cases h with
    | tpdu src => exact ⟨_, rfl, rfl, rfl, rfl, htpdu src⟩
    | broadcast => exact ⟨_, sendDataXXX_eq hc, rfl, rfl, hlen, rfl⟩
    | group groupaddr => exact ⟨_, sendDataXXX_eq hc, rfl, rfl, hlen, rfl⟩
    | individual dest => exact ⟨_, sendDataXXX_eq hc, rfl, rfl, hlen, rfl⟩
    | groupSocket => exact ⟨_, sendDataXXX_eq hc, rfl, rfl, hlen, rfl⟩

/-- Only the length of what a client sends decides whether it becomes a frame. -/
theorem Handler.send_sendLData (h : Handler) (s : Station) (addr : EibAddr) (c : CArray) :
    if 1 ≤ c.length ∧ c.length ≤ 255 then
      ∃ frame, (h.send addr c >>= s.sendLData) = .ok [frame] ∧
        CarriesLetter frame (h.letter s.defaultAddr addr c)
    else (h.send addr c >>= s.sendLData) = .error .assertion := by
  rcases h.send_cases s.defaultAddr addr c with
    ⟨l, hsend, hfirst, hhops, hlen, hletter⟩ | ⟨rfl, hsend⟩
  · have henc : l.Encodable ↔ 1 ≤ c.length ∧ c.length ≤ 255 := by
      rw [← hlen]
      exact ⟨fun h => ⟨h.nonempty, h.fits⟩, fun h => ⟨h.1, h.2, by rw [hhops]; decide⟩⟩
    rw [hsend, Checked.ok_bind]
    split
    · next hc =>
      rw [Station.sendLData_of_encodable (henc.mpr hc)]
      refine ⟨_, rfl, s.sourced l, Station.sourced_encodable_iff.mpr (henc.mpr hc), ?_, rfl,
        hletter.symm⟩
      rw [Station.sourced]
      split <;> exact hfirst
    · next hc => exact Station.sendLData_of_not_encodable (mt henc.mp hc)
  · rw [hsend]
    rfl

/-! ## The network -/

variable {ι : Type} [DecidableEq ι]

/-- All stations of a bus stand for post offices. -/
def RealizesAll (net : ι → Station) (offices : ι → PostOffice) : Prop :=
  ∀ j, (net j).Realizes (offices j)

theorem RealizesAll.update {net : ι → Station} {offices : ι → PostOffice}
    (h : RealizesAll net offices) {j : ι} {s : Station} {p : PostOffice} (hs : s.Realizes p) :
    RealizesAll (Function.update net j s) (Function.update offices j p) := by
  intro i
  by_cases hi : i = j
  · subst hi
    rw [Function.update_self, Function.update_self]
    exact hs
  · rw [Function.update_of_ne hi, Function.update_of_ne hi]
    exact h i

/-- Nobody can tell eibds on a bus from an exchange of letters. -/
theorem simulates_exchange : Simulates (RealizesAll (ι := ι)) busStep exchangeStep := by
  intro net offices e h
  cases e with
  | openTransport j m =>
      rw [busStep, exchangeStep]
      cases m.transport? with
      | none => exact .ok h
      | some k =>
          obtain ⟨hreply, hnext⟩ := (h j).openTransport k m
          dsimp only
          rw [hreply, (h j).next]
          exact .ok (h.update hnext)
  | message j cb m =>
      rw [busStep, exchangeStep, (h j).transports]
      cases hb : (offices j).boxes cb with
      | none => exact .ok h
      | some b =>
          simp only [Option.map_some, Mailbox.transport]
          cases b.handler.doMessage m with
          | ends => exact .ok (h.update ((h j).closeTransport hb))
          | skipped => exact .ok h
          | send addr c =>
              have hsend := b.handler.send_sendLData (net j) addr c
              rw [(h j).own] at hsend
              dsimp only
              rw [← bind_assoc]
              split at hsend
              · next hfits =>
                obtain ⟨frame, hframe, hcarries⟩ := hsend
                rw [hframe, if_pos hfits, Checked.ok_bind]
                refine .ok fun i => ?_
                by_cases hi : i = j
                · rw [if_pos hi, if_pos hi]
                  exact h i
                · rw [if_neg hi, if_neg hi]
                  exact (h i).append_line hcarries
              · next hfits =>
                rw [hsend, if_neg hfits]
                exact .error .assertion
  | hangup j cb =>
      rw [busStep, exchangeStep, (h j).transports]
      cases hb : (offices j).boxes cb with
      | none => exact .ok h
      | some b => exact .ok (h.update ((h j).closeTransport hb))
  | foreign f =>
      rw [busStep, exchangeStep, LDataPDU.toPacket_frame f.encodable]
      exact .ok fun i => (h i).append_line ⟨f.frame, f.encodable, f.first, rfl, rfl⟩
  | hear j again =>
      rw [busStep, exchangeStep]
      have hline := (h j).line
      cases hs : (net j).line with
      | nil =>
          rw [hs] at hline
          rw [List.forall₂_nil_left_iff.mp hline]
          exact .ok h
      | cons c line =>
          rw [hs] at hline
          obtain ⟨t, letters, hc, hrest, hletters⟩ := List.forall₂_cons_left_iff.mp hline
          obtain ⟨l, henc, hfirst, rfl, rfl⟩ := hc
          have hpopped : Station.Realizes { net j with line } { offices j with line := letters } :=
            { h j with line := hrest }
          obtain ⟨s', hrecv, hheard⟩ := Station.recv_first hpopped.nodup henc hfirst
          have hagain := Station.recvAgain_repetition henc hfirst hheard.known again
          rw [hletters]
          dsimp only
          rw [hrecv, Checked.ok_bind, hagain, Checked.ok_bind]
          exact .ok (h.update (hpopped.deliver hheard))
  | miss j =>
      have htail : ∀ {cs ts}, List.Forall₂ CarriesLetter cs ts →
          List.Forall₂ CarriesLetter cs.tail ts.tail := by
        rintro _ _ (_ | ⟨_, hrest⟩)
        · exact .nil
        · exact hrest
      exact .ok (h.update { h j with line := htail (h j).line })
  | take j cb =>
      obtain ⟨hout, hnext⟩ := (h j).takeComm cb
      rw [busStep, exchangeStep, hout]
      exact .ok (h.update hnext)
  | tick j delay =>
      have hsame : offices = Function.update offices j (offices j) :=
        (Function.update_eq_self j offices).symm
      rw [busStep, exchangeStep, hsame]
      exact .ok (h.update { h j with })

/-- eibds with the given addresses, without clients. -/
def startNetwork (own : ι → EibAddr) (showPrint : ι → Bool) (j : ι) : Station :=
  { defaultAddr := own j, showPrint := showPrint j }

omit [DecidableEq ι] in
theorem realizesAll_start (own : ι → EibAddr) (showPrint : ι → Bool) :
    RealizesAll (startNetwork own showPrint) fun j => { own := own j } := fun j =>
  { own := rfl
    next := rfl
    ready := .init (own j)
    nodup := List.nodup_nil
    entry := fun cb u => ⟨fun h => absurd h List.not_mem_nil, fun ⟨_, hb, _⟩ => by cases hb⟩
    fresh := fun _ _ => rfl
    valid := fun _ _ hb => by cases hb
    transports := fun _ => rfl
    line := .nil }

/-- Whatever the clients do and whichever frames are missed or repeated, the clients of eibds on a
    bus get the messages that those of an exchange of letters get, and an eibd comes down exactly
    if a client sends it a telegram of no or of too many bytes. -/
theorem bus_is_exchange (own : ι → EibAddr) (showPrint : ι → Bool) (es : List (BusEvent ι)) :
    Prod.fst <$> transcript busStep (startNetwork own showPrint) es =
      Prod.fst <$> transcript exchangeStep (fun j => { own := own j }) es :=
  (simulates_exchange.transcript (realizesAll_start own showPrint) es).outputs

end BcuSdk.Eibd
