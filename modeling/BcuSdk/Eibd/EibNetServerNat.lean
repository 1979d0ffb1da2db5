/-
  BcuSdk.Eibd.EibNetServerNat

  The NAT table of `EIBnetServer` (eibd/libserver/eibnetserver.cpp).

  A routed frame for an individual address enters its pair of addresses, or
  starts the timer of the entry again; a pass begins with a sweep that deletes
  what has expired.  `NATStep` says what a step makes of the table, and the
  invariants are derived from it.

  The sweep deletes from the array that it goes through by index, so that the
  entry behind a deleted one is not looked at.  It does its work exactly if no
  two neighbours have expired (`sweepsRight_iff`).
-/
import BcuSdk.Common.Array
import BcuSdk.Eibd.EibNetServerSafety
import Mathlib.Data.List.Nodup

namespace BcuSdk.Eibd

open BcuSdk.Lib BcuSdk.Common

namespace EIBnetServer

/-! ## The sweep by index -/

section Sweep

variable {fresh : Nat → NATEntry} {now : Nat} {natstate rest : ArrayOf NATEntry} {i : Nat}

theorem toNat_index (hi : i < natstate.count.toNat) : (BitVec.ofNat 32 i).toNat = i := by
  rw [BitVec.toNat_ofNat]
  exact Nat.mod_eq_of_lt (hi.trans (BitVec.isLt _))

/-- `natstate.deletepart (i, 1)`. -/
theorem toList_of_delete (hi : i < natstate.count.toNat)
    (h : natstate.deletepart fresh (BitVec.ofNat 32 i) 1#32 = .ok rest) :
    rest.toList = removeAt natstate.toList i 1 := by
  have hindex := toNat_index hi
  have hend : (BitVec.ofNat 32 i).toNat + (1#32).toNat < 2 ^ 32 := by
    rw [hindex]
    exact Nat.lt_of_le_of_lt hi (BitVec.isLt natstate.count)
  have hlist := ArrayOf.toList_of_deletepart hend h
  rwa [hindex] at hlist

/-- The loop over `natstate` in `Run`, from index `i` on. -/
def sweep (fresh : Nat → NATEntry) (now : Nat) (natstate : ArrayOf NATEntry) (i : Nat) :
    Checked (ArrayOf NATEntry) :=
  if _hi : i < natstate.count.toNat then
    match loadAt natstate.toList i with
    | .error f => .error f
    | .ok n =>
        if n.timeout ≤ now then
          match _hdelete : natstate.deletepart fresh (BitVec.ofNat 32 i) 1#32 with
          | .error f => .error f
          -- `i` goes up all the same
          | .ok rest => sweep fresh now rest (i + 1)
        else sweep fresh now natstate (i + 1)
  else .ok natstate
termination_by natstate.count.toNat - i
decreasing_by
  · have hle := length_removeAt_le natstate.toList i 1
    rw [← toList_of_delete _hi _hdelete, ArrayOf.length_toList, ArrayOf.length_toList] at hle
    omega
  · omega

theorem sweep_of_ge (h : natstate.count.toNat ≤ i) : sweep fresh now natstate i = .ok natstate := by
  rw [sweep, dif_neg (Nat.not_lt.mpr h)]

theorem lt_count_of_toList {pre post : List NATEntry} {n : NATEntry}
    (hlist : natstate.toList = pre ++ n :: post) (hi : pre.length = i) :
    i < natstate.count.toNat := by
  rw [← ArrayOf.length_toList, hlist, List.length_append, List.length_cons, hi]
  omega

/-- An entry that has not expired. -/
theorem sweep_of_live {pre post : List NATEntry} {n : NATEntry}
    (hlist : natstate.toList = pre ++ n :: post) (hi : pre.length = i) (hlive : ¬ n.timeout ≤ now) :
    sweep fresh now natstate i = sweep fresh now natstate (i + 1) := by
  rw [sweep, dif_pos (lt_count_of_toList hlist hi), loadAt_append hlist hi]
  exact if_neg hlive

/-- An entry that has expired: the loop goes on behind the entry that takes its place. -/
theorem sweep_of_expired (fresh : Nat → NATEntry) {pre post : List NATEntry} {n : NATEntry}
    (hlist : natstate.toList = pre ++ n :: post) (hi : pre.length = i) (hexpired : n.timeout ≤ now) :
    ∃ rest, rest.toList = pre ++ post ∧
      sweep fresh now natstate i = sweep fresh now rest (i + 1) := by
  have hlt := lt_count_of_toList hlist hi
  have hend : (BitVec.ofNat 32 i).toNat + (1#32).toNat < 2 ^ 32 := by
    rw [toNat_index hlt]
    exact Nat.lt_of_le_of_lt hlt (BitVec.isLt natstate.count)
  obtain ⟨rest, hdelete, -⟩ := ArrayOf.leaves_deletepart fresh natstate hend
  refine ⟨rest, ?_, ?_⟩
  · rw [toList_of_delete hlt hdelete, hlist, removeAt_append pre n hi]
  · rw [sweep, dif_pos hlt, loadAt_append hlist hi]
    show (if n.timeout ≤ now then _ else _) = _
    rw [if_pos hexpired]
    split
    · next f hfault =>
      rw [hdelete] at hfault
      cases hfault
    · next rest' hrest =>
      rw [hdelete] at hrest
      cases hrest
      rfl

/-- The loop leaves what `expireNAT` leaves of the list. -/
theorem leaves_sweep {pre post : List NATEntry} (hlist : natstate.toList = pre ++ post)
    (hi : pre.length = i) :
    ArrayOf.Leaves (sweep fresh now natstate i) (pre ++ expireNAT now post) := by
  -- `pre` is what the loop has passed, of length `i`
  fun_induction expireNAT now post generalizing natstate pre i with
  | case1 =>
      refine ⟨natstate, sweep_of_ge ?_, hlist⟩
      rw [← ArrayOf.length_toList, hlist, List.append_nil, hi]
  | case2 n hexpired =>
      obtain ⟨rest, hrest, hsweep⟩ := sweep_of_expired fresh hlist hi hexpired
      refine ⟨rest, hsweep.trans (sweep_of_ge ?_), hrest⟩
      rw [← ArrayOf.length_toList, hrest, List.append_nil, hi]
      exact Nat.le_succ i
  -- `m` takes the place of `n`, and is passed over
  | case3 n hexpired m post ih =>
      obtain ⟨rest, hrest, hsweep⟩ := sweep_of_expired fresh hlist hi hexpired
      have hnext : rest.toList = (pre ++ [m]) ++ post := by
        rw [hrest, List.append_assoc, List.singleton_append]
      have hlen : (pre ++ [m]).length = i + 1 := by
        rw [List.length_append, hi]
        rfl
      have h := ih hnext hlen
      rwa [← hsweep, List.append_assoc, List.singleton_append] at h
  | case4 n post hlive ih =>
      have hnext : natstate.toList = (pre ++ [n]) ++ post := by
        rw [hlist, List.append_assoc, List.singleton_append]
      have hlen : (pre ++ [n]).length = i + 1 := by
        rw [List.length_append, hi]
        rfl
      have h := ih hnext hlen
      rwa [← sweep_of_live hlist hi hlive, List.append_assoc, List.singleton_append] at h

/-- `expireNAT` is the loop of `Run` over an array with these entries. -/
theorem leaves_expireNAT (fresh : Nat → NATEntry) (now : Nat) (natstate : ArrayOf NATEntry) :
    ArrayOf.Leaves (sweep fresh now natstate 0) (expireNAT now natstate.toList) := by
  have hlist : natstate.toList = [] ++ natstate.toList := rfl
  exact leaves_sweep hlist rfl

end Sweep

/-! ## What the sweep leaves -/

section Expiry

variable {now : Nat} {natstate : List NATEntry}

/-- What the sweep is for: an entry goes exactly if it has expired. -/
structure SweepsRight (now : Nat) (natstate : List NATEntry) : Prop where
  keeps : ∀ n ∈ natstate, now < n.timeout → n ∈ expireNAT now natstate
  drops : ∀ n ∈ expireNAT now natstate, now < n.timeout

/-- No two neighbours have expired. -/
def Apart (now : Nat) (natstate : List NATEntry) : Prop :=
  natstate.IsChain fun n m => now < n.timeout ∨ now < m.timeout

/-- The sweep only deletes. -/
theorem expireNAT_sublist (now : Nat) (natstate : List NATEntry) :
    (expireNAT now natstate).Sublist natstate := by
  fun_induction expireNAT now natstate with
  | case1 => exact .slnil
  | case2 n => exact List.nil_sublist _
  | case3 n _ m post ih => exact (ih.cons_cons m).cons n
  | case4 n post _ ih => exact ih.cons_cons n

/-- It does not delete an entry too early. -/
theorem mem_expireNAT {n : NATEntry} (hn : n ∈ natstate) (hlive : now < n.timeout) :
    n ∈ expireNAT now natstate := by
  fun_induction expireNAT now natstate with
  | case1 => exact hn
  | case2 m hexpired =>
      rw [List.mem_singleton.mp hn] at hlive
      exact absurd hexpired (Nat.not_le.mpr hlive)
  | case3 m hexpired m' post ih =>
      obtain rfl | hn := List.mem_cons.mp hn
      · exact absurd hexpired (Nat.not_le.mpr hlive)
      · obtain rfl | hn := List.mem_cons.mp hn
        · exact List.mem_cons_self
        · exact List.mem_cons_of_mem m' (ih hn)
  | case4 m post _ ih =>
      obtain rfl | hn := List.mem_cons.mp hn
      · exact List.mem_cons_self
      · exact List.mem_cons_of_mem m (ih hn)

theorem apart_cons_of_live {n : NATEntry} (hlive : now < n.timeout) :
    Apart now (n :: natstate) ↔ Apart now natstate := by
  rcases natstate with _ | ⟨m, natstate⟩
  · exact iff_of_true (.singleton n) .nil
  · exact List.isChain_cons_cons.trans (and_iff_right (.inl hlive))

/-- An entry is passed over exactly if the one in front of it has been deleted. -/
theorem forall_expireNAT_iff :
    (∀ n ∈ expireNAT now natstate, now < n.timeout) ↔ Apart now natstate := by
  fun_induction expireNAT now natstate with
  | case1 => exact iff_of_true (fun n hn => absurd hn List.not_mem_nil) .nil
  | case2 n => exact iff_of_true (fun n hn => absurd hn List.not_mem_nil) (.singleton n)
  -- behind the deleted `n` the entry `m` stays, expired or not
  | case3 n hexpired m post ih =>
      rw [List.forall_mem_cons, ih]
      constructor
      · rintro ⟨hlive, hpost⟩
        exact List.isChain_cons_cons.mpr ⟨.inr hlive, (apart_cons_of_live hlive).mpr hpost⟩
      · intro h
        obtain ⟨hor, hpost⟩ := List.isChain_cons_cons.mp h
        have hlive : now < m.timeout := hor.resolve_left (Nat.not_lt.mpr hexpired)
        exact ⟨hlive, (apart_cons_of_live hlive).mp hpost⟩
  | case4 n post hlive ih =>
      have hlive : now < n.timeout := Nat.not_le.mp hlive
      rw [List.forall_mem_cons, ih, and_iff_right hlive, apart_cons_of_live hlive]

theorem sweepsRight_iff (now : Nat) (natstate : List NATEntry) :
    SweepsRight now natstate ↔ Apart now natstate := by
  rw [← forall_expireNAT_iff]
  constructor
  · intro h
    exact h.drops
  · intro h
    exact ⟨fun n hn hlive => mem_expireNAT hn hlive, h⟩

end Expiry

/-! ## The entries -/

/-- No two entries are for the same pair of addresses. -/
def DistinctPairs (natstate : List NATEntry) : Prop := (natstate.map (·.toNATState)).Nodup

section Entries

variable {s : EIBnetServer} {l : LDataPDU} {now : Nat}

/-- A frame for a group has no entry. -/
theorem addNAT_of_group (h : l.addrType ≠ .individualAddress) : s.addNAT l now = s := if_pos h

/-- The timer of the entry starts again, or there is a new entry. -/
theorem addNAT_cases (h : l.addrType = .individualAddress) (now : Nat) :
    (∃ i n, s.natstate[i]? = some n ∧ n.toNATState = ⟨l.source, l.dest⟩ ∧
        (s.addNAT l now).natstate = s.natstate.modify i ({ · with timeout := now + 180 })) ∨
      (∀ n ∈ s.natstate, n.toNATState ≠ ⟨l.source, l.dest⟩) ∧
        (s.addNAT l now).natstate =
          s.natstate ++ [{ src := l.source, dest := l.dest, timeout := now + 180 }] := by
  rw [addNAT, if_neg (not_not_intro h)]
  split
  · next i hi =>
    obtain ⟨hlt, hpair, -⟩ := List.findIdx?_eq_some_iff_getElem.mp hi
    obtain ⟨hsrc, hdest⟩ := of_decide_eq_true hpair
    refine .inl ⟨i, s.natstate[i], List.getElem?_eq_getElem hlt, ?_, rfl⟩
    rw [← hsrc, ← hdest]
  · next hnone =>
    refine .inr ⟨?_, rfl⟩
    intro n hn hpair
    have hne := of_decide_eq_false (List.findIdx?_eq_none_iff.mp hnone n hn)
    exact hne ⟨congrArg NATState.src hpair, congrArg NATState.dest hpair⟩

/-- A timer that starts again leaves the pairs alone. -/
theorem map_modify_timeout (natstate : List NATEntry) (i t : Nat) :
    (natstate.modify i ({ · with timeout := t })).map (·.toNATState) =
      natstate.map (·.toNATState) := by
  apply List.ext_getElem?
  intro j
  rw [List.getElem?_map, List.getElem?_map, List.getElem?_modify]
  rcases natstate[j]? with _ | n
  · rfl
  · show some (NATEntry.toNATState (if i = j then _ else n)) = _
    split <;> rfl

theorem DistinctPairs.add (h : DistinctPairs s.natstate) (l : LDataPDU) (now : Nat) :
    DistinctPairs (s.addNAT l now).natstate := by
  by_cases haddr : l.addrType = .individualAddress
  · rcases addNAT_cases haddr now with ⟨i, n, -, -, heq⟩ | ⟨hnew, heq⟩
    · rwa [heq, DistinctPairs, map_modify_timeout]
    · rw [heq, DistinctPairs, List.map_append]
      refine List.nodup_append.mpr ⟨h, List.nodup_singleton _, ?_⟩
      intro pair hpair other hother
      obtain ⟨n, hn, rfl⟩ := List.mem_map.mp hpair
      rw [List.mem_singleton.mp hother]
      exact hnew n hn
  · rwa [addNAT_of_group haddr]

theorem DistinctPairs.expire (h : DistinctPairs s.natstate) (now : Nat) :
    DistinctPairs (expireNAT now s.natstate) :=
  List.Nodup.sublist ((expireNAT_sublist now s.natstate).map _) h

/-- An entry behind `addNAT` was there before, or its timer has just been started. -/
theorem mem_addNAT {n : NATEntry} (hn : n ∈ (s.addNAT l now).natstate) :
    n ∈ s.natstate ∨
      l.addrType = .individualAddress ∧ l.source = n.src ∧ l.dest = n.dest ∧
        n.timeout = now + 180 := by
  by_cases haddr : l.addrType = .individualAddress
  · rcases addNAT_cases haddr now with ⟨i, m, hi, hpair, heq⟩ | ⟨-, heq⟩
    · rw [heq] at hn
      obtain ⟨j, hj⟩ := List.mem_iff_getElem?.mp hn
      -- only the entry at `i` has a new time
      by_cases hij : i = j
      · subst hij
        rw [List.getElem?_modify_eq, hi] at hj
        cases hj
        exact .inr ⟨haddr, (congrArg NATState.src hpair).symm,
          (congrArg NATState.dest hpair).symm, rfl⟩
      · rw [List.getElem?_modify_ne _ _ hij] at hj
        exact .inl (List.mem_of_getElem? hj)
    · rw [heq] at hn
      obtain hold | hnew := List.mem_append.mp hn
      · exact .inl hold
      · rw [List.mem_singleton.mp hnew]
        exact .inr ⟨haddr, rfl, rfl, rfl⟩
  · rw [addNAT_of_group haddr] at hn
    exact .inl hn

end Entries

/-! ## One step -/

/-- The time of the sweep. -/
def Event.sweepTime : Event → Option Nat
  | .pass _ now _ => some now
  | .lData _ => none
  | .lBusmonitor _ => none

/-- The server routes, and the packet holds the frame `c`, which may go on. -/
structure RoutedFrame (s : EIBnetServer) (p : ReceivedPacket) (c : LDataPDU) : Prop where
  service : p.service = Service.routingIndication
  route : s.route
  code : p.data[0]? = some 0x29#8
  frame : cemiToLData p.data = .ok (some c)
  hopcount : c.hopcount ≠ 0#8

/-- What a step makes of the entries. -/
inductive NATStep (s : EIBnetServer) : Event → List NATEntry → Prop
  | kept {e : Event} (h : e.sweepTime = none) : NATStep s e s.natstate
  | swept (p1 : Option ReceivedPacket) (now : Nat) (accepted : Bool) :
      NATStep s (.pass p1 now accepted) (expireNAT now s.natstate)
  | routed {p : ReceivedPacket} {c : LDataPDU} (h : RoutedFrame s p c) (now : Nat)
      (accepted : Bool) :
      NATStep s (.pass (some p) now accepted)
        (addNAT { s with natstate := expireNAT now s.natstate } c.decHopcount now).natstate

section Step

variable {s s' : EIBnetServer} {as : List ServerAction}

theorem natstate_removeClient (s : EIBnetServer) (i : Nat) :
    (s.removeClient i).1.natstate = s.natstate := by
  rw [removeClient]
  rcases s.state[i]? with _ | c
  · rfl
  · show (if c.type = .busmonitor then _ else _ : EIBnetServer × List ServerAction).1.natstate = _
    split
    · rw [delBusmonitor]
      split <;> rfl
    · rfl

theorem natstate_openClient (s : EIBnetServer) (r1 : EIBnetConnectRequest) (now : Nat)
    (accepted : Bool) : (s.openClient r1 now accepted).2.1.natstate = s.natstate := by
  rcases htype : s.requestedType r1.cri with _ | type
  · rw [openClient_of_none htype]
  · rcases Nat.lt_or_ge 255 (freeId s.state 256 1) with hfull | hfree
    · rw [openClient_of_full hfull]
    · rw [openClient_of_free htype hfree, addBusmonitor]
      split
      · split <;> rfl
      · rfl

theorem natstate_onConnection {src : SockaddrIn} {channel : Byte}
    {f : ServerConn → Checked (ServerConn × List ServerAction)}
    (h : s.onConnection src channel f = .ok (s', as)) : s'.natstate = s.natstate := by
  rw [onConnection] at h
  split at h
  · cases h
    rfl
  · split at h
    · cases h
    · split at h
      · obtain ⟨_, -, h⟩ := Checked.bind_eq_ok.mp h
        cases h
        rfl
      · cases h
        rfl

theorem natstate_onDisconnectRequest {src : SockaddrIn} {r1 : EIBnetDisconnectRequestFrom}
    (h : s.onDisconnectRequest src r1 = (s', as)) : s'.natstate = s.natstate := by
  rw [onDisconnectRequest] at h
  split at h
  · cases h
    exact natstate_removeClient s _
  · cases h
    rfl

theorem natstate_expireClient (s : EIBnetServer) (now : Nat) :
    (s.expireClient now).1.natstate = s.natstate := by
  rcases expireClient_eq s now with heq | ⟨i, heq⟩
  · rw [heq]
  · rw [heq, natstate_removeClient]

theorem natstate_sendAll {now : Nat} (h : s.sendAll now = .ok (s', as)) :
    s'.natstate = s.natstate := by
  obtain ⟨turns, -, h⟩ := Checked.bind_eq_ok.mp h
  cases h
  rfl

theorem natstate_getLData {l : LDataPDU} (h : s.getLData l = .ok (s', as)) :
    s'.natstate = s.natstate := by
  obtain ⟨state, rfl, -⟩ := getLData_cases h
  rfl

/-- The packet handling changes the entries for a routed frame only. -/
theorem natstate_recv {p : ReceivedPacket} {now : Nat} {accepted : Bool}
    (h : s.recv p now accepted = .ok (s', as)) :
    s'.natstate = s.natstate ∨
      ∃ c, RoutedFrame s p c ∧ s'.natstate = (s.addNAT c.decHopcount now).natstate := by
  cases recv_served h with
  | unchanged => exact .inl rfl
  | routing hservice h =>
      rcases onRoutingIndication_cases h with rfl | ⟨c, hcode, hframe, hhop, rfl⟩
      · exact .inl rfl
      · exact .inr ⟨c, ⟨hservice.1, hservice.2, hcode, hframe, hhop⟩, rfl⟩
  | connectionState => exact .inl rfl
  | disconnect h => exact .inl (natstate_onDisconnectRequest h)
  | @connect r1 _ _ _ _ h =>
      obtain rfl : (s.onConnectionRequest r1 now accepted).1 = s' := congrArg Prod.fst h
      rw [onConnectionRequest_fst]
      exact .inl (natstate_openClient s r1 now accepted)
  | tunnelRequest h => exact .inl (natstate_onConnection h)
  | tunnelResponse h => exact .inl (natstate_onConnection h)
  | configRequest h => exact .inl (natstate_onConnection h)
  | configACK h => exact .inl (natstate_onConnection h)

theorem natStep {e : Event} (h : s.step e = .ok s') : NATStep s e s'.natstate := by
  rcases e with ⟨p1, now, accepted⟩ | l | l
  · obtain ⟨s₁, received, sent, hhandle, hsend⟩ := step_pass_eq_ok.mp h
    -- the send phase and the expiry of clients leave the table alone
    have hkept : s'.natstate = s₁.natstate := by
      rw [natstate_sendAll hsend, natstate_expireClient]
    rw [hkept]
    rcases p1 with _ | p
    · cases hhandle
      exact .swept none now accepted
    · rcases natstate_recv hhandle with heq | ⟨c, hframe, heq⟩
      · rw [heq]
        exact .swept (some p) now accepted
      · have hrouted : RoutedFrame s p c :=
          ⟨hframe.service, hframe.route, hframe.code, hframe.frame, hframe.hopcount⟩
        rw [heq]
        exact .routed hrouted now accepted
  · obtain ⟨⟨s₁, as⟩, hget, h⟩ := Checked.bind_eq_ok.mp h
    cases h
    rw [natstate_getLData hget]
    exact .kept rfl
  · cases h
    exact .kept rfl

end Step

/-! ## Runs -/

section Runs

variable {s s' : EIBnetServer} {e : Event} {es : List Event}

theorem DistinctPairs.step (h : DistinctPairs s.natstate) (hstep : s.step e = .ok s') :
    DistinctPairs s'.natstate := by
  generalize hentries : s'.natstate = entries
  have hnat := natStep hstep
  rw [hentries] at hnat
  cases hnat with
  | kept => exact h
  | swept p1 now accepted => exact h.expire now
  | @routed p c _ now accepted =>
      exact DistinctPairs.add (s := { s with natstate := expireNAT now s.natstate })
        (h.expire now) c.decHopcount now

/-- The step is the arrival of a routed frame for an individual address, and starts the timer of the
    entry with the pair of addresses of that frame. -/
def Refreshes (s : EIBnetServer) (e : Event) (n : NATEntry) : Prop :=
  ∃ p now accepted c, e = .pass (some p) now accepted ∧ RoutedFrame s p c ∧
    c.addrType = .individualAddress ∧ c.source = n.src ∧ c.dest = n.dest ∧ n.timeout = now + 180

theorem mem_natstate_of_step (hstep : s.step e = .ok s') {n : NATEntry} (hn : n ∈ s'.natstate) :
    n ∈ s.natstate ∨ Refreshes s e n := by
  generalize hentries : s'.natstate = entries at hn
  have hnat := natStep hstep
  rw [hentries] at hnat
  cases hnat with
  | kept => exact .inl hn
  | swept p1 now accepted => exact .inl ((expireNAT_sublist now s.natstate).subset hn)
  | @routed p c hframe now accepted =>
      rcases mem_addNAT hn with hold | ⟨haddr, hsrc, hdest, htimeout⟩
      · exact .inl ((expireNAT_sublist now s.natstate).subset hold)
      · exact .inr ⟨p, now, accepted, c, rfl, hframe, haddr, hsrc, hdest, htimeout⟩

/-- A step of the run has refreshed the entry. -/
def RefreshedIn (s : EIBnetServer) (es : List Event) (n : NATEntry) : Prop :=
  ∃ es₁ e es₂ s₁, es = es₁ ++ e :: es₂ ∧ run step s es₁ = .ok s₁ ∧ Refreshes s₁ e n

theorem mem_natstate_of_run (hrun : run step s es = .ok s') {n : NATEntry}
    (hn : n ∈ s'.natstate) : n ∈ s.natstate ∨ RefreshedIn s es n := by
  induction es generalizing s with
  | nil =>
      cases hrun
      exact .inl hn
  | cons e es ih =>
      obtain ⟨s₁, hstep, hrest⟩ := Checked.bind_eq_ok.mp hrun
      rcases ih hrest with hold | ⟨es₁, e', es₂, s₂, hes, hfront, hfresh⟩
      · rcases mem_natstate_of_step hstep hold with hold | hfresh
        · exact .inl hold
        · exact .inr ⟨[], e, es, s, rfl, rfl, hfresh⟩
      · refine .inr ⟨e :: es₁, e', es₂, s₂, by rw [hes, List.cons_append], ?_, hfresh⟩
        rw [run_cons, hstep, Checked.ok_bind, hfront]

/-- What the NAT table is for, in every state of a run and at every sweep. -/
structure NATTable (s : EIBnetServer) (es : List Event) : Prop where
  distinct : HoldsAlong step (fun s' => DistinctPairs s'.natstate) s es
  refreshed : ∀ es₁ es₂ s', es = es₁ ++ es₂ → run step s es₁ = .ok s' →
    ∀ n ∈ s'.natstate, RefreshedIn s es₁ n
  sweeps : StepsMeet step
    (fun s' e => ∀ now, e.sweepTime = some now → SweepsRight now s'.natstate) s es

/-- The table does what it is for in a run exactly if no two neighbours have ever expired when a
    sweep begins. -/
theorem natTable_iff (h : s.natstate = []) (es : List Event) :
    NATTable s es ↔ StepsMeet step
      (fun s' e => ∀ now, e.sweepTime = some now → Apart now s'.natstate) s es := by
  have hsweeps : StepsMeet step
      (fun s' e => ∀ now, e.sweepTime = some now → SweepsRight now s'.natstate) s es ↔
      StepsMeet step
        (fun s' e => ∀ now, e.sweepTime = some now → Apart now s'.natstate) s es := by
    have hinv : ∀ (s : EIBnetServer) e s', True → step s e = .ok s' → True :=
      fun _ _ _ _ _ => trivial
    refine StepsMeet.congr hinv ?_ trivial
    intro s' e _
    exact forall₂_congr fun now _ => sweepsRight_iff now s'.natstate
  rw [← hsweeps]
  constructor
  · intro htable
    exact htable.sweeps
  -- pairs and timers are right in every run
  · intro hmeet
    refine ⟨?_, ?_, hmeet⟩
    · refine holdsAlong_of_invariant (fun s e s' hs hstep => DistinctPairs.step hs hstep)
        (fun s hs => hs) ?_ es
      rw [h]
      exact List.nodup_nil
    · intro es₁ es₂ s' _ hrun n hn
      rcases mem_natstate_of_run hrun hn with hold | hfresh
      · rw [h] at hold
        exact absurd hold List.not_mem_nil
      · exact hfresh

end Runs

/-- A server for routing only. -/
def routingServer : EIBnetServer where
  object := 1
  tunnel := false
  route := true
  discover := false
  showPrint := false
  port := 3671#16
  maddr := {}
  sourceAddress _ := none
  fresh _ := 0#8

/-- A `ROUTING_INDICATION` with a frame from 1.1.1 to 1.1.`dest`. -/
def frameTo (dest : Byte) : ReceivedPacket where
  service := Service.routingIndication
  data := [0x29#8, 0x00#8, 0xbc#8, 0x60#8, 0x11#8, 0x01#8, 0x11#8, dest, 0x01#8, 0x00#8, 0x80#8]
  src := {}

/-- Its entry, if it comes at the time 0. -/
def entryTo (dest : Word16) : NATEntry := { src := 0x1101#16, dest, timeout := 180 }

theorem step_frameTo_two : step routingServer (.pass (some (frameTo 2#8)) 0 false) =
    .ok { routingServer with natstate := [entryTo 0x1102#16] } := rfl

theorem step_frameTo_three :
    step { routingServer with natstate := [entryTo 0x1102#16] }
      (.pass (some (frameTo 3#8)) 0 false) =
    .ok { routingServer with natstate := [entryTo 0x1102#16, entryTo 0x1103#16] } := rfl

/-- One frame, and a pass three minutes later. -/
theorem natTable_iff_single :
    NATTable routingServer [.pass (some (frameTo 2#8)) 0 false, .pass none 180 false] := by
  refine (natTable_iff rfl _).mpr ⟨?_, ?_⟩
  · intro now _
    exact .nil
  · intro s' hs'
    rw [step_frameTo_two] at hs'
    cases hs'
    refine ⟨?_, fun s' _ => trivial⟩
    intro now _
    exact .singleton _

/-- Two frames with different pairs, and a pass three minutes later: the second entry stays. -/
theorem not_natTable_pair :
    (∃ s, run step routingServer [.pass (some (frameTo 2#8)) 0 false,
        .pass (some (frameTo 3#8)) 0 false, .pass none 180 false] = .ok s ∧
      s.natstate = [entryTo 0x1103#16]) ∧
      ¬ NATTable routingServer [.pass (some (frameTo 2#8)) 0 false,
        .pass (some (frameTo 3#8)) 0 false, .pass none 180 false] := by
  constructor
  · refine ⟨{ routingServer with natstate := [entryTo 0x1103#16] }, ?_, rfl⟩
    rw [run_cons, step_frameTo_two, Checked.ok_bind, run_cons, step_frameTo_three]
    rfl
  · intro h
    obtain ⟨hsweep, -⟩ := (h.sweeps.2 _ step_frameTo_two).2 _ step_frameTo_three
    have hright := hsweep 180 rfl
    have hlive := hright.drops (entryTo 0x1103#16) List.mem_cons_self
    exact absurd hlive (Nat.lt_irrefl 180)

end EIBnetServer

end BcuSdk.Eibd
