/-
  BcuSdk.Eibd.EibNetServerBusmonitor

  `busmoncount` against the connections of `EIBnetServer` that are busmonitors.

  `addBusmonitor` counts only the first busmonitor, `delBusmonitor` counts each
  one that leaves.  The difference between the number of busmonitors and
  `busmoncount` is kept by every phase of a pass but the opening of a
  connection, so that the count is right exactly as long as no busmonitor is
  opened beside another.
-/
import BcuSdk.Eibd.EibNetServerSafety

namespace BcuSdk.Eibd

open BcuSdk.Lib

namespace EIBnetServer

variable {s s' : EIBnetServer} {as : List ServerAction}

/-! ## The count -/

/-- The number of connections of type 1. -/
def busmonitors (s : EIBnetServer) : Nat := s.state.countP fun c => c.type = .busmonitor

/-- The count is right, and Layer 3 knows the server as a busmonitor exactly if it has one. -/
structure Counted (s : EIBnetServer) : Prop where
  count : s.busmoncount = s.busmonitors
  registered : s.vbusmonitor ↔ ∃ c ∈ s.state, c.type = .busmonitor

theorem busmonitors_pos_iff : 0 < s.busmonitors ↔ ∃ c ∈ s.state, c.type = .busmonitor := by
  simp [busmonitors]

/-- How many busmonitors are not counted. -/
def uncounted (s : EIBnetServer) : Int := s.busmonitors - s.busmoncount

theorem counted_iff : Counted s ↔ s.uncounted = 0 ∧ (s.vbusmonitor ↔ 0 < s.busmoncount) := by
  have hpos : (∃ c ∈ s.state, c.type = .busmonitor) ↔ 0 < s.busmonitors :=
    busmonitors_pos_iff.symm
  constructor
  · rintro ⟨hcount, hregistered⟩
    rw [uncounted, hregistered, hpos, hcount]
    omega
  · rintro ⟨huncounted, hregistered⟩
    rw [uncounted] at huncounted
    have hcount : s.busmoncount = s.busmonitors := by omega
    refine ⟨hcount, ?_⟩
    rw [hregistered, hpos, hcount]
    omega

theorem Turned.busmonitors (h : Turned s s') : s'.busmonitors = s.busmonitors := by
  have htypes : s'.state.map (·.type) = s.state.map (·.type) :=
    map_eq_of_forall₂ (fun _ _ hc => hc.type) h.state
  have hcount := congrArg (List.countP fun type => decide (type = ClientType.busmonitor)) htypes
  rwa [List.countP_map, List.countP_map] at hcount

theorem Turned.uncounted (h : Turned s s') : s'.uncounted = s.uncounted := by
  rw [EIBnetServer.uncounted, h.busmonitors, h.busmoncount, EIBnetServer.uncounted]

theorem Turned.counted (h : Turned s s') (hs : Counted s) : Counted s' := by
  rw [counted_iff, h.uncounted, h.vbusmonitor, h.busmoncount]
  exact counted_iff.mp hs

/-! ## Connections that leave -/

theorem busmonitors_eraseIdx {i : Nat} {c : ServerConn} (hc : s.state[i]? = some c) :
    s.busmonitors = ({ s with state := s.state.eraseIdx i }).busmonitors +
      if c.type = .busmonitor then 1 else 0 := by
  obtain ⟨hlt, rfl⟩ := List.getElem?_eq_some_iff.mp hc
  -- the count does not depend on the order, so the removed one may stand in front
  rw [busmonitors, ← (List.getElem_cons_eraseIdx_perm hlt).countP_eq, List.countP_cons]
  simp only [busmonitors, decide_eq_true_eq]

theorem delBusmonitor_busmoncount (s : EIBnetServer) :
    s.delBusmonitor.1.busmoncount = s.busmoncount - 1 := by
  rw [delBusmonitor]
  dsimp only
  split <;> rfl

theorem delBusmonitor_vbusmonitor (s : EIBnetServer) :
    s.delBusmonitor.1.vbusmonitor ↔ s.vbusmonitor ∧ s.busmoncount ≠ 1 := by
  rw [delBusmonitor]
  dsimp only
  split
  case isTrue h =>
    have h1 : s.busmoncount = 1 := by omega
    simp [h1]
  case isFalse h =>
    have h1 : s.busmoncount ≠ 1 := by omega
    simp [h1]

/-- A busmonitor that leaves is taken off the count, counted or not. -/
theorem removeClient_uncounted (s : EIBnetServer) (i : Nat) :
    (s.removeClient i).1.uncounted = s.uncounted := by
  rcases hi : s.state[i]? with _ | c
  · rw [removeClient_of_none hi]
  · have hcount := busmonitors_eraseIdx hi
    rw [removeClient_of_getElem? hi]
    split
    case isTrue htype =>
      rw [if_pos htype] at hcount
      rw [uncounted, delBusmonitor_busmoncount, busmonitors, delBusmonitor_state, uncounted, hcount]
      show ((_ : Nat) : Int) - (s.busmoncount - 1) = _
      rw [busmonitors]
      omega
    case isFalse htype =>
      rw [if_neg htype, Nat.add_zero] at hcount
      rw [uncounted, uncounted, hcount]

theorem Counted.removeClient (h : Counted s) (i : Nat) : Counted (s.removeClient i).1 := by
  obtain ⟨huncounted, hregistered⟩ := counted_iff.mp h
  refine counted_iff.mpr ⟨by rw [removeClient_uncounted, huncounted], ?_⟩
  rcases hi : s.state[i]? with _ | c
  · rw [removeClient_of_none hi, hregistered]
  · rw [removeClient_of_getElem? hi]
    split
    · rw [delBusmonitor_vbusmonitor, delBusmonitor_busmoncount]
      show (s.vbusmonitor ∧ s.busmoncount ≠ 1) ↔ 0 < s.busmoncount - 1
      rw [hregistered]
      omega
    · exact hregistered

/-! ## Connections that come -/

theorem withConn_busmonitors (s : EIBnetServer) (type : ClientType) (r1 : EIBnetConnectRequest)
    (now : Nat) : (s.withConn type r1 now).busmonitors =
      s.busmonitors + if type = .busmonitor then 1 else 0 := by
  show List.countP _ (s.state ++ [_]) = _
  rw [List.countP_append, List.countP_singleton]
  show s.busmonitors + (if decide (type = .busmonitor) = true then 1 else 0) = _
  simp only [decide_eq_true_eq]

/-- A busmonitor that comes beside another is not counted. -/
theorem openClient_uncounted {r1 : EIBnetConnectRequest} {now : Nat} {accepted : Bool}
    (h : Counted s) (htype : s.requestedType r1.cri = some .busmonitor)
    (hfree : freeId s.state 256 1 ≤ 255) (hother : ∃ c ∈ s.state, c.type = .busmonitor) :
    (s.openClient r1 now accepted).2.1.uncounted = 1 := by
  have hpos := busmonitors_pos_iff.mpr hother
  have hcount := h.count
  have hne : (s.withConn .busmonitor r1 now).busmoncount ≠ 0 := by
    show s.busmoncount ≠ 0
    omega
  rw [openClient_of_free htype hfree, if_pos rfl, addBusmonitor, if_neg hne]
  rw [uncounted, withConn_busmonitors, if_pos rfl]
  show ((s.busmonitors + 1 : Nat) : Int) - s.busmoncount = 1
  omega

/-- Every other connection that comes is. -/
theorem Counted.openClient (h : Counted s) {r1 : EIBnetConnectRequest} {now : Nat}
    (hsecond : ¬ (s.requestedType r1.cri = some .busmonitor ∧ freeId s.state 256 1 ≤ 255 ∧
      ∃ c ∈ s.state, c.type = .busmonitor)) : Counted (s.openClient r1 now true).2.1 := by
  rcases htype : s.requestedType r1.cri with _ | type
  · rwa [openClient_of_none htype]
  · by_cases hfree : freeId s.state 256 1 ≤ 255
    · rw [openClient_of_free htype hfree]
      have hwith := withConn_busmonitors s type r1 now
      split
      case isTrue hbusmonitor =>
        -- it is the first one
        have hnone : s.busmonitors = 0 := by
          by_contra hne
          have hother := busmonitors_pos_iff.mp (Nat.pos_of_ne_zero hne)
          exact hsecond ⟨by rw [htype, hbusmonitor], hfree, hother⟩
        have hzero : (s.withConn type r1 now).busmoncount = 0 := by
          show s.busmoncount = 0
          rw [h.count, hnone]
          rfl
        rw [if_pos hbusmonitor, hnone] at hwith
        rw [addBusmonitor, if_pos hzero, counted_iff]
        refine ⟨?_, ?_⟩
        · show (((s.withConn type r1 now).busmonitors : Nat) : Int) -
            ((s.withConn type r1 now).busmoncount + 1) = 0
          omega
        · show ((s.withConn type r1 now).vbusmonitor || true) = true ↔
            0 < (s.withConn type r1 now).busmoncount + 1
          simp [hzero]
      case isFalse hother =>
        rw [if_neg hother, Nat.add_zero] at hwith
        obtain ⟨huncounted, hregistered⟩ := counted_iff.mp h
        refine counted_iff.mpr ⟨?_, hregistered⟩
        rw [EIBnetServer.uncounted, hwith]
        exact huncounted
    · rwa [openClient_of_full (Nat.lt_of_not_le hfree)]

/-! ## The count over a run -/

/-- A pass in which a busmonitor is opened beside another. -/
def SecondBusmonitor (s : EIBnetServer) : Event → Prop
  | .pass (some p) _ _ =>
      p.service = Service.connectionRequest ∧
        (∃ r1, EIBnetConnectRequest.parse p {} = .ok (some r1) ∧
          s.requestedType r1.cri = some .busmonitor) ∧
        s.state.length < 255 ∧ ∃ c ∈ s.state, c.type = .busmonitor
  | _ => False

/-- Layer 3 accepts the registration, if there is one. -/
def Accepted : Event → Prop
  | .pass _ _ accepted => accepted = true
  | _ => True

theorem recv_connectionRequest {p : ReceivedPacket} {r1 : EIBnetConnectRequest} {now : Nat}
    {accepted : Bool} (hservice : p.service = Service.connectionRequest)
    (hparse : EIBnetConnectRequest.parse p {} = .ok (some r1)) :
    s.recv p now accepted = .ok (s.onConnectionRequest r1 now accepted) := by
  rw [recv, hservice, hparse]
  -- the services before it have other numbers
  simp [Service.connectionRequest, Service.searchRequest, Service.descriptionRequest,
    Service.routingIndication, Service.connectionStateRequest, Service.disconnectRequest]

/-- The packet handling opens a second busmonitor, or the count stays right. -/
theorem Counted.handle {p1 : Option ReceivedPacket} {now : Nat} (htable : TableSound s.state)
    (h : Counted s) (hsecond : ¬ SecondBusmonitor s (.pass p1 now true))
    (hhandle : s.handle p1 now true = .ok (s', as)) : Counted s' := by
  rcases p1 with _ | p
  · cases hhandle
    exact ⟨h.count, h.registered⟩
  · have h' : Counted { s with natstate := expireNAT now s.natstate } := ⟨h.count, h.registered⟩
    cases recv_received hhandle with
    | turned hstate hcount hmonitor =>
        exact Turned.counted ⟨hstate.imp fun _ _ => Touched.turn, hcount, hmonitor⟩ h'
    | removed => exact h'.removeClient _
    | opened hservice hparse =>
        refine h'.openClient fun hopens => hsecond ⟨hservice, ⟨_, hparse, hopens.1⟩, ?_, hopens.2.2⟩
        have hlen := htable.freeId_le_iff.mp hopens.2.1
        have hle := htable.length_le
        omega

theorem handle_uncounted {p1 : Option ReceivedPacket} {now : Nat} {accepted : Bool}
    (htable : TableSound s.state) (h : Counted s)
    (hsecond : SecondBusmonitor s (.pass p1 now accepted)) :
    ∃ s₁ received, s.handle p1 now accepted = .ok (s₁, received) ∧ s₁.uncounted = 1 := by
  rcases p1 with _ | p
  · exact hsecond.elim
  · obtain ⟨hservice, ⟨r1, hparse, htype⟩, hlen, hother⟩ := hsecond
    have hopened := onConnectionRequest_fst { s with natstate := expireNAT now s.natstate } r1 now
      accepted
    have huncounted := @openClient_uncounted { s with natstate := expireNAT now s.natstate } r1 now
      accepted ⟨h.count, h.registered⟩ htype (htable.freeId_le_iff.mpr (Nat.ne_of_lt hlen)) hother
    rw [← hopened] at huncounted
    exact ⟨_, _, recv_connectionRequest hservice hparse, huncounted⟩

theorem expireClient_uncounted (s : EIBnetServer) (now : Nat) :
    (s.expireClient now).1.uncounted = s.uncounted := by
  rcases expireClient_eq s now with heq | ⟨i, heq⟩
  · rw [heq]
  · rw [heq, removeClient_uncounted]

theorem Counted.expireClient (h : Counted s) (now : Nat) : Counted (s.expireClient now).1 := by
  rcases expireClient_eq s now with heq | ⟨i, heq⟩
  · rwa [heq]
  · rw [heq]
    exact h.removeClient i

/-- A step leaves the count right exactly if it does not open a second busmonitor. -/
theorem counted_step_iff {e : Event} (htable : TableSound s.state) (h : Counted s)
    (he : Accepted e) (hstep : s.step e = .ok s') : Counted s' ↔ ¬ SecondBusmonitor s e := by
  cases e with
  | pass p1 now accepted =>
      cases he
      obtain ⟨s₁, received, sent, hhandle, hsend⟩ := step_pass_eq_ok.mp hstep
      have hturned := sendAll_turned hsend
      constructor
      · -- neither the timeout nor the sending makes up for it
        intro hcounted hsecond
        obtain ⟨s₂, received', hhandle', huncounted⟩ := handle_uncounted htable h hsecond
        cases hhandle.symm.trans hhandle'
        have hzero := (counted_iff.mp hcounted).1
        rw [hturned.uncounted, expireClient_uncounted, huncounted] at hzero
        exact absurd hzero Int.one_ne_zero
      · intro hsecond
        exact hturned.counted ((h.handle htable hsecond hhandle).expireClient now)
  | lData l =>
      obtain ⟨⟨s₁, sends⟩, hlData, hstep⟩ := Checked.bind_eq_ok.mp hstep
      cases hstep
      exact iff_of_true ((getLData_turned hlData).counted h) not_false
  | lBusmonitor l =>
      cases hstep
      exact iff_of_true ((getLBusmonitor_turned s l).counted h) not_false

/-- In a run in which Layer 3 accepts its registrations, the count is right in every state, and
    Layer 3 knows the server as a busmonitor exactly while it has one, if and only if no busmonitor
    is ever opened beside another. -/
theorem counted_iff_no_secondBusmonitor {s₀ : EIBnetServer} {es : List Event} (h₀ : Started s₀)
    (haccepted : ∀ e ∈ es, Accepted e) :
    HoldsAlong step Counted s₀ es ↔ StepsMeet step (fun s e => ¬ SecondBusmonitor s e) s₀ es := by
  have hinv : ∀ s e s', TableSound s.state → Accepted e → step s e = .ok s' →
      TableSound s'.state :=
    fun s e s' htable _ hstep => htable.step hstep
  refine holdsAlong_iff hinv ?_
    (fun s e s' htable h he hstep => counted_step_iff htable h he hstep) haccepted
    (h₀.state ▸ TableSound.nil) ?_
  · -- a pass that opens a second busmonitor returns
    intro s e htable h he hfault hsecond
    rcases e with ⟨p1, now, accepted⟩ | l | l
    · obtain ⟨s₁, received, hhandle, -⟩ := handle_uncounted htable h hsecond
      obtain ⟨⟨s₂, sent⟩, hpass⟩ := htable.pass ⟨_, hhandle⟩
      exact hfault s₂ (by rw [EIBnetServer.step, hpass]; rfl)
    · exact hsecond
    · exact hsecond
  · refine ⟨?_, ?_⟩
    · rw [h₀.busmoncount, busmonitors, h₀.state]
      rfl
    · rw [h₀.vbusmonitor, h₀.state]
      simp

/-- Two hosts open busmonitors, and the first one leaves. -/
def twoBusmonitors : List Event :=
  [.pass (some (connectFrom 2 0x80#8)) 0 true, .pass (some (connectFrom 3 0x80#8)) 1 true,
    .pass (some (disconnectFrom 2 1#8)) 2 true]

/-- Layer 3 no longer knows the server as a busmonitor, which still has one. -/
theorem twoBusmonitors_miscounted : ¬ HoldsAlong step Counted tunnelServer twoBusmonitors ∧
    ∃ s, Lib.run step tunnelServer twoBusmonitors = .ok s ∧ s.vbusmonitor = false ∧
      s.busmoncount = 0 ∧ s.busmonitors = 1 := by
  have hend : ∃ s, Lib.run step tunnelServer twoBusmonitors = .ok s ∧ s.vbusmonitor = false ∧
      s.busmoncount = 0 ∧ s.busmonitors = 1 := by
    decide +kernel
  refine ⟨fun h => ?_, hend⟩
  obtain ⟨s, hrun, -, hcount, hbusmonitors⟩ := hend
  have hs := (h twoBusmonitors [] s (List.append_nil _).symm hrun).count
  rw [hcount, hbusmonitors] at hs
  exact absurd hs (by decide)

/-- One busmonitor alone is counted. -/
theorem counted_oneBusmonitor :
    HoldsAlong step Counted tunnelServer [.pass (some (connectFrom 2 0x80#8)) 0 true] := by
  refine (counted_iff_no_secondBusmonitor tunnelServer_started ?_).mpr ⟨?_, fun _ _ => trivial⟩
  · exact List.forall_mem_singleton.mpr rfl
  · rintro ⟨-, -, -, c, hc, -⟩
    exact absurd hc List.not_mem_nil

end EIBnetServer

end BcuSdk.Eibd
