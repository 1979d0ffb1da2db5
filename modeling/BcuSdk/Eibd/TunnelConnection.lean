/-
  BcuSdk.Eibd.TunnelConnection

  The connection of `Tunnelling` inside of the whole programs.

  `EIBNetIPTunnel` is the `core` of a `TunnelClient`, and `ConnState` is what
  `tunnelConn` leaves of a `ServerConn`.  On an open connection each phase of the
  whole program acts as the phase of the connection alone, with the same
  actions, and so as a move of the stop and wait protocol.
-/
import BcuSdk.Eibd.EibNetServerTurn
import BcuSdk.Eibd.EibNetTunnelRunTurn

namespace BcuSdk.Eibd

open BcuSdk.Lib

/-! ## The client -/

/-- What a connection of the client can do by itself. -/
inductive EIBNetIPTunnel.Phase (s : EIBNetIPTunnel) :
    EIBNetIPTunnel → List TunnelAction → Prop
  | idle : Phase s s []
  | recv {p : EIBNetIPPacket} {s' : EIBNetIPTunnel} {as : List TunnelAction}
      (h : s.recv p = .ok (s', as)) : Phase s s' as
  | timeout {s' : EIBNetIPTunnel} {as : List TunnelAction} (h : s.onTimeout = .ok (s', as)) :
      Phase s s' as
  | heartbeat {s' : EIBNetIPTunnel} {as : List TunnelAction} (h : s.onHeartbeat = (s', as)) :
      Phase s s' as
  | marker {s' : EIBNetIPTunnel} {as : List TunnelAction} (h : s.dropMarker = (s', as)) :
      Phase s s' as
  | send {s' : EIBNetIPTunnel} {as : List TunnelAction} (h : s.sendPhase = .ok (s', as)) :
      Phase s s' as

/-- Each of them is a move of the stop and wait protocol. -/
theorem EIBNetIPTunnel.Phase.outcome {s s' : EIBNetIPTunnel} {as : List TunnelAction}
    (h : s.Phase s' as) :
    ∃ received, TunnelEnd.Outcome Refuses received s.tunnelEnd s'.tunnelEnd as := by
  cases h with
  | idle => exact ⟨none, .nothing⟩
  | recv h => exact ⟨_, recv_outcome h⟩
  | timeout h => exact ⟨_, onTimeout_outcome h⟩
  | heartbeat h => exact ⟨_, onHeartbeat_outcome h⟩
  | marker h => exact ⟨_, (dropMarker_outcome h).1⟩
  | send h => exact ⟨_, sendPhase_outcome h⟩

namespace TunnelClient

variable {s s' : TunnelClient} {as : List TunnelAction}

theorem onTunnelRequest_core {r : EIBnetTunnelRequest} (h : s.onTunnelRequest r = .ok (s', as)) :
    s.core.onTunnelRequest r = .ok (s'.core, as) := by
  rw [onTunnelRequest] at h
  rw [EIBNetIPTunnel.onTunnelRequest]
  by_cases hchannel : r.channel ≠ s.core.channel
  · rw [if_pos hchannel] at h ⊢
    cases h
    rfl
  rw [if_neg hchannel] at h ⊢
  by_cases hrep : r.seqno + 1#8 = s.core.rno
  · -- the socket changes, the connection does not
    rw [if_pos hrep] at h ⊢
    cases h
    rfl
  rw [if_neg hrep] at h ⊢
  by_cases hseqno : r.seqno ≠ s.core.rno
  · rw [if_pos hseqno] at h ⊢
    split at h
    case isTrue hfar =>
      rw [if_pos hfar]
      cases h
      rfl
    case isFalse hnear =>
      rw [if_neg hnear]
      cases h
      rfl
  · rw [if_neg hseqno] at h ⊢
    obtain ⟨⟨core, outs⟩, hind, h⟩ := Checked.bind_eq_ok.mp h
    rw [hind]
    cases h
    rfl

theorem onTunnelResponse_core {r : EIBnetTunnelACK} (h : s.onTunnelResponse r = .ok (s', as)) :
    s.core.onTunnelResponse r = .ok (s'.core, as) := by
  rw [onTunnelResponse] at h
  rw [EIBNetIPTunnel.onTunnelResponse]
  by_cases hchannel : r.channel ≠ s.core.channel
  · rw [if_pos hchannel] at h ⊢
    cases h
    rfl
  rw [if_neg hchannel] at h ⊢
  by_cases hseqno : r.seqno ≠ s.core.sno
  · rw [if_pos hseqno] at h ⊢
    cases h
    rfl
  rw [if_neg hseqno] at h ⊢
  by_cases hstatus : r.status ≠ 0#8
  · rw [if_pos hstatus] at h ⊢
    cases h
    rfl
  rw [if_neg hstatus] at h ⊢
  by_cases hmod : s.core.mod ≠ .ackWait
  · rw [if_pos hmod] at h ⊢
    cases h
    rfl
  -- only here is something taken from the queue
  · rw [if_neg hmod] at h ⊢
    obtain ⟨⟨c, s₁⟩, hget, h⟩ := Checked.bind_eq_ok.mp h
    obtain ⟨hqueue, -, hs₁⟩ := get_eq_ok hget
    rw [Queue.get_eq_ok.mpr hqueue]
    cases h
    rw [hs₁]
    rfl

/-- Once there is a channel. -/
theorem onConnectionStateResponse_core (hassigned : s.assigned = true)
    (r : EIBnetConnectionStateResponse) : s.core.onConnectionStateResponse r =
      ((s.onConnectionStateResponse r).1.core, (s.onConnectionStateResponse r).2) := by
  rw [onConnectionStateResponse, EIBNetIPTunnel.onConnectionStateResponse, hassigned]
  simp only [reduceCtorEq, false_or]
  split
  · rfl
  · split
    · rfl
    · split <;> rfl

theorem onDisconnectRequest_core (s : TunnelClient) (r : EIBnetDisconnectRequest) :
    s.core.onDisconnectRequest r =
      ((s.onDisconnectRequest r).1.core, (s.onDisconnectRequest r).2) := by
  rw [onDisconnectRequest, EIBNetIPTunnel.onDisconnectRequest]
  split <;> rfl

theorem onDisconnectResponse_core (s : TunnelClient) (r : EIBnetDisconnectResponse) :
    s.core.onDisconnectResponse r =
      ((s.onDisconnectResponse r).1.core, (s.onDisconnectResponse r).2) := by
  rw [onDisconnectResponse, EIBNetIPTunnel.onDisconnectResponse]
  split <;> rfl

/-- The packets of an open connection. -/
theorem recv_core {p : ReceivedPacket} (hservice : p.service ≠ Service.connectionResponse)
    (hassigned : s.assigned = true) (h : s.recv p = .ok (s', as)) :
    s.core.recv p.toEIBNetIPPacket = .ok (s'.core, as) := by
  rw [recv, if_neg hservice] at h
  rw [EIBNetIPTunnel.recv]
  -- the parsers are tried one after the other, on both sides
  rcases hstate : EIBnetConnectionStateResponse.parse p.toEIBNetIPPacket with _ | r
  · rw [hstate] at h
    dsimp only at h ⊢
    by_cases hmod : s.core.mod = .notConnected
    · rw [if_pos hmod] at h ⊢
      cases h
      rfl
    rw [if_neg hmod] at h ⊢
    rcases hrequest : EIBnetTunnelRequest.parse p.toEIBNetIPPacket with _ | r
    · rw [hrequest] at h
      dsimp only at h ⊢
      rcases hack : EIBnetTunnelACK.parse p.toEIBNetIPPacket with _ | r
      · rw [hack] at h
        dsimp only at h ⊢
        rcases hreq : EIBnetDisconnectRequest.parse p.toEIBNetIPPacket with _ | r
        · rw [hreq] at h
          dsimp only at h ⊢
          rcases hresp : EIBnetDisconnectResponse.parse p.toEIBNetIPPacket with _ | r
          · rw [hresp] at h
            cases h
            rfl
          · rw [hresp] at h
            dsimp only at h ⊢
            rw [onDisconnectResponse_core, Except.ok.inj h]
        · rw [hreq] at h
          dsimp only at h ⊢
          rw [onDisconnectRequest_core, Except.ok.inj h]
      · rw [hack] at h
        exact onTunnelResponse_core h
    · rw [hrequest] at h
      exact onTunnelRequest_core h
  · rw [hstate] at h
    dsimp only at h ⊢
    rw [onConnectionStateResponse_core hassigned, Except.ok.inj h]

theorem onTimeout_core (h : s.onTimeout = .ok (s', as)) :
    s.core.onTimeout = .ok (s'.core, as) := by
  rw [onTimeout] at h
  rw [EIBNetIPTunnel.onTimeout]
  rcases hmod : s.core.mod with _ | _ | _ | _
  · rw [hmod] at h
    cases h
    rfl
  · rw [hmod] at h
    cases h
    rfl
  · rw [hmod] at h
    dsimp only at h ⊢
    -- the frame is removed when it is given up
    split at h
    case isTrue hretry =>
      rw [if_pos hretry]
      obtain ⟨⟨c, s₁⟩, hget, h⟩ := Checked.bind_eq_ok.mp h
      obtain ⟨hqueue, -, hs₁⟩ := get_eq_ok hget
      rw [Queue.get_eq_ok.mpr hqueue, Checked.ok_bind]
      have hdrop : s₁.core.drop = s.core.drop := by rw [hs₁]
      dsimp only at h ⊢
      rw [hdrop] at h
      -- the third frame given up ends the connection
      split at h
      case isTrue hthree =>
        rw [if_pos hthree]
        cases h
        rw [hs₁]
        rfl
      case isFalse hfewer =>
        rw [if_neg hfewer]
        cases h
        rw [hs₁]
        rfl
    case isFalse hretry =>
      rw [if_neg hretry]
      cases h
      rfl
  · rw [hmod] at h
    cases h
    rfl

theorem onHeartbeat_core (hassigned : s.assigned = true) :
    s.core.onHeartbeat = (s.onHeartbeat.1.core, s.onHeartbeat.2) := by
  rw [onHeartbeat, EIBNetIPTunnel.onHeartbeat, if_pos hassigned]
  split
  · rfl
  · split <;> rfl

theorem dropMarker_core (h : s.dropMarker = .ok (s', as)) :
    s.core.dropMarker = (s'.core, as) := by
  rw [dropMarker] at h
  rw [EIBNetIPTunnel.dropMarker]
  split at h
  case isTrue hmarker =>
    obtain ⟨⟨c, s₁⟩, hget, h⟩ := Checked.bind_eq_ok.mp h
    obtain ⟨hqueue, -, hs₁⟩ := get_eq_ok hget
    rw [hqueue, List.head?_cons] at hmarker
    obtain rfl : c = [] := Option.some.inj hmarker
    rw [hqueue]
    cases h
    rw [hs₁]
  case isFalse hnone =>
    cases h
    split
    case h_1 inqueue hqueue => exact absurd (by rw [hqueue]; rfl) hnone
    case h_2 => rfl

theorem sendPhase_core (h : s.sendPhase = .ok (s', as)) :
    s.core.sendPhase = .ok (s'.core, as) := by
  obtain ⟨⟨core, actions⟩, hsend, h⟩ := Checked.bind_eq_ok.mp h
  cases h
  exact hsend

/-- A phase of the loop that handles no `CONNECTION_RESPONSE` is a phase of the connection. -/
theorem loop_phase {i : LoopInput} (hassigned : s.assigned = true)
    (hservice : ∀ p, i.p1 = some p → p.service ≠ Service.connectionResponse)
    (h : s.loop i = .ok (s', as)) : s.core.Phase s'.core as := by
  obtain ⟨⟨s₁, actions⟩, hact, h⟩ := Checked.bind_eq_ok.mp h
  cases h
  show s.core.Phase s₁.core as
  rw [act] at hact
  rcases hphase : s.phase with _ | _ | _ | _ | _
  · rw [hphase] at hact
    rcases hp : i.p1 with _ | p
    · rw [hp] at hact
      cases hact
      exact .idle
    · rw [hp] at hact
      exact .recv (recv_core (hservice p hp) hassigned hact)
  · rw [hphase] at hact
    dsimp only at hact
    split at hact
    · exact .timeout (onTimeout_core hact)
    · cases hact
      exact .idle
  · rw [hphase] at hact
    dsimp only at hact
    split at hact
    · exact .heartbeat (by rw [onHeartbeat_core hassigned, Except.ok.inj hact])
    · cases hact
      exact .idle
  · rw [hphase] at hact
    exact .marker (dropMarker_core hact)
  · rw [hphase] at hact
    exact .send (sendPhase_core hact)

end TunnelClient

/-! ## The server -/

/-- An action of the connection, as the server takes it; the others are bookkeeping. -/
def TunnelAction.wired (object : Nat) (dest : SockaddrIn) : TunnelAction → Option ServerAction
  | .send p => some (.send dest p)
  | .sendLData l => some (.sendLData { l with object })
  | _ => none

namespace ServerConn

variable {c c' : ServerConn} {as : List ServerAction}

@[simp] theorem tunnelConn_channel (c : ServerConn) : c.tunnelConn.channel = c.channel := rfl

@[simp] theorem tunnelConn_sno (c : ServerConn) : c.tunnelConn.sno = c.sno := rfl

@[simp] theorem tunnelConn_rno (c : ServerConn) : c.tunnelConn.rno = c.rno := rfl

@[simp] theorem tunnelConn_state (c : ServerConn) : c.tunnelConn.state = c.state := rfl

@[simp] theorem tunnelConn_out (c : ServerConn) : c.tunnelConn.out = c.out := rfl

theorem filterMap_wired_actions (object : Nat) (dest : SockaddrIn) (ind : ConnState.Indication)
    (cemi : CArray) : (ind.actions cemi).filterMap (TunnelAction.wired object dest) =
      ind.passed.toList.map fun l => .sendLData { l with object } := by
  obtain ⟨status, confirm, passed⟩ := ind
  rw [ConnState.Indication.actions]
  split <;> rcases confirm with _ | cemi' <;> rcases passed with _ | l <;> rfl

/-- A `TUNNEL_REQUEST` on the channel of the connection. -/
theorem onTunnelRequest_tunnelConn {object : Nat} {r : EIBnetTunnelRequest}
    (hchannel : r.channel = c.channel) (h : c.onTunnelRequest object r = .ok (c', as)) :
    ∃ actions, c.tunnelConn.onTunnelRequest r = .ok (c'.tunnelConn, actions) ∧
      as = actions.filterMap (TunnelAction.wired object c.daddr) := by
  rw [onTunnelRequest] at h
  rw [ConnState.onTunnelRequest, tunnelConn_channel, tunnelConn_rno, if_neg (not_not.mpr hchannel)]
  by_cases hrep : c.rno = r.seqno + 1#8
  · rw [if_pos hrep] at h
    cases h
    refine ⟨[.repeated, c.tunnelConn.answer r.seqno 0#8], if_pos hrep, ?_⟩
    rw [hchannel]
    rfl
  rw [if_neg hrep] at h ⊢
  by_cases hseqno : c.rno ≠ r.seqno
  · rw [if_pos hseqno] at h
    cases h
    exact ⟨[], if_pos hseqno, rfl⟩
  -- both answer, but the bookkeeping of the model is not on the wire
  · rw [if_neg hseqno] at h
    obtain ⟨ind, hind, h⟩ := Checked.bind_eq_ok.mp h
    refine ⟨ind.actions r.cemi ++ [c.tunnelConn.answer r.seqno ind.status], ?_, ?_⟩
    · cases h
      rw [if_neg hseqno, hind, Checked.ok_bind]
      rcases ind.confirm with _ | cemi
      · rw [Option.toList_none, List.append_nil]
        rfl
      · rfl
    · cases h
      rw [List.filterMap_append, filterMap_wired_actions, hchannel]
      rfl

/-- A `TUNNEL_RESPONSE` leads to nothing but the end of the transfer. -/
theorem onTunnelResponse_tunnelConn {r : EIBnetTunnelACK} (hchannel : r.channel = c.channel)
    (htype : c.type ≠ .device) (h : c.onTunnelResponse r = .ok (c', as)) :
    ∃ actions, c.tunnelConn.onTunnelResponse r = .ok (c'.tunnelConn, actions) ∧ as = [] := by
  rw [onTunnelResponse, onAck] at h
  rw [ConnState.onTunnelResponse, tunnelConn_channel, tunnelConn_sno, tunnelConn_state,
    tunnelConn_out, if_neg (not_not.mpr hchannel)]
  by_cases hseqno : c.sno ≠ r.seqno
  · rw [if_pos hseqno] at h ⊢
    cases h
    exact ⟨[], rfl, rfl⟩
  rw [if_neg hseqno] at h ⊢
  by_cases hstatus : r.status ≠ 0#8
  · rw [if_pos hstatus] at h ⊢
    cases h
    exact ⟨[], rfl, rfl⟩
  rw [if_neg hstatus] at h ⊢
  by_cases hstate : c.state = 0
  · rw [if_pos hstate] at h ⊢
    cases h
    exact ⟨[], rfl, rfl⟩
  rw [if_neg hstate] at h ⊢
  -- connections of the other two types are for tunnels
  have htunnel : decide (c.type = .linkLayer ∨ c.type = .busmonitor) ≠ false := by
    rcases htype' : c.type with _ | _ | _
    · decide
    · decide
    · exact absurd htype' htype
  rw [if_neg htunnel] at h
  obtain ⟨c₁, hget, h⟩ := Checked.bind_eq_ok.mp h
  cases h
  obtain ⟨cemi, rest, n, hout, -, rfl⟩ := get_eq_ok hget
  refine ⟨[.acked cemi], ?_, rfl⟩
  rw [Queue.get_eq_ok.mpr (show c.out = cemi :: rest from hout)]
  rfl

/-- The send phase of a connection for tunnels. -/
theorem sendPhase_tunnelConn {fresh : Nat → Byte} {now : Nat} (object : Nat)
    (htype : c.type ≠ .device) (h : c.sendPhase fresh now = .ok (c', as)) :
    ∃ actions, c.tunnelConn.sendPhase (c.sendtimeout ≤ now) = .ok (c'.tunnelConn, actions) ∧
      as = actions.filterMap (TunnelAction.wired object c.daddr) := by
  rw [ServerConn.sendPhase] at h
  rw [ConnState.sendPhase, tunnelConn_state, tunnelConn_out]
  simp only [decide_eq_true_eq]
  split at h
  case isTrue hdue =>
    rw [if_pos hdue]
    -- given up after the last repetition, or sent again
    split at h
    case isTrue hmany =>
      rw [if_pos hmany]
      obtain ⟨c₁, hget, h⟩ := Checked.bind_eq_ok.mp h
      cases h
      obtain ⟨cemi, rest, n, hout, -, rfl⟩ := get_eq_ok hget
      rw [Queue.get_eq_ok.mpr hout]
      exact ⟨[.dropped cemi], rfl, rfl⟩
    case isFalse hfew =>
      rw [if_neg hfew]
      obtain ⟨cemi, htop, h⟩ := Checked.bind_eq_ok.mp h
      cases h
      rw [htop]
      exact ⟨_, rfl, rfl⟩
  case isFalse hidle =>
    rw [if_neg hidle]
    cases h
    exact ⟨[], rfl, rfl⟩

end ServerConn

end BcuSdk.Eibd
