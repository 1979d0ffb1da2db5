/-
  BcuSdk.Eibd.EibNetServerTurn

  What a pass of `EIBnetServer::Run` can do to the table of connections.

  `ServerConn.Turn` says what happens to a connection that stays,
  `EIBnetServer.Received` sums up the packet handling over all services: some
  connections take a turn, or one is removed, or one is opened.  The three
  phases of a pass and the frames from Layer 3 are put into these terms here,
  and the invariants are derived from them.
-/
import BcuSdk.Eibd.EibNetServerRun
import Mathlib.Data.List.Forall2

namespace BcuSdk.Eibd

open BcuSdk.Lib

theorem compareIPAddress_eq {a b : SockaddrIn} (h : compareIPAddress a b) : a = b := by
  obtain ⟨fa, pa, aa⟩ := a
  obtain ⟨fb, pb, ab⟩ := b
  simp only [compareIPAddress, decide_eq_true_eq] at h
  obtain ⟨rfl, rfl, rfl, rfl⟩ := h
  rfl

/-! ## One connection -/

namespace ServerConn

variable {c c' : ServerConn} {as : List ServerAction}

/-- The semaphore counts the queue, and what is being sent is in the queue. -/
structure Sound (c : ServerConn) : Prop where
  signal : c.outsignal = c.out.length
  bounded : c.state ≤ 10
  pending : 0 < c.state → c.out ≠ []

/-- What a connection that stays in the table keeps. -/
structure Turn (c c' : ServerConn) : Prop where
  channel : c'.channel = c.channel
  type : c'.type = c.type
  sound : c.Sound → c'.Sound

theorem Turn.refl (c : ServerConn) : Turn c c := ⟨rfl, rfl, id⟩

theorem Turn.put (c : ServerConn) (cemi : CArray) : Turn c (c.put cemi) where
  channel := rfl
  type := rfl
  sound h :=
    ⟨by simp [ServerConn.put, h.signal], h.bounded, fun _ => by simp [ServerConn.put]⟩

/-- The numbers and the timers have no part in the invariant. -/
theorem Sound.congr (h : c.Sound) (hstate : c'.state = c.state) (hout : c'.out = c.out)
    (hsignal : c'.outsignal = c.outsignal) : c'.Sound :=
  ⟨by rw [hsignal, hout, h.signal], hstate ▸ h.bounded, by rw [hstate, hout]; exact h.pending⟩

/-- `get` on a connection with something in its queue. -/
theorem get_of_sound (hsignal : c.outsignal = c.out.length) (hout : c.out ≠ []) :
    ∃ cemi rest, c.out = cemi :: rest ∧
      c.get = .ok { c with out := rest, outsignal := rest.length } := by
  obtain ⟨cemi, rest, hcons⟩ := List.exists_cons_of_ne_nil hout
  refine ⟨cemi, rest, hcons, ?_⟩
  rw [get, hcons, Queue.get, Checked.ok_bind, hsignal, hcons]
  rfl

/-- The result of `get`. -/
theorem get_eq_ok (h : c.get = .ok c') :
    ∃ cemi rest n, c.out = cemi :: rest ∧ c.outsignal = n + 1 ∧
      c' = { c with out := rest, outsignal := n } := by
  obtain ⟨⟨cemi, rest⟩, hget, h⟩ := Checked.bind_eq_ok.mp h
  obtain ⟨n, hn, h⟩ := Checked.bind_eq_ok.mp h
  have hout := Queue.get_eq_ok.mp hget
  rcases hs : c.outsignal with _ | m
  · rw [hs] at hn
    cases hn
  · rw [hs] at hn
    cases hn
    cases h
    exact ⟨cemi, rest, n, hout, rfl, rfl⟩

/-- After `get` with `state` at 0 nothing is being sent. -/
theorem Sound.get {sno : Byte} (hs : c.Sound)
    (h : ({ c with sno, state := 0 } : ServerConn).get = .ok c') : c'.Sound := by
  obtain ⟨cemi, rest, n, hout, hn, rfl⟩ := get_eq_ok h
  have hout : c.out = cemi :: rest := hout
  have hn : c.outsignal = n + 1 := hn
  have hsignal := hs.signal
  refine ⟨?_, Nat.zero_le _, fun hpos => absurd hpos (Nat.lt_irrefl _)⟩
  rw [hout, hn, List.length_cons] at hsignal
  exact Nat.succ.inj hsignal

theorem onTunnelRequest_turn {object : Nat} {r : EIBnetTunnelRequest}
    (h : c.onTunnelRequest object r = .ok (c', as)) : Turn c c' := by
  rw [onTunnelRequest] at h
  split at h
  · cases h
    exact .refl c
  · split at h
    · cases h
      exact .refl c
    · obtain ⟨ind, -, h⟩ := Checked.bind_eq_ok.mp h
      cases h
      rcases ind.confirm with _ | cemi
      · exact ⟨rfl, rfl, fun hs => hs.congr rfl rfl rfl⟩
      · exact ⟨rfl, rfl, fun hs => ((Turn.put c cemi).sound hs).congr rfl rfl rfl⟩

theorem onAck_turn {types : ClientType → Bool} {seqno status : Byte}
    (h : c.onAck types seqno status = .ok (c', as)) : Turn c c' := by
  rw [onAck] at h
  split at h
  · cases h
    exact .refl c
  · split at h
    · cases h
      exact .refl c
    · split at h
      · cases h
        exact .refl c
      · split at h
        · cases h
          exact .refl c
        · obtain ⟨c₁, hget, h⟩ := Checked.bind_eq_ok.mp h
          cases h
          refine ⟨?_, ?_, fun hs => hs.get hget⟩
          all_goals
            obtain ⟨cemi, rest, n, -, -, rfl⟩ := get_eq_ok hget
            rfl

theorem onConfigRequest_turn {r : EIBnetConfigRequest} {fresh : Nat → Byte}
    (h : c.onConfigRequest r fresh = .ok (c', as)) : Turn c c' := by
  rw [onConfigRequest] at h
  split at h
  · cases h
    exact .refl c
  · split at h
    · cases h
      exact .refl c
    · split at h
      · obtain ⟨code, -, h⟩ := Checked.bind_eq_ok.mp h
        split at h
        · obtain ⟨cemi, -, h⟩ := Checked.bind_eq_ok.mp h
          cases h
          exact ⟨rfl, rfl, fun hs => ((Turn.put c cemi).sound hs).congr rfl rfl rfl⟩
        · cases h
          exact ⟨rfl, rfl, fun hs => hs.congr rfl rfl rfl⟩
      · cases h
        exact ⟨rfl, rfl, fun hs => hs.congr rfl rfl rfl⟩

/-- An acknowledgement never finds the queue empty. -/
theorem Sound.onAck_returns (h : c.Sound) (types : ClientType → Bool) (seqno status : Byte) :
    (c.onAck types seqno status).Returns := by
  rw [onAck]
  split
  · exact ⟨_, rfl⟩
  · split
    · exact ⟨_, rfl⟩
    · split
      · exact ⟨_, rfl⟩
      case isFalse hstate =>
        split
        · exact ⟨_, rfl⟩
        · obtain ⟨cemi, rest, -, hget⟩ := @get_of_sound
            { c with sno := c.sno + 1#8, state := 0 } h.signal (h.pending (by omega))
          exact ⟨_, by rw [hget]; rfl⟩

/-- The send phase returns, and never finds the queue empty. -/
theorem Sound.sendPhase_returns (h : c.Sound) (fresh : Nat → Byte) (now : Nat) :
    (c.sendPhase fresh now).Returns := by
  rw [ServerConn.sendPhase]
  split
  case isTrue hdue =>
    -- what is sent again is still in the queue
    have hout : c.out ≠ [] := by
      rcases hdue with ⟨hstate, -⟩ | ⟨-, hout⟩
      · exact h.pending (by omega)
      · exact hout
    split
    · obtain ⟨cemi, rest, -, hget⟩ := get_of_sound h.signal hout
      exact ⟨_, by rw [hget]; rfl⟩
    · obtain ⟨cemi, rest, hcons⟩ := List.exists_cons_of_ne_nil hout
      exact ⟨_, by rw [hcons]; rfl⟩
  case isFalse => exact ⟨_, rfl⟩

theorem sendPhase_turn {fresh : Nat → Byte} {now : Nat}
    (h : c.sendPhase fresh now = .ok (c', as)) : Turn c c' := by
  rw [ServerConn.sendPhase] at h
  split at h
  case isTrue hdue =>
    split at h
    · obtain ⟨c₁, hget, h⟩ := Checked.bind_eq_ok.mp h
      cases h
      obtain ⟨cemi, rest, n, hout, hn, rfl⟩ := get_eq_ok hget
      -- given up: nothing is being sent any more
      refine ⟨rfl, rfl, fun hs => ⟨?_, Nat.zero_le _, fun h0 => absurd h0 (Nat.lt_irrefl _)⟩⟩
      have hsignal := hs.signal
      rw [hout, hn, List.length_cons] at hsignal
      exact Nat.succ.inj hsignal
    case isFalse hbound =>
      obtain ⟨cemi, htop, h⟩ := Checked.bind_eq_ok.mp h
      cases h
      obtain ⟨rest, hout⟩ := Queue.top_eq_ok.mp htop
      refine ⟨rfl, rfl, fun hs => ⟨hs.signal, by show c.state + 1 ≤ 10; omega, fun _ => ?_⟩⟩
      rw [hout]
      exact List.cons_ne_nil _ _
  case isFalse =>
    cases h
    exact .refl c

end ServerConn

/-! ## The packet handling -/

/-- One element of a list changes. -/
theorem forall₂_set {α : Type} {R : α → α → Prop} (hrefl : ∀ a, R a a) {l : List α} {i : Nat}
    {a b : α} (hi : l[i]? = some a) (h : R a b) : List.Forall₂ R l (l.set i b) := by
  induction l generalizing i with
  | nil => cases hi
  | cons x l ih =>
      cases i with
      | zero =>
          cases hi
          exact .cons h (List.forall₂_same.mpr fun x _ => hrefl x)
      | succ i => exact .cons (hrefl x) (ih hi)

/-- What related elements have in common, two lists of them have. -/
theorem map_eq_of_forall₂ {α β : Type} {R : α → α → Prop} {f : α → β} {l l' : List α}
    (hf : ∀ a b, R a b → f b = f a) (h : List.Forall₂ R l l') : l'.map f = l.map f := by
  induction h with
  | nil => rfl
  | cons hab _ ih => rw [List.map_cons, List.map_cons, hf _ _ hab, ih]

namespace EIBnetServer

variable {s s' : EIBnetServer} {as : List ServerAction}

/-- `src` is the control or the data endpoint of the connection. -/
def FromPeer (src : SockaddrIn) (c : ServerConn) : Prop := src = c.caddr ∨ src = c.daddr

/-- The connection is left alone, or takes a turn on a packet of its peer. -/
def Touched (src : SockaddrIn) (c c' : ServerConn) : Prop := c' = c ∨ FromPeer src c ∧ c.Turn c'

/-- What the packet handling can make of the connections. -/
inductive Received (s : EIBnetServer) (p : ReceivedPacket) (now : Nat) (accepted : Bool) :
    EIBnetServer → Prop
  | turned {s' : EIBnetServer} (hstate : List.Forall₂ (Touched p.src) s.state s'.state)
      (hcount : s'.busmoncount = s.busmoncount) (hmonitor : s'.vbusmonitor = s.vbusmonitor) :
      Received s p now accepted s'
  | removed {i : Nat} {c : ServerConn} (hc : s.state[i]? = some c) (hsrc : FromPeer p.src c) :
      Received s p now accepted (s.removeClient i).1
  | opened {r1 : EIBnetConnectRequest} (hservice : p.service = Service.connectionRequest)
      (hparse : EIBnetConnectRequest.parse p {} = .ok (some r1)) :
      Received s p now accepted (s.openClient r1 now accepted).2.1

theorem Touched.refl (src : SockaddrIn) (c : ServerConn) : Touched src c c := .inl rfl

theorem Touched.turn {src : SockaddrIn} {c c' : ServerConn} (h : Touched src c c') : c.Turn c' := by
  rcases h with rfl | ⟨-, h⟩
  · exact .refl c'
  · exact h

theorem addNAT_eq (s : EIBnetServer) (l : LDataPDU) (now : Nat) :
    ∃ entries, s.addNAT l now = { s with natstate := entries } := by
  rw [addNAT]
  split
  · exact ⟨s.natstate, rfl⟩
  · split
    · exact ⟨_, rfl⟩
    · exact ⟨_, rfl⟩

/-- A packet that is dropped has no effect, and a frame that goes on is noted among the NAT
    entries. -/
theorem onRoutingIndication_cases {data : CArray} {now : Nat}
    (h : s.onRoutingIndication data now = .ok (s', as)) :
    s' = s ∨ ∃ c, data[0]? = some 0x29#8 ∧ cemiToLData data = .ok (some c) ∧ c.hopcount ≠ 0#8 ∧
      s' = s.addNAT c.decHopcount now := by
  rw [onRoutingIndication] at h
  split at h
  · cases h
    exact .inl rfl
  · obtain ⟨code, hread, h⟩ := Checked.bind_eq_ok.mp h
    split at h
    · cases h
      exact .inl rfl
    -- the frame is complete, or it is dropped
    · next hcode =>
      obtain ⟨l, hframe, h⟩ := Checked.bind_eq_ok.mp h
      rcases l with _ | c
      · cases h
        exact .inl rfl
      · obtain ⟨_, -, h⟩ := Checked.bind_eq_ok.mp h
        split at h
        · cases h
          exact .inl rfl
        -- it may go on
        · next hhop =>
          cases h
          have hdata := getElem?_of_readByte hread
          rw [not_not.mp hcode] at hdata
          exact .inr ⟨c, hdata, hframe, hhop, rfl⟩

/-- The answer does not change the server. -/
theorem onConnectionRequest_fst (s : EIBnetServer) (r1 : EIBnetConnectRequest) (now : Nat)
    (accepted : Bool) :
    (s.onConnectionRequest r1 now accepted).1 = (s.openClient r1 now accepted).2.1 := by
  rw [onConnectionRequest]
  rcases s.sourceAddress r1.caddr with _ | src <;> rfl

namespace Received

variable {p : ReceivedPacket} {now : Nat} {accepted : Bool}

/-- The connections are as before. -/
theorem unchanged (hstate : s'.state = s.state) (hcount : s'.busmoncount = s.busmoncount)
    (hmonitor : s'.vbusmonitor = s.vbusmonitor) : Received s p now accepted s' := by
  refine .turned ?_ hcount hmonitor
  rw [hstate]
  exact List.forall₂_same.mpr fun c _ => Touched.refl p.src c

theorem onRoutingIndication {data : CArray}
    (h : s.onRoutingIndication data now = .ok (s', as)) : Received s p now accepted s' := by
  rcases onRoutingIndication_cases h with rfl | ⟨c, -, -, -, rfl⟩
  · exact .unchanged rfl rfl rfl
  · -- only the NAT entries change
    obtain ⟨entries, heq⟩ := addNAT_eq s c.decHopcount now
    rw [heq]
    exact .unchanged rfl rfl rfl

theorem onConnectionStateRequest {r1 : EIBnetConnectionStateRequest} :
    Received s p now accepted (s.onConnectionStateRequest p.src r1 now).1 := by
  refine .turned ?_ rfl rfl
  -- the timer starts again for each connection with the channel and the control endpoint
  show List.Forall₂ (Touched p.src) s.state (s.state.map _)
  rw [List.forall₂_map_right_iff]
  refine List.forall₂_same.mpr fun c _ => ?_
  split
  case isTrue hknown =>
    have hsrc : p.src = c.caddr := compareIPAddress_eq (of_decide_eq_true hknown).2
    exact .inr ⟨.inl hsrc, rfl, rfl, fun hs => hs.congr rfl rfl rfl⟩
  case isFalse => exact .refl p.src c

theorem onDisconnectRequest {r1 : EIBnetDisconnectRequestFrom}
    (h : s.onDisconnectRequest p.src r1 = (s', as)) : Received s p now accepted s' := by
  rw [EIBnetServer.onDisconnectRequest] at h
  split at h
  case h_1 i hi =>
    cases h
    obtain ⟨hlt, hc, -⟩ := List.findIdx?_eq_some_iff_getElem.mp hi
    have hsrc : p.src = s.state[i].caddr := compareIPAddress_eq (of_decide_eq_true hc).2
    exact .removed (List.getElem?_eq_getElem hlt) (.inl hsrc)
  case h_2 =>
    cases h
    exact .unchanged rfl rfl rfl

theorem onConnectionRequest {r1 : EIBnetConnectRequest}
    (hservice : p.service = Service.connectionRequest)
    (hparse : EIBnetConnectRequest.parse p {} = .ok (some r1))
    (h : s.onConnectionRequest r1 now accepted = (s', as)) : Received s p now accepted s' := by
  obtain rfl : (s.onConnectionRequest r1 now accepted).1 = s' := congrArg Prod.fst h
  rw [onConnectionRequest_fst]
  exact .opened hservice hparse

/-- The lookup passes the connection on to a handler whose packets come from its data endpoint. -/
theorem onConnection {channel : Byte}
    {f : ServerConn → Checked (ServerConn × List ServerAction)}
    (hf : ∀ c c' as, f c = .ok (c', as) → c.Turn c')
    (h : s.onConnection p.src channel f = .ok (s', as)) : Received s p now accepted s' := by
  rw [EIBnetServer.onConnection] at h
  split at h
  · cases h
    exact .unchanged rfl rfl rfl
  · split at h
    · cases h
    case h_2 c hc =>
      split at h
      case isTrue hsrc =>
        obtain ⟨⟨c', actions⟩, hturn, h⟩ := Checked.bind_eq_ok.mp h
        cases h
        have htouched : Touched p.src c c' :=
          .inr ⟨.inr (compareIPAddress_eq hsrc), hf c c' _ hturn⟩
        exact .turned (forall₂_set (Touched.refl p.src) hc htouched) rfl rfl
      case isFalse =>
        cases h
        exact .unchanged rfl rfl rfl

end Received

/-- The services of the packet handling: at most one of them has its turn. -/
inductive Served (s : EIBnetServer) (p : ReceivedPacket) (now : Nat) (accepted : Bool) :
    EIBnetServer → List ServerAction → Prop
  /-- A packet that is refused, or one of the discovery services. -/
  | unchanged {as : List ServerAction} : Served s p now accepted s as
  | routing {s' : EIBnetServer} {as : List ServerAction}
      (hservice : p.service = Service.routingIndication ∧ s.route)
      (h : s.onRoutingIndication p.data now = .ok (s', as)) : Served s p now accepted s' as
  | connectionState (r1 : EIBnetConnectionStateRequest) :
      Served s p now accepted (s.onConnectionStateRequest p.src r1 now).1
        (s.onConnectionStateRequest p.src r1 now).2
  | disconnect {r1 : EIBnetDisconnectRequestFrom} {s' : EIBnetServer} {as : List ServerAction}
      (h : s.onDisconnectRequest p.src r1 = (s', as)) : Served s p now accepted s' as
  | connect {r1 : EIBnetConnectRequest} {s' : EIBnetServer} {as : List ServerAction}
      (hservice : p.service = Service.connectionRequest)
      (hparse : EIBnetConnectRequest.parse p {} = .ok (some r1))
      (h : s.onConnectionRequest r1 now accepted = (s', as)) : Served s p now accepted s' as
  | tunnelRequest {r1 : EIBnetTunnelRequest} {s' : EIBnetServer} {as : List ServerAction}
      (h : s.onConnection p.src r1.channel (·.onTunnelRequest s.object r1) = .ok (s', as)) :
      Served s p now accepted s' as
  | tunnelResponse {r1 : EIBnetTunnelACK} {s' : EIBnetServer} {as : List ServerAction}
      (h : s.onConnection p.src r1.channel (·.onTunnelResponse r1) = .ok (s', as)) :
      Served s p now accepted s' as
  | configRequest {r1 : EIBnetConfigRequest} {s' : EIBnetServer} {as : List ServerAction}
      (h : s.onConnection p.src r1.channel (·.onConfigRequest r1 s.fresh) = .ok (s', as)) :
      Served s p now accepted s' as
  | configACK {r1 : EIBnetConfigACK} {s' : EIBnetServer} {as : List ServerAction}
      (h : s.onConnection p.src r1.channel (·.onConfigACK r1) = .ok (s', as)) :
      Served s p now accepted s' as

/-- A packet that is refused has no effect. -/
theorem Served.parsed {p : ReceivedPacket} {now : Nat} {accepted : Bool} {α : Type}
    {x : Checked (Option α)} {g : Option α → Checked (EIBnetServer × List ServerAction)}
    (hnone : g none = .ok (s, []))
    (hsome : ∀ r1, x = .ok (some r1) → g (some r1) = .ok (s', as) → Served s p now accepted s' as)
    (h : (x >>= g) = .ok (s', as)) : Served s p now accepted s' as := by
  obtain ⟨r1, hparse, h⟩ := Checked.bind_eq_ok.mp h
  rcases r1 with _ | r1
  · cases hnone.symm.trans h
    exact .unchanged
  · exact hsome r1 hparse h

theorem recv_served {p : ReceivedPacket} {now : Nat} {accepted : Bool}
    (h : s.recv p now accepted = .ok (s', as)) : Served s p now accepted s' as := by
  -- the services in the order of the switch
  rw [recv] at h
  by_cases hsearch : p.service = Service.searchRequest ∧ s.discover
  · rw [if_pos hsearch] at h
    refine .parsed rfl (fun r1 _ h => ?_) h
    cases h
    exact .unchanged
  rw [if_neg hsearch] at h
  by_cases hdescription : p.service = Service.descriptionRequest ∧ s.discover
  · rw [if_pos hdescription] at h
    refine .parsed rfl (fun r1 _ h => ?_) h
    cases h
    exact .unchanged
  rw [if_neg hdescription] at h
  by_cases hrouting : p.service = Service.routingIndication ∧ s.route
  · rw [if_pos hrouting] at h
    exact .routing hrouting h
  rw [if_neg hrouting] at h
  by_cases hstate : p.service = Service.connectionStateRequest
  · rw [if_pos hstate] at h
    refine .parsed rfl (fun r1 _ h => ?_) h
    cases h
    exact .connectionState r1
  rw [if_neg hstate] at h
  by_cases hdisconnect : p.service = Service.disconnectRequest
  · rw [if_pos hdisconnect] at h
    exact .parsed rfl (fun r1 _ h => .disconnect (Except.ok.inj h)) h
  rw [if_neg hdisconnect] at h
  by_cases hconnect : p.service = Service.connectionRequest
  · rw [if_pos hconnect] at h
    exact .parsed rfl (fun r1 hparse h => .connect hconnect hparse (Except.ok.inj h)) h
  rw [if_neg hconnect] at h
  by_cases htunnel : p.service = Service.tunnelRequest ∧ s.tunnel
  · rw [if_pos htunnel] at h
    exact .parsed rfl (fun r1 _ h => .tunnelRequest h) h
  rw [if_neg htunnel] at h
  by_cases hack : p.service = Service.tunnelResponse ∧ s.tunnel
  · rw [if_pos hack] at h
    exact .parsed rfl (fun r1 _ h => .tunnelResponse h) h
  rw [if_neg hack] at h
  by_cases hconfig : p.service = Service.deviceConfigurationRequest
  · rw [if_pos hconfig] at h
    exact .parsed rfl (fun r1 _ h => .configRequest h) h
  rw [if_neg hconfig] at h
  by_cases hconfigAck : p.service = Service.deviceConfigurationAck
  · rw [if_pos hconfigAck] at h
    exact .parsed rfl (fun r1 _ h => .configACK h) h
  rw [if_neg hconfigAck] at h
  cases h
  exact .unchanged

/-- The packet handling, whatever the service is. -/
theorem recv_received {p : ReceivedPacket} {now : Nat} {accepted : Bool}
    (h : s.recv p now accepted = .ok (s', as)) : Received s p now accepted s' := by
  cases recv_served h with
  | unchanged => exact .unchanged rfl rfl rfl
  | routing _ h => exact .onRoutingIndication h
  | connectionState => exact .onConnectionStateRequest
  | disconnect h => exact .onDisconnectRequest h
  | connect hservice hparse h => exact .onConnectionRequest hservice hparse h
  | tunnelRequest h => exact .onConnection (fun _ _ _ => ServerConn.onTunnelRequest_turn) h
  | tunnelResponse h => exact .onConnection (fun _ _ _ => ServerConn.onAck_turn) h
  | configRequest h => exact .onConnection (fun _ _ _ => ServerConn.onConfigRequest_turn) h
  | configACK h => exact .onConnection (fun _ _ _ => ServerConn.onAck_turn) h

/-! ## The other phases of a pass -/

/-- All connections stay, and each takes a turn. -/
structure Turned (s s' : EIBnetServer) : Prop where
  state : List.Forall₂ ServerConn.Turn s.state s'.state
  busmoncount : s'.busmoncount = s.busmoncount
  vbusmonitor : s'.vbusmonitor = s.vbusmonitor

theorem sendAll_turned {now : Nat} (h : s.sendAll now = .ok (s', as)) : Turned s s' := by
  obtain ⟨turns, hturns, h⟩ := Checked.bind_eq_ok.mp h
  cases h
  refine ⟨?_, rfl, rfl⟩
  show List.Forall₂ ServerConn.Turn s.state (turns.map (·.1))
  rw [List.forall₂_map_right_iff]
  exact (Checked.mapM_eq_ok hturns).imp fun c turn h => ServerConn.sendPhase_turn h

/-- A frame from Layer 3 is put into queues of connections of type 0, and nothing else happens. -/
theorem getLData_cases {l : LDataPDU} (h : s.getLData l = .ok (s', as)) :
    ∃ state, s' = { s with state } ∧
      List.Forall₂ (fun c c' => c' = c ∨ c.type = .linkLayer ∧ ∃ cemi, c' = c.put cemi)
        s.state state := by
  rw [getLData] at h
  split at h
  · cases h
    exact ⟨s.state, rfl, List.forall₂_same.mpr fun c _ => .inl rfl⟩
  · split at h
    · cases h
      exact ⟨s.state, rfl, List.forall₂_same.mpr fun c _ => .inl rfl⟩
    · obtain ⟨routed, -, h⟩ := Checked.bind_eq_ok.mp h
      obtain ⟨state, hstate, h⟩ := Checked.bind_eq_ok.mp h
      cases h
      refine ⟨state, rfl, (Checked.mapM_eq_ok hstate).imp fun c c' h => ?_⟩
      split at h
      -- only connections of type 0 get the frame
      · next htype =>
        obtain ⟨cemi, -, h⟩ := Checked.bind_eq_ok.mp h
        cases h
        exact .inr ⟨htype, cemi, rfl⟩
      · cases h
        exact .inl rfl

theorem getLData_turned {l : LDataPDU} (h : s.getLData l = .ok (s', as)) : Turned s s' := by
  obtain ⟨state, rfl, hstate⟩ := getLData_cases h
  refine ⟨hstate.imp ?_, rfl, rfl⟩
  rintro c c' (rfl | ⟨-, cemi, rfl⟩)
  · exact .refl c'
  · exact .put c cemi

theorem getLBusmonitor_turned (s : EIBnetServer) (l : LBusmonitorPDU) :
    Turned s (s.getLBusmonitor l) := by
  refine ⟨?_, rfl, rfl⟩
  show List.Forall₂ ServerConn.Turn s.state (s.state.map _)
  rw [List.forall₂_map_right_iff]
  refine List.forall₂_same.mpr fun c _ => ?_
  split
  · exact ⟨rfl, rfl, fun hs =>
      ((ServerConn.Turn.put c (busmonitorToCEMI 0x2B#8 l c.no)).sound hs).congr rfl rfl rfl⟩
  · exact .refl c

/-- The packet handling of a pass. -/
def handle (s : EIBnetServer) (p1 : Option ReceivedPacket) (now : Nat) (accepted : Bool) :
    Checked (EIBnetServer × List ServerAction) :=
  match p1 with
  | some p => recv { s with natstate := expireNAT now s.natstate } p now accepted
  | none => .ok ({ s with natstate := expireNAT now s.natstate }, [])

/-- The three phases of a pass. -/
theorem pass_eq (s : EIBnetServer) (p1 : Option ReceivedPacket) (now : Nat) (accepted : Bool) :
    s.pass p1 now accepted = (do
      let (s₁, received) ← s.handle p1 now accepted
      let (s₂, sent) ← (s₁.expireClient now).1.sendAll now
      return (s₂, received ++ (s₁.expireClient now).2 ++ sent)) := by
  rcases p1 with _ | p <;> rfl

/-- The states a pass goes through. -/
theorem step_pass_eq_ok {p1 : Option ReceivedPacket} {now : Nat} {accepted : Bool} :
    s.step (.pass p1 now accepted) = .ok s' ↔
      ∃ s₁ received sent, s.handle p1 now accepted = .ok (s₁, received) ∧
        (s₁.expireClient now).1.sendAll now = .ok (s', sent) := by
  rw [step, pass_eq]
  constructor
  · intro h
    obtain ⟨⟨s₂, as⟩, h, hs'⟩ := Checked.bind_eq_ok.mp h
    obtain ⟨⟨s₁, received⟩, hhandle, h⟩ := Checked.bind_eq_ok.mp h
    obtain ⟨⟨s₃, sent⟩, hsend, h⟩ := Checked.bind_eq_ok.mp h
    cases h
    cases hs'
    exact ⟨s₁, received, sent, hhandle, hsend⟩
  · rintro ⟨s₁, received, sent, hhandle, hsend⟩
    rw [hhandle, Checked.ok_bind]
    dsimp only
    rw [hsend]
    rfl

/-- At most one connection times out in a pass. -/
theorem expireClient_eq (s : EIBnetServer) (now : Nat) :
    (s.expireClient now).1 = s ∨ ∃ i, (s.expireClient now).1 = (s.removeClient i).1 := by
  rw [expireClient]
  split
  · exact .inr ⟨_, rfl⟩
  · exact .inl rfl

end EIBnetServer

end BcuSdk.Eibd
