/-
  BcuSdk.Eibd.EibNetTunnelRunTurn

  What one step of `EIBNetIPTunnel` can do to its queue and to its socket.

  `QueueMove` and `SocketMove` list the possibilities.  The `_move` lemmas say
  that each branch of `Run` and each call from another thread is one of them,
  and `step_move` puts them together; nothing else is used about a step.
-/
import BcuSdk.Eibd.EibNetTunnelRun
import BcuSdk.Eibd.TunnelTurn

namespace BcuSdk.Eibd

open BcuSdk.Lib

/-- The action neither sends a frame nor removes one. -/
def TunnelAction.Silent : TunnelAction → Prop
  | .send p => p.service ≠ Service.tunnelRequest
  | .acked _ | .dropped _ => False
  | _ => True

theorem TunnelAction.Quiet.silent {x : TunnelAction} (h : x.Quiet) : x.Silent := by
  cases x with
  | control | connect | sendLData | out => trivial
  | send | taken | refused | repeated | put | acked | dropped => exact h.elim

theorem filterMap_of_silent {as : List TunnelAction} (h : ∀ x ∈ as, x.Silent) :
    as.filterMap TunnelAction.tunnelRequest = [] := by
  rw [List.filterMap_eq_nil_iff]
  intro x hx
  have hsilent := h x hx
  cases x with
  | send p => exact if_neg hsilent
  | _ => rfl

/-- A frame from the server ends the wait for a confirmation at most. -/
theorem EIBNetIPTunnel.indication_core {s s' : EIBNetIPTunnel} {cemi : CArray}
    {outs : List TunnelAction} (h : s.indication cemi = .ok (s', outs)) :
    s' = s ∨ s.mod = .confirmWait ∧ s' = { s with mod := .idle } := by
  obtain ⟨code, -, h⟩ := Checked.bind_eq_ok.mp h
  -- only a confirmation changes the state
  split at h
  · cases h
    split
    case isTrue hmod => exact .inr ⟨hmod, rfl⟩
    case isFalse => exact .inl rfl
  · split at h
    · obtain ⟨l, -, h⟩ := Checked.bind_eq_ok.mp h
      cases h
      exact .inl rfl
    · split at h
      · cases h
        exact .inl rfl
      · obtain ⟨l, -, h⟩ := Checked.bind_eq_ok.mp h
        split at h
        · obtain ⟨outs, -, h⟩ := Checked.bind_eq_ok.mp h
          cases h
          exact .inl rfl
        · cases h
          exact .inl rfl

namespace TunnelClient

variable {s s' : TunnelClient} {as : List TunnelAction}

/-! ## Moves -/

/-- What a step can do to the queue; `marked` says that the client is about to send a marker. -/
inductive QueueMove (marked : Prop) (s s' : TunnelClient) (as : List TunnelAction) : Prop
  | keeps (inqueue : s'.core.inqueue = s.core.inqueue) (insignal : s'.insignal = s.insignal)
      (pending : s'.core.mod = .ackWait → s.core.mod = .ackWait ∧
        s'.core.channel = s.core.channel ∧ s'.core.sno = s.core.sno)
      (silent : ∀ x ∈ as, x.Silent)
  /-- The frame in front is acknowledged or given up. -/
  | gets {c : CArray} {x : TunnelAction} {after : List TunnelAction}
      (inqueue : s.core.inqueue = c :: s'.core.inqueue) (insignal : s.insignal = s'.insignal + 1)
      (pending : s.core.mod = .ackWait) (done : s'.core.mod ≠ .ackWait)
      (removes : x = .acked c ∨ x = .dropped c) (actions : as = x :: after)
      (silent : ∀ x ∈ after, x.Silent)
  | drops {after : List TunnelAction} (inqueue : s.core.inqueue = [] :: s'.core.inqueue)
      (insignal : s.insignal = s'.insignal + 1) (mod : s'.core.mod = s.core.mod)
      (actions : as = .dropped [] :: after) (silent : ∀ x ∈ after, x.Silent)
  | sends {c : CArray} {rest : List CArray} (inqueue : s.core.inqueue = c :: rest)
      (same : s'.core.inqueue = s.core.inqueue) (insignal : s'.insignal = s.insignal)
      (pending : s'.core.mod = .ackWait) (marked : c = [] → marked)
      (actions : as = [.send ({ channel := s'.core.channel, seqno := s'.core.sno, cemi := c } :
        EIBnetTunnelRequest).toPacket])
  | puts {c : CArray} (inqueue : s'.core.inqueue = s.core.inqueue ++ [c])
      (insignal : s'.insignal = s.insignal + 1) (mod : s'.core.mod = s.core.mod)
      (channel : s'.core.channel = s.core.channel) (sno : s'.core.sno = s.core.sno)
      (silent : ∀ x ∈ as, x.Silent)

/-- What a step can do to the socket; `repetition` says that it answers a repetition. -/
inductive SocketMove (repetition : Prop) (s s' : TunnelClient) : Prop
  | keeps (sock : s'.sock = s.sock) (daddr : s'.daddr = s.daddr)
      (mod : s.core.mod = .notConnected → s'.core.mod = .notConnected)
  | closes (mod : s'.core.mod = .notConnected)
  | opens (recvall : s'.sock.recvall = 3) (recvaddr2 : s'.sock.recvaddr2 = s'.daddr)
  | deafens (repetition : repetition)

/-- The control endpoint does not change, and the socket knows it. -/
structure SameServer (s s' : TunnelClient) : Prop where
  caddr : s'.caddr = s.caddr
  recvaddr : s'.sock.recvaddr = s.sock.recvaddr

/-- What a step can do. -/
structure Move (repetition marked : Prop) (s s' : TunnelClient) (as : List TunnelAction) :
    Prop where
  queue : QueueMove marked s s' as
  socket : SocketMove repetition s s'
  server : SameServer s s'

theorem Move.refl (repetition marked : Prop) (s : TunnelClient) :
    Move repetition marked s s [] where
  queue := .keeps rfl rfl (fun h => ⟨h, rfl, rfl⟩) (List.forall_mem_nil _)
  socket := .keeps rfl rfl id
  server := ⟨rfl, rfl⟩

/-- A move under other conditions, and into another phase. -/
theorem Move.imp {p p' q q' : Prop} (h : Move p q s s' as) (hp : p → p') (hq : q → q')
    (phase : TunnelPhase) : Move p' q' s { s' with phase } as := by
  obtain ⟨hqueue, hsocket, hserver⟩ := h
  refine ⟨?_, ?_, hserver.caddr, hserver.recvaddr⟩
  · cases hqueue with
    | keeps inqueue insignal pending silent => exact .keeps inqueue insignal pending silent
    | gets inqueue insignal pending done removes actions silent =>
        exact .gets inqueue insignal pending done removes actions silent
    | drops inqueue insignal mod actions silent => exact .drops inqueue insignal mod actions silent
    | sends inqueue same insignal pending marked actions =>
        exact .sends inqueue same insignal pending (fun hc => hq (marked hc)) actions
    | puts inqueue insignal mod channel sno silent =>
        exact .puts inqueue insignal mod channel sno silent
  · cases hsocket with
    | keeps sock daddr mod => exact .keeps sock daddr mod
    | closes mod => exact .closes mod
    | opens recvall recvaddr2 => exact .opens recvall recvaddr2
    | deafens repetition => exact .deafens (hp repetition)

/-- The connection is over; no frame is waited for any more. -/
theorem Move.close (repetition marked : Prop) (s : TunnelClient) (has : ∀ x ∈ as, x.Silent) :
    Move repetition marked s s.close as where
  queue := .keeps rfl rfl (fun hack => nomatch hack) has
  socket := .closes rfl
  server := ⟨rfl, rfl⟩

theorem Move.hangUp (repetition marked : Prop) (s : TunnelClient) :
    Move repetition marked s s.hangUp.1 s.hangUp.2 :=
  .close _ _ s (List.forall_mem_singleton.mpr trivial)

/-- A counter or a flag changes that neither the queue nor the socket depends on. -/
theorem Move.ofCore (repetition marked : Prop) {core : EIBNetIPTunnel}
    (hqueue : core.inqueue = s.core.inqueue) (hmod : core.mod = s.core.mod)
    (hchannel : core.channel = s.core.channel) (hsno : core.sno = s.core.sno)
    (has : ∀ x ∈ as, x.Silent) : Move repetition marked s { s with core } as where
  queue := .keeps hqueue rfl (fun hack => ⟨hmod ▸ hack, hchannel, hsno⟩) has
  socket := .keeps rfl rfl fun h0 => hmod.trans h0
  server := ⟨rfl, rfl⟩

theorem get_eq_ok {c : CArray} (h : s.get = .ok (c, s')) :
    s.core.inqueue = c :: s'.core.inqueue ∧ s.insignal = s'.insignal + 1 ∧
      s' = { s with
        insignal := s'.insignal
        core := { s.core with inqueue := s'.core.inqueue } } := by
  obtain ⟨insignal, hsignal, h⟩ := Checked.bind_eq_ok.mp h
  obtain ⟨⟨c₁, inqueue⟩, hget, h⟩ := Checked.bind_eq_ok.mp h
  cases h
  refine ⟨Queue.get_eq_ok.mp hget, ?_, rfl⟩
  rcases hs : s.insignal with _ | n
  · rw [hs] at hsignal
    cases hsignal
  · rw [hs] at hsignal
    cases hsignal
    rfl

/-! ### Packets -/

theorem onConnectResponse_move {repetition marked : Prop} {p : ReceivedPacket}
    (h : s.onConnectResponse p = .ok (s', as)) : Move repetition marked s s' as := by
  rw [onConnectResponse] at h
  split at h
  · cases h
    exact .refl _ _ s
  case isFalse hmod =>
    have hmod := not_not.mp hmod
    obtain ⟨parsed, -, h⟩ := Checked.bind_eq_ok.mp h
    obtain ⟨crespNat, -, h⟩ := Checked.bind_eq_ok.mp h
    -- as long as nothing is opened, no frame is being sent
    have hpending : s.core.mod = .ackWait → False := fun hack => nomatch hmod.symm.trans hack
    have hrefused : Move repetition marked s { s with crespNat } [] :=
      ⟨.keeps rfl rfl (fun hack => (hpending hack).elim) (List.forall_mem_nil _),
        .keeps rfl rfl id, rfl, rfl⟩
    dsimp only at h
    split at h
    · cases h
      exact hrefused
    · split at h
      · split at h
        · -- busmonitors are not supported: a plain connection is asked for
          cases h
          exact ⟨.keeps rfl rfl (fun hack => (hpending hack).elim)
            (List.forall_mem_singleton.mpr trivial), .keeps rfl rfl id, rfl, rfl⟩
        · cases h
          exact hrefused
      · split at h
        · cases h
          exact ⟨.keeps rfl rfl (fun hack => nomatch hack) (List.forall_mem_nil _),
            .opens rfl rfl, rfl, rfl⟩
        · cases h
          exact hrefused

theorem onTunnelRequest_move {marked : Prop} {r : EIBnetTunnelRequest}
    (h : s.onTunnelRequest r = .ok (s', as)) :
    Move (r.channel = s.core.channel ∧ r.seqno + 1#8 = s.core.rno) marked s s' as := by
  rw [onTunnelRequest] at h
  split at h
  · cases h
    exact .refl _ _ s
  case isFalse hchannel =>
    split at h
    case isTrue hrep =>
      cases h
      refine ⟨.keeps rfl rfl (fun hack => ⟨hack, rfl, rfl⟩) ?_,
        .deafens ⟨not_not.mp hchannel, hrep⟩, rfl, rfl⟩
      intro x hx
      rcases List.mem_pair.mp hx with rfl | rfl
      · trivial
      · exact fun hservice => nomatch hservice
    case isFalse =>
      split at h
      · split at h
        · cases h
          exact .hangUp _ _ s
        · cases h
          exact .refl _ _ s
      · obtain ⟨⟨core, outs⟩, hind, h⟩ := Checked.bind_eq_ok.mp h
        cases h
        have hquiet := (EIBNetIPTunnel.indication_quiet hind).2
        have hsilent : ∀ x ∈ TunnelAction.taken r.cemi :: s.core.answer r.seqno :: outs,
            x.Silent := by
          intro x hx
          rcases List.mem_cons.mp hx with rfl | hx
          · trivial
          · rcases List.mem_cons.mp hx with rfl | hx
            · exact fun hservice => nomatch hservice
            · exact (hquiet x hx).silent
        -- a confirmation ends state 3, and changes nothing else
        rcases EIBNetIPTunnel.indication_core hind with rfl | ⟨hconfirm, rfl⟩
        · exact ⟨.keeps rfl rfl (fun hack => ⟨hack, rfl, rfl⟩) hsilent, .keeps rfl rfl id, rfl, rfl⟩
        · refine ⟨.keeps rfl rfl (fun hack => nomatch hack) hsilent,
            .keeps rfl rfl (fun hmod => ?_), rfl, rfl⟩
          exact nomatch hmod.symm.trans hconfirm

theorem onTunnelResponse_move {repetition marked : Prop} {r : EIBnetTunnelACK}
    (h : s.onTunnelResponse r = .ok (s', as)) : Move repetition marked s s' as := by
  rw [onTunnelResponse] at h
  split_ifs at h with hchannel hsno hstatus hmod
  · cases h
    exact .refl _ _ s
  · cases h
    exact .refl _ _ s
  · cases h
    exact .refl _ _ s
  · cases h
    exact .refl _ _ s
  -- the acknowledgement that is waited for: the frame leaves the queue
  · obtain ⟨⟨c, s₁⟩, hget, h⟩ := Checked.bind_eq_ok.mp h
    cases h
    obtain ⟨hqueue, hsignal, hs₁⟩ := get_eq_ok hget
    refine ⟨.gets hqueue hsignal (not_not.mp hmod) ?_ (.inl rfl) rfl (List.forall_mem_nil _),
      ?_, ?_⟩
    · dsimp only
      split <;> exact nofun
    · rw [hs₁]
      refine .keeps rfl rfl (fun hnot => ?_)
      exact nomatch hnot.symm.trans (not_not.mp hmod)
    · rw [hs₁]
      exact ⟨rfl, rfl⟩

theorem onConnectionStateResponse_move {repetition marked : Prop}
    {r : EIBnetConnectionStateResponse} (h : s.onConnectionStateResponse r = (s', as)) :
    Move repetition marked s s' as := by
  rw [onConnectionStateResponse] at h
  split_ifs at h with hchannel hstatus hgone
  · cases h
    exact .refl _ _ s
  · cases h
    exact .ofCore _ _ rfl rfl rfl rfl (List.forall_mem_nil _)
  · obtain rfl : s.hangUp.1 = s' := congrArg Prod.fst h
    obtain rfl : s.hangUp.2 = as := congrArg Prod.snd h
    exact .hangUp _ _ s
  · cases h
    exact .refl _ _ s

theorem onDisconnectRequest_move {repetition marked : Prop} {r : EIBnetDisconnectRequest}
    (h : s.onDisconnectRequest r = (s', as)) : Move repetition marked s s' as := by
  rw [onDisconnectRequest] at h
  split at h
  · cases h
    exact .refl _ _ s
  · cases h
    exact .close _ _ s (List.forall_mem_singleton.mpr trivial)

theorem onDisconnectResponse_move {repetition marked : Prop} {r : EIBnetDisconnectResponse}
    (h : s.onDisconnectResponse r = (s', as)) : Move repetition marked s s' as := by
  rw [onDisconnectResponse] at h
  split at h
  · cases h
    exact .refl _ _ s
  · cases h
    exact .close _ _ s (List.forall_mem_nil _)

/-- The packet is the `TUNNEL_REQUEST` before the one that is expected. -/
def RepeatedBy (s : TunnelClient) (p : ReceivedPacket) : Prop :=
  s.core.mod ≠ .notConnected ∧ ∃ r, EIBnetTunnelRequest.parse p.toEIBNetIPPacket = some r ∧
    r.channel = s.core.channel ∧ r.seqno + 1#8 = s.core.rno

theorem recv_move {marked : Prop} {p : ReceivedPacket} (h : s.recv p = .ok (s', as)) :
    Move (s.RepeatedBy p) marked s s' as := by
  rw [recv] at h
  -- each service in the order of the code
  split at h
  · exact onConnectResponse_move h
  · split at h
    · exact onConnectionStateResponse_move (Except.ok.inj h)
    · split at h
      · cases h
        exact .refl _ _ s
      case isFalse hmod =>
        split at h
        case h_1 r hr =>
          exact (onTunnelRequest_move h).imp (fun hrep => ⟨hmod, r, hr, hrep⟩) id s'.phase
        case h_2 =>
          split at h
          · exact onTunnelResponse_move h
          · split at h
            · exact onDisconnectRequest_move (Except.ok.inj h)
            · split at h
              · exact onDisconnectResponse_move (Except.ok.inj h)
              · cases h
                exact .refl _ _ s

/-! ### The other phases -/

theorem onTimeout_move {repetition marked : Prop} (h : s.onTimeout = .ok (s', as)) :
    Move repetition marked s s' as := by
  rw [onTimeout] at h
  split at h
  case h_1 hmod =>
    have hnot : s.core.mod ≠ .notConnected := fun hnot => nomatch hnot.symm.trans hmod
    split at h
    · -- three repetitions were not answered
      obtain ⟨⟨c, s₁⟩, hget, h⟩ := Checked.bind_eq_ok.mp h
      obtain ⟨hqueue, hsignal, hs₁⟩ := get_eq_ok hget
      have hserver : SameServer s s₁ := by
        rw [hs₁]
        exact ⟨rfl, rfl⟩
      dsimp only at h
      split at h
      · cases h
        exact ⟨.gets hqueue hsignal hmod (fun hack => nomatch hack) (.inr rfl) rfl
          (List.forall_mem_singleton.mpr trivial), .closes rfl, hserver.caddr, hserver.recvaddr⟩
      · cases h
        refine ⟨.gets hqueue hsignal hmod (fun hack => nomatch hack) (.inr rfl) rfl
          (List.forall_mem_nil _), ?_, hserver.caddr, hserver.recvaddr⟩
        rw [hs₁]
        exact .keeps rfl rfl fun h0 => (hnot h0).elim
    · cases h
      exact ⟨.keeps rfl rfl (fun hack => nomatch hack) (List.forall_mem_nil _),
        .keeps rfl rfl (fun h0 => (hnot h0).elim), rfl, rfl⟩
  case h_2 hmod =>
    cases h
    refine ⟨.keeps rfl rfl (fun hack => nomatch hack) (List.forall_mem_nil _),
      .keeps rfl rfl (fun h0 => ?_), rfl, rfl⟩
    exact nomatch h0.symm.trans hmod
  case h_3 =>
    cases h
    exact .refl _ _ s

theorem onHeartbeat_move {repetition marked : Prop} (h : s.onHeartbeat = (s', as)) :
    Move repetition marked s s' as := by
  rw [onHeartbeat] at h
  split_ifs at h with hmod hbeat hassigned
  · -- not connected: another attempt
    cases h
    exact .ofCore _ _ rfl rfl rfl rfl (List.forall_mem_singleton.mpr trivial)
  · cases h
    exact .ofCore _ _ rfl rfl rfl rfl (List.forall_mem_singleton.mpr trivial)
  · -- five heartbeats without an answer
    cases h
    exact .close _ _ s (List.forall_mem_singleton.mpr trivial)
  · cases h
    exact .close _ _ s (List.forall_mem_nil _)

theorem dropMarker_move {repetition marked : Prop} (h : s.dropMarker = .ok (s', as)) :
    Move repetition marked s s' as := by
  rw [dropMarker] at h
  split at h
  case isTrue hmarker =>
    obtain ⟨⟨c, s₁⟩, hget, h⟩ := Checked.bind_eq_ok.mp h
    cases h
    obtain ⟨hqueue, hsignal, hs₁⟩ := get_eq_ok hget
    -- what stands in front is the empty frame
    have hc : c = [] := by
      rw [hqueue, List.head?_cons] at hmarker
      exact Option.some.inj hmarker
    refine ⟨.drops (hc ▸ hqueue) hsignal (by rw [hs₁]) (by rw [hc]) ?_, ?_, ?_⟩
    · split
      · exact List.forall_mem_singleton.mpr trivial
      · exact List.forall_mem_nil _
    · rw [hs₁]
      exact .keeps rfl rfl id
    · rw [hs₁]
      exact ⟨rfl, rfl⟩
  case isFalse =>
    cases h
    exact .refl _ _ s

theorem sendPhase_move {repetition : Prop} (h : s.sendPhase = .ok (s', as)) :
    Move repetition (s.core.mod = .idle ∧ s.core.inqueue.head? = some []) s s' as := by
  obtain ⟨⟨core, actions⟩, hsend, h⟩ := Checked.bind_eq_ok.mp h
  cases h
  rw [EIBNetIPTunnel.sendPhase] at hsend
  split at hsend
  case isTrue hready =>
    obtain ⟨c, htop, hsend⟩ := Checked.bind_eq_ok.mp hsend
    obtain ⟨rest, hqueue⟩ := Queue.top_eq_ok.mp htop
    cases hsend
    refine ⟨.sends hqueue rfl rfl rfl (fun hc => ⟨hready.2, ?_⟩) rfl,
      .keeps rfl rfl (fun h0 => ?_), rfl, rfl⟩
    · rw [hqueue, hc, List.head?_cons]
    · exact nomatch h0.symm.trans hready.2
  case isFalse =>
    cases hsend
    exact .refl _ _ s

theorem put_move (repetition marked : Prop) (s : TunnelClient) (c : CArray)
    (has : ∀ x ∈ as, x.Silent) : Move repetition marked s (s.put c) as where
  queue := .puts rfl rfl rfl rfl rfl has
  socket := .keeps rfl rfl id
  server := ⟨rfl, rfl⟩

theorem sendLData_move {repetition marked : Prop} {l : LPDU} (h : s.sendLData l = .ok (s', as)) :
    Move repetition marked s s' as := by
  unfold sendLData at h
  split at h
  · cases h
    exact .refl _ _ s
  · split at h
    · obtain ⟨_, -, h⟩ := Checked.bind_eq_ok.mp h
      obtain ⟨cemi, -, h⟩ := Checked.bind_eq_ok.mp h
      dsimp only at h
      split at h
      · obtain ⟨pdu, -, h⟩ := Checked.bind_eq_ok.mp h
        cases h
        refine put_move _ _ s cemi fun x hx => ?_
        rcases List.mem_pair.mp hx with rfl | rfl <;> trivial
      · cases h
        exact put_move _ _ s cemi (List.forall_mem_singleton.mpr trivial)
    · cases h
      exact .refl _ _ s

/-- The step answers a repetition. -/
def Repetition (s : TunnelClient) : Event → Prop
  | .loop i => s.phase = .get ∧ ∃ p, i.p1 = some p ∧ s.RepeatedBy p
  | _ => False

/-- The client is about to send, and a marker stands in front of its queue. -/
def MarkerFirst (s : TunnelClient) : Event → Prop
  | .loop _ => s.phase = .send ∧ s.core.mod = .idle ∧ s.core.inqueue.head? = some []
  | _ => False

theorem act_move {i : LoopInput} (h : s.act i = .ok (s', as)) :
    Move (s.Repetition (.loop i)) (s.MarkerFirst (.loop i)) s s' as := by
  rw [act] at h
  -- one phase of `Run` after the other
  split at h
  case h_1 hphase =>
    split at h
    case h_1 p hp =>
      exact (recv_move h).imp (fun hrep => ⟨hphase, p, hp, hrep⟩) id s'.phase
    case h_2 =>
      cases h
      exact .refl _ _ s
  case h_2 =>
    split at h
    · exact onTimeout_move h
    · cases h
      exact .refl _ _ s
  case h_3 =>
    split at h
    · exact onHeartbeat_move (Except.ok.inj h)
    · cases h
      exact .refl _ _ s
  case h_4 => exact dropMarker_move h
  case h_5 hphase => exact (sendPhase_move h).imp id (And.intro hphase) s'.phase

theorem step_move {e : Event} (h : s.step e = .ok (s', as)) :
    Move (s.Repetition e) (s.MarkerFirst e) s s' as := by
  cases e with
  | loop i =>
      obtain ⟨⟨s₁, actions⟩, hact, h⟩ := Checked.bind_eq_ok.mp h
      cases h
      exact (act_move hact).imp id id s.phase.next
  | sendLData l => exact sendLData_move h
  | enterBusmonitor =>
      cases h
      exact ⟨.puts rfl rfl rfl rfl rfl (List.forall_mem_nil _), .keeps rfl rfl id, rfl, rfl⟩
  | leaveBusmonitor =>
      cases h
      exact ⟨.puts rfl rfl rfl rfl rfl (List.forall_mem_nil _), .keeps rfl rfl id, rfl, rfl⟩
  | setVBusmonitor vmode =>
      cases h
      exact .ofCore _ _ rfl rfl rfl rfl (List.forall_mem_nil _)

end TunnelClient

end BcuSdk.Eibd
