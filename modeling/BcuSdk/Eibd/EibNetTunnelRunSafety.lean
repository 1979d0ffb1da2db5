/-
  BcuSdk.Eibd.EibNetTunnelRunSafety

  The socket and the queue of `EIBNetIPTunnel` over whole runs.

  The filter of the socket matches `mod`, and the frame in front of the queue is
  the one that was sent, until a step of one kind: the filter is broken by the
  repetition of a frame, the queue by a marker that stands in front when the
  client sends.
-/
import BcuSdk.Eibd.EibNetIpSafety
import BcuSdk.Eibd.EibNetTunnelRunTurn

namespace BcuSdk.Eibd

open BcuSdk.Lib

namespace TunnelClient

variable {s s' : TunnelClient} {as : List TunnelAction}

/-! ## The socket -/

/-- The socket takes in what comes from either endpoint of the connection. -/
structure Hears (s : TunnelClient) : Prop where
  recvall : s.sock.recvall = 3
  recvaddr2 : s.sock.recvaddr2 = s.daddr
  accepts : ∀ r, r = s.caddr ∨ r = s.daddr → s.sock.accepts r

/-- The two members decide it, as `recvaddr` is the control endpoint anyway. -/
theorem hears_iff (h : s.sock.recvaddr = s.caddr) :
    s.Hears ↔ s.sock.recvall = 3 ∧ s.sock.recvaddr2 = s.daddr := by
  constructor
  · rintro ⟨hall, h2, -⟩
    exact ⟨hall, h2⟩
  · rintro ⟨hall, h2⟩
    refine ⟨hall, h2, fun r hr => ?_⟩
    rcases hr with rfl | rfl
    · simp [SocketFilter.accepts, h]
    · simp [SocketFilter.accepts, hall, h2]

/-- A repetition is answered, and the socket goes deaf to the data endpoint. -/
theorem recv_of_repeatedBy {p : ReceivedPacket} (h : s.RepeatedBy p) :
    ∃ as, s.recv p = .ok ({ s with sock := { s.sock with recvall := 0 } }, as) := by
  obtain ⟨hmod, r, hr, hchannel, hrep⟩ := h
  have hservice := (EIBnetTunnelRequest.parse_eq_some hr).1
  have hconnect : p.service ≠ Service.connectionResponse := by
    rw [hservice]
    decide
  have hstate : EIBnetConnectionStateResponse.parse p.toEIBNetIPPacket = none := by
    rw [EIBnetConnectionStateResponse.parse, if_pos]
    rw [hservice]
    decide
  refine ⟨[.repeated, s.core.answer r.seqno], ?_⟩
  rw [recv, if_neg hconnect, hstate]
  dsimp only
  rw [if_neg hmod, hr]
  dsimp only
  rw [onTunnelRequest, if_neg (not_not.mpr hchannel), if_pos hrep]
  rfl

theorem step_of_repetition {e : Event} (h : s.Repetition e) :
    ∃ s' as, s.step e = .ok (s', as) ∧ s'.core.mod ≠ .notConnected ∧ s'.sock.recvall = 0 := by
  cases e with
  | loop i =>
      obtain ⟨hphase, p, hp, hrep⟩ := h
      obtain ⟨as, hrecv⟩ := recv_of_repeatedBy hrep
      have hact : s.act i = s.recv p := by rw [act, hphase, hp]
      refine ⟨{ s with sock := { s.sock with recvall := 0 }, phase := s.phase.next }, as, ?_,
        hrep.1, rfl⟩
      rw [step, loop, hact, hrecv]
      rfl
  | _ => exact h.elim

end TunnelClient

namespace TunnelRun

variable {s s' : TunnelRun}

/-- While it is connected, the client hears its server. -/
def HearsServer (s : TunnelRun) : Prop := s.client.core.mod ≠ .notConnected → s.client.Hears

theorem step_eq_ok {e : TunnelClient.Event} :
    s.step e = .ok s' ↔ ∃ as, s.client.step e = .ok (s'.client, as) ∧
      s'.sent = s.sent ++ as.filterMap TunnelAction.tunnelRequest := by
  constructor
  · intro h
    obtain ⟨⟨client, as⟩, hstep, h⟩ := Checked.bind_eq_ok.mp h
    cases h
    exact ⟨as, hstep, rfl⟩
  · rintro ⟨as, hstep, hsent⟩
    rw [step, hstep, Checked.ok_bind]
    dsimp only
    rw [← hsent]
    rfl

theorem recvaddr_step {e : TunnelClient.Event} (h : s.client.sock.recvaddr = s.client.caddr)
    (hstep : s.step e = .ok s') : s'.client.sock.recvaddr = s'.client.caddr := by
  obtain ⟨as, hstep, -⟩ := step_eq_ok.mp hstep
  have hserver := (TunnelClient.step_move hstep).server
  rw [hserver.recvaddr, hserver.caddr, h]

/-- A step keeps the client hearing exactly if it does not answer a repetition. -/
theorem hearsServer_step_iff {e : TunnelClient.Event}
    (haddr : s.client.sock.recvaddr = s.client.caddr) (h : HearsServer s)
    (hstep : s.step e = .ok s') : HearsServer s' ↔ ¬ s.client.Repetition e := by
  have haddr' := recvaddr_step haddr hstep
  obtain ⟨as, hstep, -⟩ := step_eq_ok.mp hstep
  constructor
  · intro hears hrep
    obtain ⟨c, as', hrepstep, hmod, hall⟩ := TunnelClient.step_of_repetition hrep
    cases hstep.symm.trans hrepstep
    have h3 := (hears hmod).recvall
    rw [hall] at h3
    exact absurd h3 (by decide)
  · -- every other step leaves the filter, or closes or opens the connection
    intro hrep hmod
    rw [TunnelClient.hears_iff haddr']
    cases (TunnelClient.step_move hstep).socket with
    | keeps hsock hdaddr hmod' =>
        have hears := h fun h0 => hmod (hmod' h0)
        rw [hsock, hdaddr]
        exact ⟨hears.recvall, hears.recvaddr2⟩
    | closes h0 => exact absurd h0 hmod
    | opens hall h2 => exact ⟨hall, h2⟩
    | deafens h => exact absurd h hrep

/-- In every state of a run in which the client is connected, its socket takes in all that comes
    from the control and the data endpoint, if and only if no `TUNNEL_REQUEST` is ever repeated
    to it. -/
theorem hearsServer_iff_no_repetition (c : TunnelClient.Config) (es : List TunnelClient.Event) :
    HoldsAlong step HearsServer ⟨TunnelClient.start c, []⟩ es ↔
      StepsMeet step (fun s e => ¬ s.client.Repetition e) ⟨TunnelClient.start c, []⟩ es := by
  refine holdsAlong_iff (E := fun _ => True)
    (fun s e s' haddr _ hstep => recvaddr_step haddr hstep) ?_
    (fun s e s' haddr h _ hstep => hearsServer_step_iff haddr h hstep) (fun _ _ => trivial) rfl ?_
  · -- a repetition does not fault
    intro s e _ _ _ hfault hrep
    obtain ⟨client, as, hstep, -⟩ := TunnelClient.step_of_repetition hrep
    exact hfault ⟨client, _⟩ (step_eq_ok.mpr ⟨as, hstep, rfl⟩)
  · exact fun hmod => absurd rfl hmod

/-- A client without NAT. -/
def plainConfig : TunnelClient.Config where
  caddr := { family := afInet, port := 3671#16, addr := 0xc0a80001#32 }
  saddr := { family := afInet, port := 3672#16, addr := 0xc0a80002#32 }
  nat := false
  dataport := none
  noqueue := false
  showPrint := false

/-- A pass of the loop. -/
def passWith (i : TunnelClient.LoopInput) : List TunnelClient.Event := List.replicate 5 (.loop i)

/-- The server opens channel 1, with a data endpoint of its own. -/
def opening : TunnelClient.LoopInput where
  p1 := some
    { toEIBNetIPPacket := ({
        channel := 1#8
        daddr := { plainConfig.caddr with port := 3673#16 }
        crd := [4#8, 0x11#8, 0x01#8] } : EIBnetConnectResponse).toPacket fun _ => 0#8
      src := plainConfig.caddr }

/-- The first frame of the server, a confirmation. -/
def firstFrame : TunnelClient.LoopInput where
  p1 := some
    { toEIBNetIPPacket := ({ channel := 1#8, seqno := 0#8, cemi := [0x2e#8, 0#8] } :
        EIBnetTunnelRequest).toPacket
      src := { plainConfig.caddr with port := 3673#16 } }

/-- The server repeats its first frame. -/
def repeatedFrame : List TunnelClient.Event :=
  passWith opening ++ passWith firstFrame ++ passWith firstFrame

/-- The client answers, stays connected and no longer hears the data endpoint. -/
theorem repeatedFrame_deafens :
    ¬ HoldsAlong step HearsServer ⟨TunnelClient.start plainConfig, []⟩ repeatedFrame ∧
      ∃ s, Lib.run step ⟨TunnelClient.start plainConfig, []⟩ repeatedFrame = .ok s ∧
        s.client.core.mod = .idle ∧ s.client.sock.accepts s.client.daddr = false := by
  have hend : ∃ s, Lib.run step ⟨TunnelClient.start plainConfig, []⟩ repeatedFrame = .ok s ∧
      s.client.core.mod = .idle ∧ s.client.sock.accepts s.client.daddr = false := by
    decide +kernel
  refine ⟨fun h => ?_, hend⟩
  obtain ⟨s, hrun, hmod, hdeaf⟩ := hend
  have hears := h repeatedFrame [] s (List.append_nil _).symm hrun
    fun h0 => nomatch h0.symm.trans hmod
  rw [hears.accepts s.client.daddr (.inr rfl)] at hdeaf
  cases hdeaf

end TunnelRun

/-! ## The queue -/

namespace TunnelClient

variable {s s' : TunnelClient}

/-- The `TUNNEL_REQUEST` for a frame with the number that is due. -/
def request (s : TunnelClient) (c : CArray) : EIBNetIPPacket :=
  ({ channel := s.core.channel, seqno := s.core.sno, cemi := c } : EIBnetTunnelRequest).toPacket

theorem request_congr (hchannel : s'.core.channel = s.core.channel)
    (hsno : s'.core.sno = s.core.sno) : s'.request = s.request := by
  funext c
  rw [request, hchannel, hsno, request]

theorem get_returns (hsignal : s.insignal = s.core.inqueue.length) (hne : s.core.inqueue ≠ []) :
    s.get.Returns := by
  obtain ⟨c, rest, hqueue⟩ := List.exists_cons_of_ne_nil hne
  rw [hqueue, List.length_cons] at hsignal
  refine ⟨(c, { s with insignal := rest.length, core := { s.core with inqueue := rest } }), ?_⟩
  rw [get, hsignal, hqueue]
  rfl

theorem parsedNat_returns (p : ReceivedPacket) (nat : Bool) : (parsedNat p nat).Returns := by
  rw [parsedNat]
  split
  · exact ⟨_, rfl⟩
  · rw [readByte_of_lt (by omega), Checked.ok_bind]
    split
    · exact ⟨_, rfl⟩
    · have hlen : ((p.data.drop 2).take 8).length = 8 := by
        rw [List.length_take, List.length_drop]
        omega
      obtain ⟨o, ho, -⟩ := eibnetToIP_answers p.src nat hlen
      rw [readSlice_of_le (by omega), Checked.ok_bind, ho, Checked.ok_bind]
      rcases o with _ | ⟨addr, nat⟩ <;> exact ⟨_, rfl⟩

theorem onConnectResponse_returns (s : TunnelClient) (p : ReceivedPacket) :
    (s.onConnectResponse p).Returns := by
  rw [onConnectResponse]
  split
  · exact ⟨_, rfl⟩
  · obtain ⟨parsed, hparsed, -⟩ := EIBnetConnectResponse.parse_answers p { nat := s.crespNat }
    obtain ⟨nat, hnat⟩ := parsedNat_returns p s.crespNat
    rw [hparsed, Checked.ok_bind, hnat, Checked.ok_bind]
    rcases parsed with _ | cresp
    · exact ⟨_, rfl⟩
    · dsimp only
      split
      · split <;> exact ⟨_, rfl⟩
      · split <;> exact ⟨_, rfl⟩

theorem onTunnelResponse_returns (hget : s.core.mod = .ackWait → s.get.Returns)
    (r : EIBnetTunnelACK) : (s.onTunnelResponse r).Returns := by
  rw [onTunnelResponse]
  split_ifs with hchannel hsno hstatus hmod
  · exact ⟨_, rfl⟩
  · exact ⟨_, rfl⟩
  · exact ⟨_, rfl⟩
  · exact ⟨_, rfl⟩
  · obtain ⟨⟨c, client⟩, hc⟩ := hget (not_not.mp hmod)
    exact ⟨_, by rw [hc]; rfl⟩

theorem recv_returns (hget : s.core.mod = .ackWait → s.get.Returns) {p : ReceivedPacket}
    (hp : p.service ≠ Service.tunnelRequest) : (s.recv p).Returns := by
  rw [recv]
  split
  · exact onConnectResponse_returns s p
  · split
    · exact ⟨_, rfl⟩
    · split
      · exact ⟨_, rfl⟩
      · split
        case h_1 r hr => exact absurd (EIBnetTunnelRequest.parse_eq_some hr).1 hp
        case h_2 =>
          split
          · exact onTunnelResponse_returns hget _
          · split
            · exact ⟨_, rfl⟩
            · split <;> exact ⟨_, rfl⟩

theorem onTimeout_returns (hget : s.core.mod = .ackWait → s.get.Returns) :
    s.onTimeout.Returns := by
  rw [onTimeout]
  split
  case h_1 hmod =>
    split
    · obtain ⟨⟨c, client⟩, hc⟩ := hget hmod
      rw [hc, Checked.ok_bind]
      dsimp only
      split <;> exact ⟨_, rfl⟩
    · exact ⟨_, rfl⟩
  case h_2 => exact ⟨_, rfl⟩
  case h_3 => exact ⟨_, rfl⟩

theorem dropMarker_returns (hsignal : s.insignal = s.core.inqueue.length) :
    s.dropMarker.Returns := by
  rw [dropMarker]
  split
  case isTrue hmarker =>
    have hne : s.core.inqueue ≠ [] := by
      intro hnil
      rw [hnil] at hmarker
      cases hmarker
    obtain ⟨⟨c, client⟩, hc⟩ := get_returns hsignal hne
    exact ⟨_, by rw [hc]; rfl⟩
  case isFalse => exact ⟨_, rfl⟩

theorem sendPhase_returns (s : TunnelClient) : s.sendPhase.Returns := by
  rw [sendPhase, EIBNetIPTunnel.sendPhase]
  split
  case isTrue hready =>
    obtain ⟨c, rest, hqueue⟩ := List.exists_cons_of_ne_nil hready.1
    rw [hqueue]
    exact ⟨_, rfl⟩
  case isFalse => exact ⟨_, rfl⟩

/-- With a marker in front, the last phase sends it. -/
theorem step_of_markerFirst {e : Event} (h : s.MarkerFirst e) :
    ∃ s', s.step e = .ok (s', [.send (s.request [])]) := by
  cases e with
  | loop i =>
      obtain ⟨hphase, hidle, hmarker⟩ := h
      obtain ⟨rest, hqueue⟩ := List.head?_eq_some_iff.mp hmarker
      have hcore : s.core.sendPhase =
          .ok ({ s.core with mod := .ackWait }, [.send (s.request [])]) := by
        have hne : s.core.inqueue ≠ [] := hqueue ▸ List.cons_ne_nil _ _
        rw [EIBNetIPTunnel.sendPhase, if_pos ⟨hne, hidle⟩, Queue.top_eq_ok.mpr ⟨rest, hqueue⟩]
        rfl
      have hact : s.act i = s.sendPhase := by rw [act, hphase]
      exact ⟨{ s with core := { s.core with mod := .ackWait }, phase := s.phase.next }, by
        rw [step, loop, hact, sendPhase, hcore]
        rfl⟩
  | _ => exact h.elim

end TunnelClient

namespace TunnelRun

/-- `insignal` counts the queue, the frame in front is the one that was sent last while it waits
    for its acknowledgement, and no marker was sent. -/
structure QueueSound (s : TunnelRun) : Prop where
  signal : s.client.insignal = s.client.core.inqueue.length
  pending : s.client.core.mod = .ackWait → ∃ c rest, s.client.core.inqueue = c :: rest ∧ c ≠ [] ∧
    s.sent.getLast? = some (s.client.request c)
  unmarked : ∀ p ∈ s.sent, ∃ r : EIBnetTunnelRequest, p = r.toPacket ∧ r.cemi ≠ []

/-- A step that does not send a marker keeps the queue sound. -/
theorem QueueSound.step {e : TunnelClient.Event} (h : QueueSound s)
    (hmarker : ¬ s.client.MarkerFirst e) (hstep : s.step e = .ok s') : QueueSound s' := by
  obtain ⟨as, hstep, hsent⟩ := step_eq_ok.mp hstep
  -- the moves of the queue, one by one
  cases (TunnelClient.step_move hstep).queue with
  | keeps inqueue insignal pending silent =>
      rw [filterMap_of_silent silent, List.append_nil] at hsent
      refine ⟨by rw [insignal, inqueue, h.signal], fun hack => ?_, by rw [hsent]; exact h.unmarked⟩
      obtain ⟨hack, hchannel, hsno⟩ := pending hack
      rw [inqueue, hsent, TunnelClient.request_congr hchannel hsno]
      exact h.pending hack
  | gets inqueue insignal pending done removes actions silent =>
      have hsilent : as.filterMap TunnelAction.tunnelRequest = [] := by
        rw [actions, List.filterMap_cons_none, filterMap_of_silent silent]
        rcases removes with rfl | rfl <;> rfl
      rw [hsilent, List.append_nil] at hsent
      refine ⟨?_, fun hack => absurd hack done, by rw [hsent]; exact h.unmarked⟩
      have hsignal := h.signal
      rw [insignal, inqueue, List.length_cons] at hsignal
      exact Nat.succ.inj hsignal
  | drops inqueue insignal mod actions silent =>
      have hsilent : as.filterMap TunnelAction.tunnelRequest = [] := by
        rw [actions, List.filterMap_cons_none rfl, filterMap_of_silent silent]
      rw [hsilent, List.append_nil] at hsent
      refine ⟨?_, fun hack => ?_, by rw [hsent]; exact h.unmarked⟩
      · have hsignal := h.signal
        rw [insignal, inqueue, List.length_cons] at hsignal
        exact Nat.succ.inj hsignal
      · -- a frame that waits for its acknowledgement is no marker
        obtain ⟨c, rest, hqueue, hc, -⟩ := h.pending (mod ▸ hack)
        rw [inqueue] at hqueue
        exact absurd (List.cons.inj hqueue).1.symm hc
  | @sends c rest inqueue same insignal pending marked actions =>
      -- what is sent is no marker, and is noted as sent last
      have hc : c ≠ [] := fun hc => hmarker (marked hc)
      have hlogged : s'.sent = s.sent ++ [s'.client.request c] := by
        rw [hsent, actions]
        rfl
      refine ⟨by rw [insignal, same, h.signal], fun _ => ⟨c, rest, ?_, hc, ?_⟩, ?_⟩
      · rw [same, inqueue]
      · rw [hlogged, List.getLast?_concat]
      · rw [hlogged]
        intro p hp
        rcases List.mem_append.mp hp with hp | hp
        · exact h.unmarked p hp
        · exact ⟨_, List.mem_singleton.mp hp, hc⟩
  | puts inqueue insignal mod channel sno silent =>
      rw [filterMap_of_silent silent, List.append_nil] at hsent
      refine ⟨?_, fun hack => ?_, by rw [hsent]; exact h.unmarked⟩
      · rw [insignal, inqueue, List.length_append, h.signal]
        rfl
      · obtain ⟨c, rest, hqueue, hc, hlast⟩ := h.pending (mod ▸ hack)
        rw [inqueue, hsent, TunnelClient.request_congr channel sno, hqueue]
        exact ⟨c, _, List.cons_append, hc, hlast⟩

/-- What an acknowledgement or a drop removes, and that no phase of the loop finds the queue
    empty.  Only the frame of a `TUNNEL_REQUEST`, which leaves the queue alone, can stop the
    loop. -/
structure QueueKept (s : TunnelRun) : Prop extends QueueSound s where
  acked : ∀ {e client as c}, s.client.step e = .ok (client, as) → .acked c ∈ as →
    s.client.core.inqueue = c :: client.core.inqueue ∧ s.sent.getLast? = some (s.client.request c)
  dropped : ∀ {e client as c}, s.client.step e = .ok (client, as) → .dropped c ∈ as →
    s.client.core.inqueue = c :: client.core.inqueue ∧
      (c = [] ∨ s.sent.getLast? = some (s.client.request c))
  returns : ∀ i : TunnelClient.LoopInput,
    (∀ p, i.p1 = some p → p.service ≠ Service.tunnelRequest) → (s.client.step (.loop i)).Returns

/-- What is removed stood in front, and is a marker or the frame that was sent. -/
theorem QueueSound.removes {e : TunnelClient.Event} {client : TunnelClient}
    {as : List TunnelAction} {c : CArray} (h : QueueSound s)
    (hstep : s.client.step e = .ok (client, as)) (hc : .acked c ∈ as ∨ .dropped c ∈ as) :
    s.client.core.inqueue = c :: client.core.inqueue ∧
      (s.sent.getLast? = some (s.client.request c) ∨ c = [] ∧ .acked c ∉ as) := by
  have hloud : ∀ {as : List TunnelAction}, (∀ x ∈ as, x.Silent) → ¬ (.acked c ∈ as ∨
      .dropped c ∈ as) := fun hsilent hc => hc.elim (hsilent _) (hsilent _)
  -- the moves of the queue that report a removal are `gets` and `drops`
  cases (TunnelClient.step_move hstep).queue with
  | keeps _ _ _ silent => exact absurd hc (hloud silent)
  | @gets c' x after inqueue _ pending _ removes actions silent =>
      obtain ⟨c₁, rest, hqueue, -, hlast⟩ := h.pending pending
      rw [inqueue] at hqueue
      obtain ⟨rfl, -⟩ := List.cons.inj hqueue
      have hx : x = .acked c ∨ x = .dropped c := by
        rw [actions, List.mem_cons, List.mem_cons] at hc
        rcases hc with (rfl | hc) | (rfl | hc)
        · exact .inl rfl
        · exact (silent _ hc).elim
        · exact .inr rfl
        · exact (silent _ hc).elim
      obtain rfl : c' = c := by
        rcases removes with rfl | rfl <;> rcases hx with hx | hx <;> cases hx <;> rfl
      exact ⟨inqueue, .inl hlast⟩
  | @drops after inqueue _ _ actions silent =>
      have hdropped : .acked c ∉ as := by
        rw [actions]
        intro hc
        rcases List.mem_cons.mp hc with hc | hc
        · cases hc
        · exact silent _ hc
      -- what is dropped without being sent is a marker
      have hnil : c = [] := by
        have hc := hc.resolve_left hdropped
        rw [actions] at hc
        rcases List.mem_cons.mp hc with hc | hc
        · cases hc
          rfl
        · exact (silent _ hc).elim
      rw [hnil]
      exact ⟨inqueue, .inr ⟨rfl, hnil ▸ hdropped⟩⟩
  | sends _ _ _ _ _ actions =>
      rw [actions] at hc
      rcases hc with hc | hc <;> cases List.mem_singleton.mp hc
  | puts _ _ _ _ _ silent => exact absurd hc (hloud silent)

/-- No phase of the loop finds the queue empty. -/
theorem QueueSound.returns (h : QueueSound s) {i : TunnelClient.LoopInput}
    (hi : ∀ p, i.p1 = some p → p.service ≠ Service.tunnelRequest) :
    (s.client.step (.loop i)).Returns := by
  have hget : s.client.core.mod = .ackWait → s.client.get.Returns := by
    intro hack
    obtain ⟨c, rest, hqueue, -⟩ := h.pending hack
    exact TunnelClient.get_returns h.signal (hqueue ▸ List.cons_ne_nil c rest)
  have hact : (s.client.act i).Returns := by
    rw [TunnelClient.act]
    split
    · split
      case h_1 p hp => exact TunnelClient.recv_returns hget (hi p hp)
      case h_2 => exact ⟨_, rfl⟩
    · split
      · exact TunnelClient.onTimeout_returns hget
      · exact ⟨_, rfl⟩
    · split <;> exact ⟨_, rfl⟩
    · exact TunnelClient.dropMarker_returns h.signal
    · exact TunnelClient.sendPhase_returns s.client
  obtain ⟨⟨client, as⟩, hact⟩ := hact
  exact ⟨_, by rw [TunnelClient.step, TunnelClient.loop, hact]; rfl⟩

theorem QueueSound.kept (h : QueueSound s) : QueueKept s where
  toQueueSound := h
  acked hstep hc := by
    obtain ⟨hqueue, hlast⟩ := h.removes hstep (.inl hc)
    exact ⟨hqueue, hlast.resolve_right fun hmarker => hmarker.2 hc⟩
  dropped hstep hc := by
    obtain ⟨hqueue, hlast⟩ := h.removes hstep (.inr hc)
    exact ⟨hqueue, hlast.symm.imp And.left id⟩
  returns i hi := h.returns hi

/-- A step keeps the queue exactly if it does not send a marker. -/
theorem queueKept_step_iff {e : TunnelClient.Event} (h : QueueKept s) (hstep : s.step e = .ok s') :
    QueueKept s' ↔ ¬ s.client.MarkerFirst e := by
  constructor
  · intro hkept hmarker
    obtain ⟨client, hsend⟩ := TunnelClient.step_of_markerFirst hmarker
    obtain ⟨as, hstep, hsent⟩ := step_eq_ok.mp hstep
    cases hstep.symm.trans hsend
    -- the marker is among the packets that were sent
    have hmem : s.client.request [] ∈ s'.sent := by
      rw [hsent]
      exact List.mem_append_right _ (List.mem_singleton.mpr rfl)
    obtain ⟨r, hr, hne⟩ := hkept.unmarked _ hmem
    have hdata := congrArg EIBNetIPPacket.data hr
    simp only [TunnelClient.request, EIBnetTunnelRequest.toPacket, List.append_nil,
      List.cons_append, List.nil_append, List.cons.injEq, true_and] at hdata
    exact hne hdata.2.2.symm
  · intro hmarker
    exact (h.toQueueSound.step hmarker hstep).kept

/-- In every state of a run `insignal` counts the queue, the frame that waits for its
    acknowledgement is the one that was sent last, no marker was sent, and an acknowledgement or a
    drop removes the frame that was sent, if and only if the client never comes to send with a
    marker in front of its queue. -/
theorem queueKept_iff_no_markerFirst (c : TunnelClient.Config) (es : List TunnelClient.Event) :
    HoldsAlong step QueueKept ⟨TunnelClient.start c, []⟩ es ↔
      StepsMeet step (fun s e => ¬ s.client.MarkerFirst e) ⟨TunnelClient.start c, []⟩ es := by
  have hinv : ∀ s e s', True → True → step s e = .ok s' → True :=
    fun _ _ _ _ _ _ => trivial
  refine holdsAlong_iff hinv ?_ (fun s e s' _ h _ hstep => queueKept_step_iff h hstep)
    (fun _ _ => trivial) trivial ?_
  · -- sending a marker does not fault
    intro s e _ _ _ hfault hmarker
    obtain ⟨client, hstep⟩ := TunnelClient.step_of_markerFirst hmarker
    exact hfault ⟨client, _⟩ (step_eq_ok.mpr ⟨_, hstep, rfl⟩)
  · exact QueueSound.kept ⟨rfl, (nomatch ·), fun _ h => absurd h List.not_mem_nil⟩

/-- The marker as a `TUNNEL_REQUEST`. -/
def sentMarker : EIBNetIPPacket :=
  ({ channel := 1#8, seqno := 0#8, cemi := [] } : EIBnetTunnelRequest).toPacket

/-- A busmonitor is entered and left again between two passes. -/
def twoMarkers : List TunnelClient.Event :=
  passWith opening ++ [.enterBusmonitor, .leaveBusmonitor] ++ passWith {}

/-- The first marker is removed, and the second one is sent. -/
theorem twoMarkers_sends :
    ¬ HoldsAlong step QueueKept ⟨TunnelClient.start plainConfig, []⟩ twoMarkers ∧
      ∃ s, Lib.run step ⟨TunnelClient.start plainConfig, []⟩ twoMarkers = .ok s ∧
        s.client.core.mod = .ackWait ∧ s.client.core.inqueue = [[]] ∧ s.sent = [sentMarker] := by
  have hend : ∃ s, Lib.run step ⟨TunnelClient.start plainConfig, []⟩ twoMarkers = .ok s ∧
      s.client.core.mod = .ackWait ∧ s.client.core.inqueue = [[]] ∧ s.sent = [sentMarker] := by
    decide +kernel
  refine ⟨fun h => ?_, hend⟩
  obtain ⟨s, hrun, hmod, hqueue, -⟩ := hend
  obtain ⟨c, rest, hcons, hc, -⟩ :=
    (h twoMarkers [] s (List.append_nil _).symm hrun).pending hmod
  rw [hqueue] at hcons
  exact hc (List.cons.inj hcons).1.symm

end TunnelRun

end BcuSdk.Eibd
