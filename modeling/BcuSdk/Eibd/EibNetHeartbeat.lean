/-
  BcuSdk.Eibd.EibNetHeartbeat

  The heartbeat of `EIBNetIPTunnel` as `EIBnetServer` answers it.

  The two programs run side by side.  What they receive and when is left open,
  which allows all losses and delays, and the server may be restarted.  From any
  pair of states that is reached the client can send its
  `CONNECTIONSTATE_REQUEST`, and the server its answer.
-/
import BcuSdk.Eibd.EibNetIpRoundTrip
import BcuSdk.Eibd.EibNetServerSafety
import BcuSdk.Eibd.EibNetTunnelRunSafety

namespace BcuSdk.Eibd

open BcuSdk.Lib

/-! ## The pair -/

/-- A client, and the server it is connected to or was. -/
structure HeartbeatPair where
  client : TunnelClient
  server : EIBnetServer

namespace HeartbeatPair

inductive Event where
  | client (e : TunnelClient.Event)
  | server (e : EIBnetServer.Event)
  /-- The server is started again. -/
  | restart

def step (s : HeartbeatPair) : Event → Checked HeartbeatPair
  | .client e => do return { s with client := (← s.client.step e).1 }
  | .server e => do return { s with server := ← s.server.step e }
  | .restart =>
      let server := { s.server with
        busmoncount := 0
        vbusmonitor := false
        state := []
        natstate := [] }
      .ok { s with server }

end HeartbeatPair

/-! ## The exchange -/

/-- The `CONNECTIONSTATE_REQUEST` of a heartbeat, from `csreq`. -/
def TunnelClient.heartbeat (s : TunnelClient) (fresh : Nat → Byte) : EIBNetIPPacket :=
  ({ channel := s.core.channel, status := fresh 0, caddr := s.saddr, nat := s.saddr.addr = 0#32 } :
    EIBnetConnectionStateRequest).toPacket fresh

namespace HeartbeatPair

variable {s : HeartbeatPair}

/-- The server has a connection of the client, whose packets come from `src`, on its channel. -/
def Held (s : HeartbeatPair) (src : SockaddrIn) : Prop :=
  ∃ c ∈ s.server.state, c.channel = s.client.core.channel ∧ compareIPAddress src c.caddr

/-- The client is in state `client` after its heartbeat and the answer of the server. -/
def Answered (s : HeartbeatPair) (src : SockaddrIn) (fresh : Nat → Byte) (now : Nat)
    (client : TunnelClient) : Prop :=
  ∃ server dest p actions,
    s.server.recv { s.client.heartbeat fresh with src } now true =
      .ok (server, [.send dest p]) ∧
    s.client.recv { p with src := s.client.caddr } = .ok (client, actions)

/-- The answer to the heartbeat of a connected client ends the connection if the server does not
    have it, and keeps it if the server does. -/
def Agrees (src : SockaddrIn) (s : HeartbeatPair) : Prop :=
  s.client.core.mod ≠ .notConnected → ∀ fresh now, ∃ client, s.Answered src fresh now client ∧
    (¬ s.Held src → client.core.mod = .notConnected) ∧
    (s.Held src → client.core.mod ≠ .notConnected)

/-! ### The server -/

/-- Any endpoint that is written is read back as some endpoint. -/
theorem eibnetToIP_of_ipToEIBNetIP (a src : SockaddrIn) (nat before : Bool) :
    ∃ r, eibnetToIP (ipToEIBNetIP a nat).1 src before = .ok (some r) := by
  cases nat with
  | true => simp [eibnetToIP, ipToEIBNetIP]
  | false => simp [eibnetToIP, ipToEIBNetIP]

theorem parse_heartbeat (client : TunnelClient) (fresh : Nat → Byte) (src : SockaddrIn)
    (status : Byte) : ∃ r1 : EIBnetConnectionStateRequest,
      EIBnetConnectionStateRequest.parse { client.heartbeat fresh with src } { status } =
        .ok (some r1) ∧ r1.channel = client.core.channel := by
  obtain ⟨⟨caddr, nat⟩, hcaddr⟩ :=
    eibnetToIP_of_ipToEIBNetIP client.saddr src (client.saddr.addr = 0#32) false
  have hread := parseChannelRequest_of_eibnetToIP fresh Service.connectionStateRequest
    client.core.channel hcaddr
  refine ⟨{ channel := client.core.channel, status, caddr, nat }, ?_, rfl⟩
  simp [EIBnetConnectionStateRequest.parse, TunnelClient.heartbeat,
    EIBnetConnectionStateRequest.toPacket, hread]

theorem recv_connectionStateRequest {server : EIBnetServer} {p : ReceivedPacket}
    {r1 : EIBnetConnectionStateRequest} {now : Nat} {accepted : Bool}
    (hservice : p.service = Service.connectionStateRequest)
    (hparse : EIBnetConnectionStateRequest.parse p { status := server.fresh 0 } = .ok (some r1)) :
    server.recv p now accepted = .ok (server.onConnectionStateRequest p.src r1 now) := by
  rw [EIBnetServer.recv, hservice, hparse]
  -- the services before it have other numbers
  simp [Service.connectionStateRequest, Service.searchRequest, Service.descriptionRequest,
    Service.routingIndication]

/-- The answer of the server: 0, or 21 without the connection. -/
theorem recv_heartbeat (s : HeartbeatPair) (src : SockaddrIn) (fresh : Nat → Byte) (now : Nat) :
    ∃ server dest status, s.server.recv { s.client.heartbeat fresh with src } now true =
        .ok (server, [.send dest (({ channel := s.client.core.channel, status } :
          EIBnetConnectionStateResponse).toPacket s.server.fresh)]) ∧
      (s.Held src → status = 0#8) ∧ (¬ s.Held src → status = 21#8) := by
  obtain ⟨r1, hparse, hchannel⟩ := parse_heartbeat s.client fresh src (s.server.fresh 0)
  have hheld : (s.server.state.any fun c =>
      c.channel = r1.channel ∧ compareIPAddress src c.caddr) ↔ s.Held src := by
    rw [List.any_eq_true, hchannel]
    exact exists_congr fun c => and_congr_right fun _ => decide_eq_true_iff
  refine ⟨(s.server.onConnectionStateRequest src r1 now).1, r1.caddr,
    if s.server.state.any fun c => c.channel = r1.channel ∧ compareIPAddress src c.caddr
      then 0#8 else 21#8, ?_, ?_, ?_⟩
  · rw [recv_connectionStateRequest rfl hparse, ← hchannel]
    rfl
  · intro h
    exact if_pos (hheld.mpr h)
  · intro h
    exact if_neg (mt hheld.mp h)

/-! ### The client -/

/-- The client leaves neither on 0 nor on 21. -/
theorem recv_answer (client : TunnelClient) (fresh : Nat → Byte) {status : Byte}
    (hstatus : status = 0#8 ∨ status = 21#8) (src : SockaddrIn) :
    ∃ client' actions, client.recv { ({ channel := client.core.channel, status } :
          EIBnetConnectionStateResponse).toPacket fresh with src } = .ok (client', actions) ∧
      client'.core.mod = client.core.mod := by
  have hparse : EIBnetConnectionStateResponse.parse (({ channel := client.core.channel, status } :
      EIBnetConnectionStateResponse).toPacket fresh) =
        some { channel := client.core.channel, status } := by
    have hbytes := EIBnetConnectionStateResponse.parseBytes_toPacket fresh
      { channel := client.core.channel, status } src
    rw [EIBnetConnectionStateResponse.parseBytes_eq] at hbytes
    exact Except.ok.inj hbytes
  have hrecv : client.recv { ({ channel := client.core.channel, status } :
      EIBnetConnectionStateResponse).toPacket fresh with src } =
        .ok (client.onConnectionStateResponse { channel := client.core.channel, status }) := by
    rw [TunnelClient.recv]
    refine (if_neg (show Service.connectionStateResponse ≠ _ by decide)).trans ?_
    rw [hparse]
  rcases hanswer : client.onConnectionStateResponse { channel := client.core.channel, status }
    with ⟨client', actions⟩
  refine ⟨client', actions, by rw [hrecv, hanswer], ?_⟩
  rw [TunnelClient.onConnectionStateResponse] at hanswer
  split_ifs at hanswer with hchannel hzero hgone
  · cases hanswer
    rfl
  · cases hanswer
    rfl
  · -- 21 is not 0x21
    rcases hstatus with rfl | rfl
    · exact absurd rfl hzero
    · exact absurd (show (21#8 : Byte) = 0x21#8 from hgone) (by decide)
  · cases hanswer
    rfl

/-! ### The result -/

/-- The two agree on a heartbeat exactly if the server has the connection. -/
theorem agrees_iff (src : SockaddrIn) :
    s.Agrees src ↔ (s.client.core.mod ≠ .notConnected → s.Held src) := by
  refine forall_congr' fun hmod => ?_
  constructor
  · -- without the connection the answer is 21, and the client stays
    intro hagrees
    by_contra hnot
    obtain ⟨client, ⟨server, dest, p, actions, hserver, hclient⟩, hleaves, -⟩ :=
      hagrees s.server.fresh 0
    obtain ⟨server', dest', status, hserver', -, hstatus⟩ :=
      s.recv_heartbeat src s.server.fresh 0
    cases hserver.symm.trans hserver'
    obtain ⟨client', actions', hclient', hsame⟩ := recv_answer s.client s.server.fresh
      (.inr (hstatus hnot)) s.client.caddr
    cases hclient.symm.trans hclient'
    rw [hleaves hnot] at hsame
    exact hmod hsame.symm
  · intro hheld fresh now
    obtain ⟨server, dest, status, hserver, hstatus, -⟩ := s.recv_heartbeat src fresh now
    obtain ⟨client, actions, hclient, hsame⟩ := recv_answer s.client s.server.fresh
      (.inl (hstatus hheld)) s.client.caddr
    refine ⟨client, ⟨server, dest, _, actions, hserver, hclient⟩, fun hnot => absurd hheld hnot, ?_⟩
    rw [hsame]
    exact fun _ => hmod

/-- Over a run of both programs, they agree on a heartbeat in every state reached if and only if
    the server has the connection in every state in which the client is connected.  A client whose
    connection is gone is never told. -/
theorem agrees_iff_connection_held (c : TunnelClient.Config) (server : EIBnetServer)
    (src : SockaddrIn) (es : List Event) :
    HoldsAlong step (Agrees src) ⟨TunnelClient.start c, server⟩ es ↔
      HoldsAlong step (fun s => s.client.core.mod ≠ .notConnected → s.Held src)
        ⟨TunnelClient.start c, server⟩ es := by
  constructor
  · intro h es₁ es₂ s hes hrun
    exact (agrees_iff src).mp (h es₁ es₂ s hes hrun)
  · intro h es₁ es₂ s hes hrun
    exact (agrees_iff src).mpr (h es₁ es₂ s hes hrun)

/-- The client connects, and is not heard of for 200 seconds. -/
def lostConnection : List Event :=
  .server (.pass (some (EIBnetServer.connectFrom 2 0x02#8)) 0 true) ::
    ((TunnelRun.passWith TunnelRun.opening).map .client ++ [.server (.pass none 200 true)])

/-- The server has dropped the connection, and its answer does not tell the client. -/
theorem lostConnection_disagrees : ∃ s,
    run step ⟨TunnelClient.start TunnelRun.plainConfig, EIBnetServer.tunnelServer⟩
        lostConnection = .ok s ∧
      s.client.core.mod = .idle ∧ s.server.state = [] ∧ ¬ s.Agrees (EIBnetServer.hostAddr 2) := by
  obtain ⟨s, hrun, hmod, hstate⟩ : ∃ s,
      run step ⟨TunnelClient.start TunnelRun.plainConfig, EIBnetServer.tunnelServer⟩
          lostConnection = .ok s ∧ s.client.core.mod = .idle ∧ s.server.state = [] := by
    decide +kernel
  refine ⟨s, hrun, hmod, hstate, fun h => ?_⟩
  obtain ⟨c, hc, -⟩ := (agrees_iff _).mp h fun h0 => nomatch h0.symm.trans hmod
  rw [hstate] at hc
  exact absurd hc List.not_mem_nil

end HeartbeatPair

end BcuSdk.Eibd
