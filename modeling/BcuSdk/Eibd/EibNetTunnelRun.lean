/-
  BcuSdk.Eibd.EibNetTunnelRun

  `EIBNetIPTunnel` with its semaphore, its addresses and its socket
  (eibd/backend/eibnettunnel.cpp, and `EIBNetIPSocket` in
  eibd/libserver/eibnetip.cpp).

  A pass of the loop of `Run` has five phases: it gets a packet, looks at the
  two timers, removes a marker and sends.  Every datagram that is sent gives way
  to the other threads, so that these can append to `inqueue` between any two
  phases.
-/
import BcuSdk.Eibd.EibNetIpBody
import BcuSdk.Eibd.EibNetTunnel
import BcuSdk.Lib.Run

namespace BcuSdk.Eibd

open BcuSdk.Lib

/-! ## The socket -/

/-- The members of `EIBNetIPSocket` that say which datagrams it takes in. -/
structure SocketFilter where
  recvall : Nat := 0
  recvaddr : SockaddrIn := {}
  recvaddr2 : SockaddrIn := {}
  localaddr : SockaddrIn := {}
  deriving DecidableEq, Repr

/-- The test of `EIBNetIPSocket::Run` on the sender of a datagram. -/
def SocketFilter.accepts (f : SocketFilter) (r : SockaddrIn) : Bool :=
  f.recvall = 1 ∨ r = f.recvaddr ∨ (f.recvall = 2 ∧ r ≠ f.localaddr) ∨
    (f.recvall = 3 ∧ r = f.recvaddr2)

/-! ## The state -/

/-- What the loop of `Run` does next. -/
inductive TunnelPhase where
  | get
  | timeout
  | timeout1
  | marker
  | send
  deriving DecidableEq, Repr

/-- The order of the phases. -/
def TunnelPhase.next : TunnelPhase → TunnelPhase
  | .get => .timeout
  | .timeout => .timeout1
  | .timeout1 => .marker
  | .marker => .send
  | .send => .get

/-- `EIBNetIPTunnel` and the variables of its `Run`, with everything in them. -/
structure TunnelClient where
  core : EIBNetIPTunnel
  /-- `channel` is no longer -1. -/
  assigned : Bool := false
  /-- The value of the semaphore `insignal`. -/
  insignal : Nat := 0
  sock : SocketFilter
  caddr : SockaddrIn
  daddr : SockaddrIn := {}
  saddr : SockaddrIn
  nat : Bool
  /-- `none` is -1. -/
  dataport : Option Word16
  /-- `cresp.nat`. -/
  crespNat : Bool := false
  phase : TunnelPhase := .get
  deriving DecidableEq, Repr

namespace TunnelClient

/-! ## The other threads -/

/-- `inqueue.put` and `pth_sem_inc`. -/
def put (s : TunnelClient) (cemi : CArray) : TunnelClient :=
  { s with core := s.core.put cemi, insignal := s.insignal + 1 }

/-- `Send_L_Data`. -/
def sendLData (s : TunnelClient) (l : LPDU) : Checked (TunnelClient × List TunnelAction) := do
  if l.getType ≠ .lData then
    return (s, [])
  else
    match l with
    | .lData l1 =>
        tracePrintf s.core.showPrint l1.decode
        let s' := s.put (← lDataToCEMI 0x11#8 l1)
        if s.core.vmode then
          return (s', [.out (some (.busmonitor { pdu := ← l1.toPacket })), .out (some l)])
        else
          return (s', [.out (some l)])
    | _ => return (s, [])

/-- `enterBusmonitor`. -/
def enterBusmonitor (s : TunnelClient) : TunnelClient :=
  let core := { s.core with
    mode := true
    connectBusmonitor := s.core.supportBusmonitor || s.core.connectBusmonitor }
  { s with core }.put []

/-- `leaveBusmonitor`. -/
def leaveBusmonitor (s : TunnelClient) : TunnelClient :=
  { s with core := { s.core with mode := false, connectBusmonitor := false } }.put []

/-- `openVBusmonitor` and `closeVBusmonitor`. -/
def setVBusmonitor (s : TunnelClient) (vmode : Bool) : TunnelClient :=
  { s with core := { s.core with vmode } }

/-! ## Packets -/

/-- `pth_sem_dec` and `inqueue.get`. -/
def get (s : TunnelClient) : Checked (CArray × TunnelClient) := do
  let insignal ← semDec s.insignal
  let (c, inqueue) ← Queue.get s.core.inqueue
  return (c, { s with insignal, core := { s.core with inqueue } })

/-- `recvall` and `mod` become 0. -/
def close (s : TunnelClient) : TunnelClient :=
  { s with core := { s.core with mod := .notConnected }, sock := { s.sock with recvall := 0 } }

/-- A `DISCONNECT_REQUEST` is sent, and the connection is over. -/
def hangUp (s : TunnelClient) : TunnelClient × List TunnelAction :=
  (s.close, [.control Service.disconnectRequest s.core.channel])

/-- What the parser of a `CONNECTION_RESPONSE` leaves in `cresp.nat`.  It is set before the last
    test, and nothing resets it. -/
def parsedNat (p : ReceivedPacket) (nat : Bool) : Checked Bool := do
  if p.data.length < 12 then return nat
  if (← readByte p.data 1) ≠ 0#8 then return nat
  let some (_, nat) ← eibnetToIP (← readSlice p.data 2 8) p.src nat | return nat
  return nat

/-- `daddr` of a new connection. -/
def dataEndpoint (s : TunnelClient) (cresp : EIBnetConnectResponse) : SockaddrIn :=
  if cresp.nat then cresp.daddr
  else
    { cresp.daddr with
      addr := if s.nat then s.caddr.addr else cresp.daddr.addr
      port := s.dataport.getD cresp.daddr.port }

/-- The `CONNECTION_RESPONSE` branch. -/
def onConnectResponse (s : TunnelClient) (p : ReceivedPacket) :
    Checked (TunnelClient × List TunnelAction) := do
  if s.core.mod ≠ .notConnected then
    return (s, [])
  else
    let parsed ← EIBnetConnectResponse.parse p { nat := s.crespNat }
    let s := { s with crespNat := ← parsedNat p s.crespNat }
    match parsed with
    | none => return (s, [])
    | some cresp =>
        if cresp.status ≠ 0#8 then
          -- the server has no busmonitor: the next attempt is for a plain connection
          if cresp.status = 0x23#8 ∧ s.core.supportBusmonitor ∧ s.core.connectBusmonitor then
            let core := { s.core with supportBusmonitor := false, connectBusmonitor := false }
            return ({ s with core }, [.connect false])
          else
            return (s, [])
        else
          -- the data of the response is the own address
          match cresp.crd with
          | [_, a1, a0] =>
              let daddr := s.dataEndpoint cresp
              return ({ s with
                core := s.core.connected cresp.channel (word16 a1 a0)
                assigned := true
                daddr
                sock := { s.sock with recvaddr2 := daddr, recvall := 3 } }, [])
          | _ => return (s, [])

/-- The `TUNNEL_REQUEST` branch. -/
def onTunnelRequest (s : TunnelClient) (r : EIBnetTunnelRequest) :
    Checked (TunnelClient × List TunnelAction) := do
  if r.channel ≠ s.core.channel then
    return (s, [])
  else if r.seqno + 1#8 = s.core.rno then
    -- the last frame again: `recvall` is cleared here, and `mod` is not
    return ({ s with sock := { s.sock with recvall := 0 } }, [.repeated, s.core.answer r.seqno])
  else if r.seqno ≠ s.core.rno then
    -- without the wrap around of the numbers
    if r.seqno.toNat ≥ s.core.rno.toNat + 5 then
      return s.hangUp
    else
      return (s, [])
  else
    let (core, outs) ← { s.core with rno := s.core.rno + 1#8 }.indication r.cemi
    return ({ s with core }, .taken r.cemi :: s.core.answer r.seqno :: outs)

/-- The `TUNNEL_RESPONSE` branch. -/
def onTunnelResponse (s : TunnelClient) (r : EIBnetTunnelACK) :
    Checked (TunnelClient × List TunnelAction) := do
  if r.channel ≠ s.core.channel then
    return (s, [])
  else if r.seqno ≠ s.core.sno then
    return (s, [])
  else if r.status ≠ 0#8 then
    return (s, [])
  else if s.core.mod ≠ .ackWait then
    return (s, [])
  else
    let (c, s) ← s.get
    let core := { s.core with
      sno := s.core.sno + 1#8
      mod := if s.core.noqueue then .confirmWait else .idle
      retry := 0
      drop := 0 }
    return ({ s with core }, [.acked c])

/-- The `CONNECTIONSTATE_RESPONSE` branch. -/
def onConnectionStateResponse (s : TunnelClient) (r : EIBnetConnectionStateResponse) :
    TunnelClient × List TunnelAction :=
  if s.assigned = false ∨ r.channel ≠ s.core.channel then (s, [])
  else if r.status = 0#8 then
    ({ s with core := { s.core with heartbeat := s.core.heartbeat - 1 } }, [])
  -- any other error is only traced
  else if r.status = 0x21#8 then s.hangUp
  else (s, [])

/-- The `DISCONNECT_REQUEST` branch. -/
def onDisconnectRequest (s : TunnelClient) (r : EIBnetDisconnectRequest) :
    TunnelClient × List TunnelAction :=
  if r.channel ≠ s.core.channel then (s, [])
  else (s.close, [.control Service.disconnectResponse s.core.channel])

/-- The `DISCONNECT_RESPONSE` branch. -/
def onDisconnectResponse (s : TunnelClient) (r : EIBnetDisconnectResponse) :
    TunnelClient × List TunnelAction :=
  if r.channel ≠ s.core.channel then (s, []) else (s.close, [])

/-- The switch over the services. -/
def recv (s : TunnelClient) (p : ReceivedPacket) : Checked (TunnelClient × List TunnelAction) :=
  if p.service = Service.connectionResponse then
    s.onConnectResponse p
  else if let some r := EIBnetConnectionStateResponse.parse p.toEIBNetIPPacket then
    .ok (s.onConnectionStateResponse r)
  else if s.core.mod = .notConnected then
    .ok (s, [])
  else if let some r := EIBnetTunnelRequest.parse p.toEIBNetIPPacket then
    s.onTunnelRequest r
  else if let some r := EIBnetTunnelACK.parse p.toEIBNetIPPacket then
    s.onTunnelResponse r
  else if let some r := EIBnetDisconnectRequest.parse p.toEIBNetIPPacket then
    .ok (s.onDisconnectRequest r)
  else if let some r := EIBnetDisconnectResponse.parse p.toEIBNetIPPacket then
    .ok (s.onDisconnectResponse r)
  else
    .ok (s, [])

/-! ## The phases of a pass -/

/-- What the loop finds: the packet `sock->Get` returns, and whether the two timers have
    occurred.  A phase looks at one of them. -/
structure LoopInput where
  p1 : Option ReceivedPacket := none
  timeout : Bool := false
  timeout1 : Bool := false
  deriving DecidableEq, Repr

/-- `timeout` has occurred. -/
def onTimeout (s : TunnelClient) : Checked (TunnelClient × List TunnelAction) := do
  match s.core.mod with
  | .ackWait =>
      if s.core.retry + 1 > 3 then
        -- the frame goes, its number stays
        let (c, s) ← s.get
        let s := { s with
          core := { s.core with mod := .idle, retry := 0, drop := s.core.drop + 1 } }
        if s.core.drop ≥ 3 then
          return (s.hangUp.1, .dropped c :: s.hangUp.2)
        else
          return (s, [.dropped c])
      else
        return ({ s with core := { s.core with mod := .idle, retry := s.core.retry + 1 } }, [])
  | .confirmWait => return ({ s with core := { s.core with mod := .idle } }, [])
  | _ => return (s, [])

/-- `timeout1` has occurred. -/
def onHeartbeat (s : TunnelClient) : TunnelClient × List TunnelAction :=
  if s.core.mod = .notConnected then
    (s, [.connect (s.core.connectBusmonitor && s.core.supportBusmonitor)])
  else if s.core.heartbeat < 5 then
    ({ s with core := { s.core with heartbeat := s.core.heartbeat + 1 } },
      [.control Service.connectionStateRequest s.core.channel])
  else
    (s.close, if s.assigned then [.control Service.disconnectRequest s.core.channel] else [])

/-- A marker in front of `inqueue` is removed. -/
def dropMarker (s : TunnelClient) : Checked (TunnelClient × List TunnelAction) := do
  if s.core.inqueue.head? = some [] then
    let (c, s) ← s.get
    return (s, .dropped c ::
      if s.core.supportBusmonitor then [.control Service.disconnectRequest s.core.channel] else [])
  else
    return (s, [])

/-- The last phase. -/
def sendPhase (s : TunnelClient) : Checked (TunnelClient × List TunnelAction) := do
  let (core, actions) ← s.core.sendPhase
  return ({ s with core }, actions)

/-- What is done in the next phase. -/
def act (s : TunnelClient) (i : LoopInput) : Checked (TunnelClient × List TunnelAction) :=
  match s.phase with
  | .get =>
      match i.p1 with
      | some p => s.recv p
      | none => .ok (s, [])
  | .timeout => if i.timeout then s.onTimeout else .ok (s, [])
  | .timeout1 => if i.timeout1 then .ok s.onHeartbeat else .ok (s, [])
  | .marker => s.dropMarker
  | .send => s.sendPhase

/-- The next phase of the loop. -/
def loop (s : TunnelClient) (i : LoopInput) : Checked (TunnelClient × List TunnelAction) := do
  let (s', actions) ← s.act i
  return ({ s' with phase := s.phase.next }, actions)

/-- What can happen next. -/
inductive Event where
  | loop (i : LoopInput)
  | sendLData (l : LPDU)
  | enterBusmonitor
  | leaveBusmonitor
  | setVBusmonitor (vmode : Bool)
  deriving DecidableEq, Repr

def step (s : TunnelClient) : Event → Checked (TunnelClient × List TunnelAction)
  | .loop i => s.loop i
  | .sendLData l => s.sendLData l
  | .enterBusmonitor => .ok (s.enterBusmonitor, [])
  | .leaveBusmonitor => .ok (s.leaveBusmonitor, [])
  | .setVBusmonitor vmode => .ok (s.setVBusmonitor vmode, [])

/-- What the constructor is called with. -/
structure Config where
  caddr : SockaddrIn
  saddr : SockaddrIn
  nat : Bool
  dataport : Option Word16
  noqueue : Bool
  showPrint : Bool
  deriving DecidableEq, Repr

/-- The constructor has run, and `Run` has sent its first `CONNECTION_REQUEST`. -/
def start (c : Config) : TunnelClient where
  core := { channel := 0xff#8, noqueue := c.noqueue, showPrint := c.showPrint }
  sock := { recvaddr := c.caddr }
  caddr := c.caddr
  saddr := c.saddr
  nat := c.nat
  dataport := c.dataport

end TunnelClient

/-! ## Runs -/

/-- The `TUNNEL_REQUEST` among the actions of a phase. -/
def TunnelAction.tunnelRequest : TunnelAction → Option EIBNetIPPacket
  | .send p => if p.service = Service.tunnelRequest then some p else none
  | _ => none

/-- A client and the `TUNNEL_REQUEST` packets it has sent. -/
structure TunnelRun where
  client : TunnelClient
  sent : List EIBNetIPPacket := []
  deriving DecidableEq, Repr

/-- The client takes a step, and its packets are noted. -/
def TunnelRun.step (s : TunnelRun) (e : TunnelClient.Event) : Checked TunnelRun := do
  let (client, actions) ← s.client.step e
  return { client, sent := s.sent ++ actions.filterMap TunnelAction.tunnelRequest }

end BcuSdk.Eibd
