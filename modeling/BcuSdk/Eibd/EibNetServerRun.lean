/-
  BcuSdk.Eibd.EibNetServerRun

  `EIBnetServer` with all its connections (eibd/libserver/eibnetserver.cpp).

  A pass of the loop of `Run` drops the expired NAT entries, handles the packet
  received, if there is one, removes a connection that has timed out and sends
  what is due.  Between two passes Layer 3 delivers frames.  A timer is the
  time at which it occurs.
-/
import BcuSdk.Eibd.EibNetIpBody
import BcuSdk.Eibd.EibNetServer
import BcuSdk.Lib.Run

namespace BcuSdk.Eibd

open BcuSdk.Lib

/-! ## Connections -/

/-- The types 0, 1 and 2 of a connection. -/
inductive ClientType where
  | linkLayer
  | busmonitor
  | device
  deriving DecidableEq, Repr

/-- `ConnState`, with everything in it. -/
structure ServerConn where
  channel : Byte
  sno : Byte := 0#8
  rno : Byte := 0#8
  state : Nat := 0
  type : ClientType
  /-- The frame number of the busmonitor. -/
  no : Nat := 1
  nat : Bool
  timeout : Nat
  out : List CArray := []
  daddr : SockaddrIn
  caddr : SockaddrIn
  /-- The value of the semaphore `outsignal`. -/
  outsignal : Nat := 0
  sendtimeout : Nat
  deriving DecidableEq, Repr

/-- What the server does to its surroundings. -/
inductive ServerAction where
  /-- `sock->Send` with this `sendaddr`. -/
  | send (dest : SockaddrIn) (p : EIBNetIPPacket)
  /-- `l3->send_L_Data`. -/
  | sendLData (l : LDataPDU)
  | registerVBusmonitor
  | deregisterVBusmonitor
  deriving DecidableEq, Repr

/-- `compareIPAddress`. -/
def compareIPAddress (a b : SockaddrIn) : Bool :=
  a.family = afInet ∧ b.family = afInet ∧ a.port = b.port ∧ a.addr = b.addr

namespace ServerConn

/-- `out.put` and `pth_sem_inc`. -/
def put (c : ServerConn) (cemi : CArray) : ServerConn :=
  { c with out := c.out ++ [cemi], outsignal := c.outsignal + 1 }

/-- `out.get` and `pth_sem_dec`. -/
def get (c : ServerConn) : Checked ServerConn := do
  let (_, out) ← Queue.get c.out
  return { c with out, outsignal := ← semDec c.outsignal }

/-- The connection as the tunnelling service sees it: only type 0 takes frames. -/
def tunnelConn (c : ServerConn) : ConnState where
  channel := c.channel
  sno := c.sno
  rno := c.rno
  state := c.state
  type := if c.type = .linkLayer then .linkLayer else .busmonitor
  out := c.out

/-- The `TUNNEL_REQUEST` branch from `reqf` on; `object` is the server. -/
def onTunnelRequest (object : Nat) (c : ServerConn) (r : EIBnetTunnelRequest) :
    Checked (ServerConn × List ServerAction) := do
  let ack (status : Byte) : ServerAction :=
    .send c.daddr ({ channel := r.channel, seqno := r.seqno, status } : EIBnetTunnelACK).toPacket
  if c.rno = r.seqno + 1#8 then
    return (c, [ack 0#8])
  else if c.rno ≠ r.seqno then
    return (c, [])
  else
    let ind ← c.tunnelConn.indication r.cemi
    let c' := match ind.confirm with
      | some cemi => c.put cemi
      | none => c
    return ({ c' with rno := c.rno + 1#8 },
      ind.passed.toList.map (fun l => .sendLData { l with object }) ++ [ack ind.status])

/-- The tests of `TUNNEL_RESPONSE` and `DEVICE_CONFIGURATION_ACK` behind the one of the address,
    and what follows; the services differ in the types they are for. -/
def onAck (types : ClientType → Bool) (c : ServerConn) (seqno status : Byte) :
    Checked (ServerConn × List ServerAction) := do
  if c.sno ≠ seqno then
    return (c, [])
  else if status ≠ 0#8 then
    return (c, [])
  else if c.state = 0 then
    return (c, [])
  else if types c.type = false then
    return (c, [])
  else
    return (← { c with sno := c.sno + 1#8, state := 0 }.get, [])

/-- The `TUNNEL_RESPONSE` branch from `reqf1` on. -/
def onTunnelResponse (c : ServerConn) (r : EIBnetTunnelACK) :=
  c.onAck (fun type => type = .linkLayer ∨ type = .busmonitor) r.seqno r.status

/-- The `DEVICE_CONFIGURATION_ACK` branch from `reqf2` on. -/
def onConfigACK (c : ServerConn) (r : EIBnetConfigACK) :=
  c.onAck (fun type => type = .device) r.seqno r.status

/-- The answer to an M_PropRead.req: the device object has one property, and it is empty. -/
def propertyResponse (cemi : CArray) : Checked CArray := do
  let obj := word16 (← readByte cemi 1) (← readByte cemi 2)
  let objno ← readByte cemi 3
  let prop ← readByte cemi 4
  let c5 ← readByte cemi 5
  let c6 ← readByte cemi 6
  let known : Prop := obj = 0#16 ∧ objno = 0#8 ∧ prop = 0#8
  let count := if known then (c5 >>> 4) &&& 0x0f#8 else 0#8
  -- both bytes of the start index are or-ed, so that it never exceeds one byte
  let start := if known then 0#8 else (c5 &&& 0x0f#8) ||| c6
  let res : CArray := if known then [0#8, 0#8] else [0#8]
  return setpart ([0xFB#8, hiByte obj, loByte obj, objno, prop, (count &&& 0x0f#8) <<< 4, start] ++
    List.replicate (res.length - 1) 0#8) res 7

/-- The `DEVICE_CONFIGURATION_REQUEST` branch from `reqf3` on. -/
def onConfigRequest (c : ServerConn) (r : EIBnetConfigRequest) (fresh : Nat → Byte) :
    Checked (ServerConn × List ServerAction) := do
  let ack (status : Byte) : ServerAction :=
    .send c.daddr (({ channel := r.channel, seqno := r.seqno, status } : EIBnetConfigACK).toPacket
      fresh)
  if c.rno = r.seqno + 1#8 then
    return (c, [ack 0#8])
  else if c.rno ≠ r.seqno then
    return (c, [])
  else if c.type = .device ∧ r.cemi.length > 1 then
    let code ← readByte r.cemi 0
    if code = 0xFC#8 ∧ r.cemi.length = 7 then
      let c' := c.put (← propertyResponse r.cemi)
      return ({ c' with rno := c.rno + 1#8 }, [ack 0x00#8])
    else
      return ({ c with rno := c.rno + 1#8 }, [ack 0x26#8])
  else
    return ({ c with rno := c.rno + 1#8 }, [ack 0x29#8])

/-- The body of the loop that sends. -/
def sendPhase (fresh : Nat → Byte) (now : Nat) (c : ServerConn) :
    Checked (ServerConn × List ServerAction) := do
  if (c.state ≠ 0 ∧ c.sendtimeout ≤ now) ∨ (c.state = 0 ∧ c.out ≠ []) then
    if c.state + 1 > 10 then
      -- given up: the frame goes, its number stays
      return ({ ← c.get with state := 0 }, [])
    else
      let cemi ← Queue.top c.out
      let p : EIBNetIPPacket :=
        if c.type = .device then
          ({ channel := c.channel, seqno := c.sno, cemi } : EIBnetConfigRequest).toPacket fresh
        else
          ({ channel := c.channel, seqno := c.sno, cemi } : EIBnetTunnelRequest).toPacket
      return ({ c with state := c.state + 1, sendtimeout := now + 1 }, [.send c.daddr p])
  else
    return (c, [])

end ServerConn

/-! ## The server -/

/-- `ROUTING_INDICATION`. -/
def Service.routingIndication : Word16 := 0x0530#16

/-- An entry of `natstate`, with its timer. -/
structure NATEntry extends NATState where
  timeout : Nat
  deriving DecidableEq, Repr

/-- `EIBnetServer`. -/
structure EIBnetServer where
  /-- The address of the object, which marks its own frames. -/
  object : Nat
  tunnel : Bool
  route : Bool
  discover : Bool
  showPrint : Bool
  /-- `Port`. -/
  port : Word16
  maddr : SockaddrIn
  /-- `GetSourceAddress`: the address the kernel sends from. -/
  sourceAddress : SockaddrIn → Option SockaddrIn
  /-- What newly allocated memory happens to hold. -/
  fresh : Nat → Byte
  busmoncount : Int := 0
  /-- Layer 3 has the server among its virtual busmonitors. -/
  vbusmonitor : Bool := false
  state : List ServerConn := []
  natstate : List NATEntry := []

namespace EIBnetServer

/-! ### Busmonitors -/

/-- `addBusmonitor`; `accepted` is the answer of `registerVBusmonitor`. -/
def addBusmonitor (s : EIBnetServer) (accepted : Bool) : EIBnetServer × List ServerAction :=
  if s.busmoncount = 0 then
    ({ s with
        vbusmonitor := s.vbusmonitor || accepted
        busmoncount := s.busmoncount + 1 }, [.registerVBusmonitor])
  else (s, [])

/-- `delBusmonitor`. -/
def delBusmonitor (s : EIBnetServer) : EIBnetServer × List ServerAction :=
  let s := { s with busmoncount := s.busmoncount - 1 }
  if s.busmoncount = 0 then ({ s with vbusmonitor := false }, [.deregisterVBusmonitor])
  else (s, [])

/-- The connection at index `i` is removed, as on a `DISCONNECT_REQUEST` and a timeout. -/
def removeClient (s : EIBnetServer) (i : Nat) : EIBnetServer × List ServerAction :=
  match s.state[i]? with
  | none => (s, [])
  | some c =>
      let s' := { s with state := s.state.eraseIdx i }
      if c.type = .busmonitor then s'.delBusmonitor else (s', [])

/-! ### addClient -/

/-- The loop at `rt` of `addClient`: `id` goes up while a connection has it.  The channels are
    bytes, so that it stops at 256 at the latest. -/
def freeId (state : List ServerConn) : Nat → Nat → Nat
  | 0, id => id
  | fuel + 1, id =>
      if state.any fun c => c.channel.toNat = id then freeId state fuel (id + 1) else id

/-- `addClient`. -/
def addClient (s : EIBnetServer) (type : ClientType) (r1 : EIBnetConnectRequest) (now : Nat) :
    Nat × EIBnetServer :=
  let id := freeId s.state 256 1
  if id ≤ 0xff then
    (id, { s with state := s.state ++
      [{ channel := BitVec.ofNat 8 id, type, nat := r1.nat, timeout := now + 120,
         daddr := r1.daddr, caddr := r1.caddr, sendtimeout := now + 1 }] })
  else (id, s)

/-! ### NAT -/

/-- `addNAT`. -/
def addNAT (s : EIBnetServer) (l : LDataPDU) (now : Nat) : EIBnetServer :=
  if l.addrType ≠ .individualAddress then s
  else
    match s.natstate.findIdx? fun n => n.src = l.source ∧ n.dest = l.dest with
    | some i => { s with natstate := s.natstate.modify i ({ · with timeout := now + 180 }) }
    | none => { s with natstate := s.natstate ++
        [{ src := l.source, dest := l.dest, timeout := now + 180 }] }

/-- The loop over `natstate` in `Run`: the entry behind a removed one is passed over. -/
def expireNAT (now : Nat) : List NATEntry → List NATEntry
  | [] => []
  | n :: rest =>
      if n.timeout ≤ now then
        match rest with
        | [] => []
        | m :: rest' => m :: expireNAT now rest'
      else n :: expireNAT now rest

/-! ### Frames from Layer 3 -/

/-- The server as the routing part of `Get_L_Data` sees it. -/
def listener (s : EIBnetServer) : ServerListener where
  object := s.object
  route := s.route
  natstate := s.natstate.map (·.toNATState)
  connTypes := s.state.map fun c =>
    match c.type with
    | .linkLayer => 0
    | .busmonitor => 1
    | .device => 2
  showPrint := s.showPrint

/-- `Get_L_Data`. -/
def getLData (s : EIBnetServer) (l : LDataPDU) : Checked (EIBnetServer × List ServerAction) := do
  if l.hopcount = 0#8 then
    return (s, [])
  else if l.object = s.object then
    return (s, [])
  else
    let l := l.decHopcount
    let routed ← s.listener.routeFrame l
    let sends := routed.filterMap fun
      | .routed data => some (.send s.maddr { service := Service.routingIndication, data })
      | _ => none
    let state ← s.state.mapM fun c => do
      if c.type = .linkLayer then return c.put (← lDataToCEMI 0x29#8 l) else return c
    return ({ s with state }, sends)

/-- `Get_L_Busmonitor`. -/
def getLBusmonitor (s : EIBnetServer) (l : LBusmonitorPDU) : EIBnetServer :=
  { s with state := s.state.map fun c =>
      if c.type = .busmonitor then
        { c.put (busmonitorToCEMI 0x2B#8 l c.no) with no := c.no + 1 }
      else c }

/-! ### Packets -/

/-- The members of `EIBnet_SearchResponse` and `EIBnet_DescriptionResponse` both branches set,
    with these families of services. -/
def deviceInfo (s : EIBnetServer) (families : List Byte) : DeviceInfo where
  knxMedium := 2#8
  multicastaddr := ⟨[byteOf s.maddr.addr 3, byteOf s.maddr.addr 2, byteOf s.maddr.addr 1,
    byteOf s.maddr.addr 0], rfl⟩
  name := ⟨[0x65#8, 0x69#8, 0x62#8, 0x64#8] ++ List.replicate 26 0#8, rfl⟩
  services := families.map fun family => { family, version := 1#8 }

/-- The `SEARCH_REQUEST` branch; `nat` of the answer is what the memory held. -/
def onSearchRequest (s : EIBnetServer) (r1 : EIBnetSearchRequest) (nat : Bool) :
    List ServerAction :=
  match s.sourceAddress r1.caddr with
  | none => []
  | some src =>
      let families := [2#8] ++ (if s.tunnel then [4#8] else []) ++ (if s.route then [5#8] else [])
      let r2 : EIBnetSearchResponse :=
        { s.deviceInfo families with caddr := { src with port := s.port }, nat }
      [.send r1.caddr (r2.toPacket s.fresh)]

/-- The `DESCRIPTION_REQUEST` branch. -/
def onDescriptionRequest (s : EIBnetServer) (r1 : EIBnetDescriptionRequest) : List ServerAction :=
  let families :=
    [2#8, 3#8] ++ (if s.tunnel then [4#8] else []) ++ (if s.route then [5#8] else [])
  let r2 : EIBnetDescriptionResponse := { s.deviceInfo families with }
  [.send r1.caddr (r2.toPacket s.fresh)]

/-- The `ROUTING_INDICATION` branch. -/
def onRoutingIndication (s : EIBnetServer) (data : CArray) (now : Nat) :
    Checked (EIBnetServer × List ServerAction) := do
  if data.length < 2 then
    return (s, [])
  else if (← readByte data 0) ≠ 0x29#8 then
    return (s, [])
  else
    match ← cemiToLData data with
    | none => return (s, [])
    | some c =>
        tracePrintf s.showPrint c.decode
        if c.hopcount = 0#8 then return (s, [])
        else
          -- marked as the server's own, so that it does not come back
          let c := c.decHopcount
          return (s.addNAT c now, [.sendLData { c with object := s.object }])

/-- The `CONNECTIONSTATE_REQUEST` branch. -/
def onConnectionStateRequest (s : EIBnetServer) (src : SockaddrIn)
    (r1 : EIBnetConnectionStateRequest) (now : Nat) : EIBnetServer × List ServerAction :=
  let known (c : ServerConn) : Bool := c.channel = r1.channel ∧ compareIPAddress src c.caddr
  -- 21, where `DISCONNECT_REQUEST` has 0x21
  let res : Byte := if s.state.any known then 0#8 else 21#8
  let state := s.state.map fun c => if known c then { c with timeout := now + 120 } else c
  let r2 : EIBnetConnectionStateResponse := { channel := r1.channel, status := res }
  ({ s with state }, [.send r1.caddr (r2.toPacket s.fresh)])

/-- The `DISCONNECT_REQUEST` branch. -/
def onDisconnectRequest (s : EIBnetServer) (src : SockaddrIn) (r1 : EIBnetDisconnectRequestFrom) :
    EIBnetServer × List ServerAction :=
  let answer (res : Byte) : ServerAction :=
    .send r1.caddr (({ channel := r1.channel, status := res } : EIBnetDisconnectResponse).toPacket
      s.fresh)
  match s.state.findIdx? fun c => c.channel = r1.channel ∧ compareIPAddress src c.caddr with
  | some i =>
      let (s', actions) := s.removeClient i
      (s', actions ++ [answer 0#8])
  | none => (s, [answer 0x21#8])

/-- The type a `CONNECTION_REQUEST` asks for, if the server has it. -/
def requestedType (s : EIBnetServer) (cri : CArray) : Option ClientType :=
  match cri with
  | [c0, c1, _] =>
      if c0 = 4#8 ∧ s.tunnel then
        if c1 = 0x02#8 then some .linkLayer
        else if c1 = 0x80#8 then some .busmonitor
        else none
      else none
  | [c0] => if c0 = 3#8 then some .device else none
  | _ => none

/-- `CRD` of the answer. -/
def responseCRD (s : EIBnetServer) (cri : CArray) : CArray :=
  match cri with
  | [c0, _, _] => if c0 = 4#8 ∧ s.tunnel then [0x04#8, 0x00#8, 0x00#8] else []
  | [c0] => if c0 = 3#8 then [0x03#8] else []
  | _ => []

/-- The part of the `CONNECTION_REQUEST` branch that opens the connection: the channel, if there
    is a new one. -/
def openClient (s : EIBnetServer) (r1 : EIBnetConnectRequest) (now : Nat) (accepted : Bool) :
    Option Nat × EIBnetServer × List ServerAction :=
  match s.requestedType r1.cri with
  | none => (none, s, [])
  | some type =>
      let (id, s') := s.addClient type r1 now
      -- 256 is returned when all channels are in use
      if id ≤ 0xff then
        if type = .busmonitor then
          let (s'', actions) := s'.addBusmonitor accepted
          (some id, s'', actions)
        else (some id, s', [])
      else (none, s', [])

/-- The `CONNECTION_REQUEST` branch. -/
def onConnectionRequest (s : EIBnetServer) (r1 : EIBnetConnectRequest) (now : Nat)
    (accepted : Bool) : EIBnetServer × List ServerAction :=
  let (id, s', actions) := s.openClient r1 now accepted
  match s.sourceAddress r1.caddr with
  -- no answer, but the connection is there
  | none => (s', actions)
  | some src =>
      let r2 : EIBnetConnectResponse :=
        { channel := BitVec.ofNat 8 (id.getD 0), status := if id.isSome then 0#8 else 0x22#8,
          daddr := { src with port := s.port }, nat := r1.nat, crd := s.responseCRD r1.cri }
      (s', actions ++ [.send r1.caddr (r2.toPacket s.fresh)])

/-- The lookup of the data services: the first connection with the channel, if the packet comes
    from its data endpoint. -/
def onConnection (s : EIBnetServer) (src : SockaddrIn) (channel : Byte)
    (f : ServerConn → Checked (ServerConn × List ServerAction)) :
    Checked (EIBnetServer × List ServerAction) := do
  match s.state.findIdx? fun c => c.channel = channel with
  | none => return (s, [])
  | some i =>
      match s.state[i]? with
      | none => .error .outOfBounds
      | some c =>
          if compareIPAddress src c.daddr then
            let (c', actions) ← f c
            return ({ s with state := s.state.set i c' }, actions)
          else
            return (s, [])

/-- The packet handling of `Run`.  A packet with a service of its own falls through all tests. -/
def recv (s : EIBnetServer) (p : ReceivedPacket) (now : Nat) (accepted : Bool) :
    Checked (EIBnetServer × List ServerAction) := do
  if p.service = Service.searchRequest ∧ s.discover then
    let some r1 ← EIBnetSearchRequest.parse p {} | return (s, [])
    return (s, s.onSearchRequest r1 (s.fresh 0 ≠ 0#8))
  else if p.service = Service.descriptionRequest ∧ s.discover then
    let some r1 ← EIBnetDescriptionRequest.parse p {} | return (s, [])
    return (s, s.onDescriptionRequest r1)
  else if p.service = Service.routingIndication ∧ s.route then
    s.onRoutingIndication p.data now
  else if p.service = Service.connectionStateRequest then
    let some r1 ← EIBnetConnectionStateRequest.parse p { status := s.fresh 0 } | return (s, [])
    return s.onConnectionStateRequest p.src r1 now
  else if p.service = Service.disconnectRequest then
    let some r1 ← EIBnetDisconnectRequestFrom.parse p {} | return (s, [])
    return s.onDisconnectRequest p.src r1
  else if p.service = Service.connectionRequest then
    let some r1 ← EIBnetConnectRequest.parse p {} | return (s, [])
    return s.onConnectionRequest r1 now accepted
  else if p.service = Service.tunnelRequest ∧ s.tunnel then
    let some r1 ← EIBnetTunnelRequest.parseBytes p | return (s, [])
    s.onConnection p.src r1.channel (·.onTunnelRequest s.object r1)
  else if p.service = Service.tunnelResponse ∧ s.tunnel then
    let some r1 ← EIBnetTunnelACK.parseBytes p | return (s, [])
    s.onConnection p.src r1.channel (·.onTunnelResponse r1)
  else if p.service = Service.deviceConfigurationRequest then
    let some r1 ← EIBnetConfigRequest.parse p | return (s, [])
    s.onConnection p.src r1.channel (·.onConfigRequest r1 s.fresh)
  else if p.service = Service.deviceConfigurationAck then
    let some r1 ← EIBnetConfigACK.parse p | return (s, [])
    s.onConnection p.src r1.channel (·.onConfigACK r1)
  else
    return (s, [])

/-! ### The loop -/

/-- The loop over the timers of the connections: at most one is removed in a pass. -/
def expireClient (s : EIBnetServer) (now : Nat) : EIBnetServer × List ServerAction :=
  match s.state.findIdx? fun c => c.timeout ≤ now with
  | some i => s.removeClient i
  | none => (s, [])

/-- The loop that sends. -/
def sendAll (s : EIBnetServer) (now : Nat) : Checked (EIBnetServer × List ServerAction) := do
  let turns ← s.state.mapM (ServerConn.sendPhase s.fresh now)
  return ({ s with state := turns.map (·.1) }, turns.flatMap (·.2))

/-- One pass of the loop of `Run`. -/
def pass (s : EIBnetServer) (p1 : Option ReceivedPacket) (now : Nat) (accepted : Bool) :
    Checked (EIBnetServer × List ServerAction) := do
  let s := { s with natstate := expireNAT now s.natstate }
  let (s, received) ← match p1 with
    | some p => s.recv p now accepted
    | none => pure (s, [])
  let (s, expired) := s.expireClient now
  let (s, sent) ← s.sendAll now
  return (s, received ++ expired ++ sent)

/-- What can happen next. -/
inductive Event where
  | pass (p1 : Option ReceivedPacket) (now : Nat) (accepted : Bool)
  | lData (l : LDataPDU)
  | lBusmonitor (l : LBusmonitorPDU)

def step (s : EIBnetServer) : Event → Checked EIBnetServer
  | .pass p1 now accepted => do return (← s.pass p1 now accepted).1
  | .lData l => do return (← s.getLData l).1
  | .lBusmonitor l => .ok (s.getLBusmonitor l)

/-- The server has just been started. -/
structure Started (s : EIBnetServer) : Prop where
  state : s.state = []
  busmoncount : s.busmoncount = 0
  vbusmonitor : s.vbusmonitor = false

end EIBnetServer

end BcuSdk.Eibd
