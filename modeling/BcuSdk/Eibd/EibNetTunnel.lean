/-
  BcuSdk.Eibd.EibNetTunnel

  A connection of `EIBNetIPTunnel` (eibd/backend/eibnettunnel.cpp), from the
  `CONNECTION_RESPONSE` that opens it.

  One pass of the loop of `Run` handles the packet received, if there is one,
  then the timers, then a marker in front of `inqueue`, and then sends.  These
  phases are `recv`, `onTimeout`, `onHeartbeat`, `dropMarker` and `sendPhase`.
-/
import BcuSdk.Eibd.EibNetIp
import BcuSdk.Eibd.Layer3

namespace BcuSdk.Eibd

open BcuSdk.Lib

/-- The values of `mod`. -/
inductive TunnelMod where
  | notConnected
  | idle
  | ackWait
  /-- With `noqueue`, the confirmation is waited for as well. -/
  | confirmWait
  deriving DecidableEq, Repr

/-- `EIBNetIPTunnel` and the variables of its `Run`; `outqueue` shows in the actions.  `rno` and
    `sno` are set to zero when they exceed `0xff`. -/
structure EIBNetIPTunnel where
  channel : Byte
  mod : TunnelMod := .notConnected
  rno : Byte := 0#8
  sno : Byte := 0#8
  retry : Nat := 0
  heartbeat : Nat := 0
  drop : Nat := 0
  myaddr : EibAddr := 0
  inqueue : List CArray := []
  /-- `mode`: busmonitor frames are delivered in place of the frames. -/
  mode : Bool := false
  vmode : Bool := false
  noqueue : Bool := false
  supportBusmonitor : Bool := true
  connectBusmonitor : Bool := false
  showPrint : Bool := false
  deriving DecidableEq, Repr

namespace EIBNetIPTunnel

/-- The `CONNECTION_RESPONSE` branch with status 0, when not connected. -/
def connected (s : EIBNetIPTunnel) (channel : Byte) (myaddr : EibAddr) : EIBNetIPTunnel :=
  { s with channel, myaddr, mod := .idle, sno := 0#8, rno := 0#8, heartbeat := 0 }

/-- `inqueue.put`: a frame of `Send_L_Data`, or the empty marker of `enterBusmonitor` and
    `leaveBusmonitor`. -/
def put (s : EIBNetIPTunnel) (cemi : CArray) : EIBNetIPTunnel :=
  { s with inqueue := s.inqueue ++ [cemi] }

/-- A `DISCONNECT_REQUEST` is sent, and the connection is over. -/
def disconnect (s : EIBNetIPTunnel) : EIBNetIPTunnel × List TunnelAction :=
  ({ s with mod := .notConnected }, [.control Service.disconnectRequest s.channel])

/-- The answer to a `TUNNEL_REQUEST`. -/
def answer (s : EIBNetIPTunnel) (seqno : Byte) : TunnelAction :=
  .send ({ channel := s.channel, seqno } : EIBnetTunnelACK).toPacket

/-- An `L_Data.ind` on its way to Layer 3. -/
def onLData (s : EIBNetIPTunnel) (c : LDataPDU) : Checked (List TunnelAction) := do
  tracePrintf s.showPrint c.decode
  if s.mode then
    return [.out (some (.busmonitor { pdu := ← c.toPacket }))]
  else
    let ind :=
      if c.addrType = .individualAddress ∧ c.dest = s.myaddr then { c with dest := 0 } else c
    if s.vmode then
      return [.out (some (.busmonitor { pdu := ← c.toPacket })), .out (some (.lData ind))]
    else
      return [.out (some (.lData ind))]

/-- What an accepted frame leads to besides the answer. -/
def indication (s : EIBNetIPTunnel) (cemi : CArray) :
    Checked (EIBNetIPTunnel × List TunnelAction) := do
  let code ← readByte cemi 0
  if code = 0x2E#8 then
    return (if s.mod = .confirmWait then { s with mod := .idle } else s, [])
  else if code = 0x2B#8 then
    return (s, [.out ((← cemiToBusmonitor cemi).map .busmonitor)])
  else if code ≠ 0x29#8 then
    return (s, [])
  else
    match ← cemiToLData cemi with
    | some c => return (s, ← s.onLData c)
    | none => return (s, [])

/-- The `TUNNEL_REQUEST` branch.  `treq.seqno += 0x100` has no effect on a `uchar`. -/
def onTunnelRequest (s : EIBNetIPTunnel) (r : EIBnetTunnelRequest) :
    Checked (EIBNetIPTunnel × List TunnelAction) := do
  if r.channel ≠ s.channel then
    return (s, [])
  else if r.seqno + 1#8 = s.rno then
    return (s, [.repeated, s.answer r.seqno])
  else if r.seqno ≠ s.rno then
    if r.seqno.toNat ≥ s.rno.toNat + 5 then
      return s.disconnect
    else
      return (s, [])
  else
    -- counted before the frame is looked at, and answered whatever becomes of it
    let (s', outs) ← { s with rno := s.rno + 1#8 }.indication r.cemi
    return (s', .taken r.cemi :: s.answer r.seqno :: outs)

/-- The `TUNNEL_RESPONSE` branch. -/
def onTunnelResponse (s : EIBNetIPTunnel) (r : EIBnetTunnelACK) :
    Checked (EIBNetIPTunnel × List TunnelAction) := do
  if r.channel ≠ s.channel then
    return (s, [])
  else if r.seqno ≠ s.sno then
    return (s, [])
  else if r.status ≠ 0#8 then
    return (s, [])
  else if s.mod ≠ .ackWait then
    return (s, [])
  else
    let (c, inqueue) ← Queue.get s.inqueue
    let mod := if s.noqueue then .confirmWait else .idle
    return ({ s with sno := s.sno + 1#8, inqueue, mod, retry := 0, drop := 0 }, [.acked c])

/-- The `CONNECTIONSTATE_RESPONSE` branch. -/
def onConnectionStateResponse (s : EIBNetIPTunnel) (r : EIBnetConnectionStateResponse) :
    EIBNetIPTunnel × List TunnelAction :=
  if r.channel ≠ s.channel then (s, [])
  else if r.status = 0#8 then ({ s with heartbeat := s.heartbeat - 1 }, [])
  else if r.status = 0x21#8 then s.disconnect
  else (s, [])

/-- The `DISCONNECT_REQUEST` branch. -/
def onDisconnectRequest (s : EIBNetIPTunnel) (r : EIBnetDisconnectRequest) :
    EIBNetIPTunnel × List TunnelAction :=
  if r.channel ≠ s.channel then (s, [])
  else ({ s with mod := .notConnected }, [.control Service.disconnectResponse s.channel])

/-- The `DISCONNECT_RESPONSE` branch. -/
def onDisconnectResponse (s : EIBNetIPTunnel) (r : EIBnetDisconnectResponse) :
    EIBNetIPTunnel × List TunnelAction :=
  if r.channel ≠ s.channel then (s, []) else ({ s with mod := .notConnected }, [])

/-- The first phase of a pass.  A `CONNECTION_RESPONSE` is unexpected on an open connection, and
    opens another one when this one is over. -/
def recv (s : EIBNetIPTunnel) (p : EIBNetIPPacket) : Checked (EIBNetIPTunnel × List TunnelAction) :=
  if let some r := EIBnetConnectionStateResponse.parse p then
    .ok (s.onConnectionStateResponse r)
  else if s.mod = .notConnected then
    .ok (s, [])
  else if let some r := EIBnetTunnelRequest.parse p then
    s.onTunnelRequest r
  else if let some r := EIBnetTunnelACK.parse p then
    s.onTunnelResponse r
  else if let some r := EIBnetDisconnectRequest.parse p then
    .ok (s.onDisconnectRequest r)
  else if let some r := EIBnetDisconnectResponse.parse p then
    .ok (s.onDisconnectResponse r)
  else
    .ok (s, [])

/-- `timeout` has occurred. -/
def onTimeout (s : EIBNetIPTunnel) : Checked (EIBNetIPTunnel × List TunnelAction) := do
  match s.mod with
  | .ackWait =>
      if s.retry + 1 > 3 then
        -- given up: the frame goes, its number stays
        let (c, inqueue) ← Queue.get s.inqueue
        let s' := { s with inqueue, mod := .idle, retry := 0, drop := s.drop + 1 }
        if s'.drop ≥ 3 then
          let (s'', actions) := s'.disconnect
          return (s'', .dropped c :: actions)
        else
          return (s', [.dropped c])
      else
        -- back in state 1 the frame in front is sent again
        return ({ s with mod := .idle, retry := s.retry + 1 }, [])
  | .confirmWait => return ({ s with mod := .idle }, [])
  | _ => return (s, [])

/-- `timeout1` has occurred. -/
def onHeartbeat (s : EIBNetIPTunnel) : EIBNetIPTunnel × List TunnelAction :=
  if s.mod = .notConnected then
    (s, [.connect (s.connectBusmonitor && s.supportBusmonitor)])
  else if s.heartbeat < 5 then
    ({ s with heartbeat := s.heartbeat + 1 }, [.control Service.connectionStateRequest s.channel])
  else
    s.disconnect

/-- An empty frame in front of `inqueue` is removed. -/
def dropMarker (s : EIBNetIPTunnel) : EIBNetIPTunnel × List TunnelAction :=
  match s.inqueue with
  | [] :: inqueue =>
      ({ s with inqueue }, .dropped [] ::
        if s.supportBusmonitor then [.control Service.disconnectRequest s.channel] else [])
  | _ => (s, [])

/-- The last phase of a pass. -/
def sendPhase (s : EIBNetIPTunnel) : Checked (EIBNetIPTunnel × List TunnelAction) := do
  if s.inqueue ≠ [] ∧ s.mod = .idle then
    let cemi ← Queue.top s.inqueue
    let r : EIBnetTunnelRequest := { channel := s.channel, seqno := s.sno, cemi }
    return ({ s with mod := .ackWait }, [.send r.toPacket])
  else
    return (s, [])

end EIBNetIPTunnel

end BcuSdk.Eibd
