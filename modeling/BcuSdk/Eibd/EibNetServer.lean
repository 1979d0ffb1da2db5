/-
  BcuSdk.Eibd.EibNetServer

  A tunnelling connection of `EIBnetServer` (eibd/libserver/eibnetserver.cpp).

  One pass of the loop of `Run` handles the datagram received, if there is one,
  and then goes through the connections and sends.  For one connection these
  two phases are `recv` and `sendPhase`.
-/
import BcuSdk.Eibd.EibNetIp
import BcuSdk.Eibd.Layer3

namespace BcuSdk.Eibd

open BcuSdk.Lib

/-- The types 0 and 1 of a connection.  Type 2 is for device management, which has a service of
    its own. -/
inductive ConnType where
  | linkLayer
  | busmonitor
  deriving DecidableEq, Repr

/-- `ConnState`, without timers, addresses and the frame number of the busmonitor. -/
structure ConnState where
  channel : Byte
  sno : Byte := 0#8
  rno : Byte := 0#8
  state : Nat := 0
  type : ConnType
  out : List CArray := []
  deriving DecidableEq, Repr

namespace ConnState

/-- `out.put`, as `Get_L_Data` and `Get_L_Busmonitor` do. -/
def put (s : ConnState) (cemi : CArray) : ConnState := { s with out := s.out ++ [cemi] }

/-- What becomes of the frame of a `TUNNEL_REQUEST` with the expected number. -/
structure Indication where
  status : Byte
  /-- The confirmation for `out`. -/
  confirm : Option CArray := none
  /-- The frame for Layer 3. -/
  passed : Option LDataPDU := none
  deriving DecidableEq, Repr

/-- The part of the `TUNNEL_REQUEST` branch between the number checks and the answer. -/
def indication (s : ConnState) (cemi : CArray) : Checked Indication := do
  match s.type with
  | .busmonitor => return { status := 0x29#8 }
  | .linkLayer =>
      match ← cemiToLData cemi with
      | none => return { status := 0x29#8 }
      | some c =>
          if c.hopcount = 0#8 then
            -- dropped, but answered with status 0
            return { status := 0#8 }
          else
            let c := c.decHopcount
            let code ← readByte cemi 0
            if code = 0x11#8 then
              return { status := 0#8, confirm := some (← lDataToCEMI 0x2E#8 c), passed := some c }
            else if code = 0x29#8 then
              return { status := 0#8, passed := some c }
            else
              return { status := 0#8 }

/-- The answer to a `TUNNEL_REQUEST`. -/
def answer (s : ConnState) (seqno status : Byte) : TunnelAction :=
  .send ({ channel := s.channel, seqno, status } : EIBnetTunnelACK).toPacket

/-- What an accepted frame leads to besides the answer. -/
def Indication.actions (r : Indication) (cemi : CArray) : List TunnelAction :=
  (if r.status = 0#8 then .taken cemi else .refused cemi) ::
    (r.confirm.toList.map .put ++ r.passed.toList.map .sendLData)

/-- The `TUNNEL_REQUEST` branch.  The answer to a repetition has the constructor's status. -/
def onTunnelRequest (s : ConnState) (r : EIBnetTunnelRequest) :
    Checked (ConnState × List TunnelAction) := do
  if r.channel ≠ s.channel then
    return (s, [])
  else if s.rno = r.seqno + 1#8 then
    return (s, [.repeated, s.answer r.seqno 0#8])
  else if s.rno ≠ r.seqno then
    return (s, [])
  else
    let ind ← s.indication r.cemi
    -- the number advances whatever the status is
    return ({ s with rno := s.rno + 1#8, out := s.out ++ ind.confirm.toList },
      ind.actions r.cemi ++ [s.answer r.seqno ind.status])

/-- The `TUNNEL_RESPONSE` branch. -/
def onTunnelResponse (s : ConnState) (r : EIBnetTunnelACK) :
    Checked (ConnState × List TunnelAction) := do
  if r.channel ≠ s.channel then
    return (s, [])
  else if s.sno ≠ r.seqno then
    return (s, [])
  else if r.status ≠ 0#8 then
    return (s, [])
  else if s.state = 0 then
    return (s, [])
  else
    let (c, out) ← Queue.get s.out
    return ({ s with sno := s.sno + 1#8, state := 0, out }, [.acked c])

/-- The first phase of a pass, on a datagram from the data endpoint of the connection. -/
def recv (s : ConnState) (p : EIBNetIPPacket) : Checked (ConnState × List TunnelAction) :=
  match EIBnetTunnelRequest.parse p with
  | some r => s.onTunnelRequest r
  | none =>
      match EIBnetTunnelACK.parse p with
      | some r => s.onTunnelResponse r
      | none => .ok (s, [])

/-- The second phase; `sendtimeout` says whether the event of that name has occurred. -/
def sendPhase (s : ConnState) (sendtimeout : Bool) : Checked (ConnState × List TunnelAction) := do
  if (s.state ≠ 0 ∧ sendtimeout) ∨ (s.state = 0 ∧ s.out ≠ []) then
    if s.state + 1 > 10 then
      -- given up: the frame goes, its number stays
      let (c, out) ← Queue.get s.out
      return ({ s with state := 0, out }, [.dropped c])
    else
      let cemi ← Queue.top s.out
      let r : EIBnetTunnelRequest := { channel := s.channel, seqno := s.sno, cemi }
      return ({ s with state := s.state + 1 }, [.send r.toPacket])
  else
    return (s, [])

end ConnState

end BcuSdk.Eibd
