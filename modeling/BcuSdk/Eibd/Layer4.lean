/-
  BcuSdk.Eibd.Layer4

  Layer 4 (eibd/libserver/layer4.h, layer4.cpp): the `Send` of each
  connectionless transport, and `T_Connection`.

  `T_Connection::Run` waits for one of several events and handles it.
  `TConnection.iterate` is one turn of its loop, with the exit code when the
  loop ends; what the turn does to the outside is its list of `TAction`s.
-/
import BcuSdk.Eibd.Tpdu

namespace BcuSdk.Eibd

open BcuSdk.Lib

/-! ## Connectionless transports -/

/-- The part the connectionless `Send`s share: the payload goes through `T_DATA_XXX_REQ_PDU`. -/
def sendDataXXX (l : LDataPDU) (c : CArray) : Checked LDataPDU := do
  let t := TPDU.tDataXXXReq c
  t.decode
  let data ← t.toPacket
  return { l with data }

/-- `T_Broadcast::Send`, up to `layer3->send_L_Data`. -/
def TBroadcast.send (c : CArray) : Checked LDataPDU :=
  sendDataXXX { source := 0, dest := 0, addrType := .groupAddress } c

/-- `T_Group::Send`. -/
def TGroup.send (groupaddr : EibAddr) (c : CArray) : Checked LDataPDU :=
  sendDataXXX { source := 0, dest := groupaddr, addrType := .groupAddress } c

/-- `T_TPDU::Send`; the payload is a whole TPDU already. -/
def TTPDU.send (src addr : EibAddr) (c : CArray) : Checked LDataPDU :=
  .ok { source := src, dest := addr, addrType := .individualAddress, data := c }

/-- `T_Individual::Send`. -/
def TIndividual.send (dest : EibAddr) (c : CArray) : Checked LDataPDU :=
  sendDataXXX { source := 0, dest := dest, addrType := .individualAddress } c

/-- `GroupSocket::Send`. -/
def GroupSocket.send (dst : EibAddr) (c : CArray) : Checked LDataPDU :=
  sendDataXXX { source := 0, dest := dst, addrType := .groupAddress } c

/-! ## `T_Connection` -/

/-- States of a `T_Connection`. -/
inductive TMode where
  | closed
  | idle
  | ackWait
  deriving DecidableEq, Repr

/-- `T_Connection`.  `inq` is `in`; `out` and `buf` are filled and emptied by others, and
    show in the actions and events below. -/
structure TConnection where
  mode : TMode := .closed
  sendno : Byte := 0#8
  recvno : Byte := 0#8
  repcount : Nat := 0
  inq : List CArray := []
  insem : Nat := 0
  dest : EibAddr := 0
  deriving DecidableEq, Repr

/-- What `Run` does to its surroundings. -/
inductive TAction where
  /-- `layer3->send_L_Data (l)`. -/
  | sendLData (l : LDataPDU)
  /-- `out.put (c)` of a received payload. -/
  | out (c : CArray)
  /-- `in.get ()` on a `T_ACK`; `c` is the payload removed. -/
  | acked (c : CArray)
  /-- `out.put (CArray ())` at the end of `Run`. -/
  | ended
  deriving DecidableEq, Repr

/-- What `pth_wait` returns for. -/
inductive TEvent where
  /-- `bufev`: a frame with this payload is taken from `buf`. -/
  | buf (data : CArray)
  /-- `inev`: `insem` can be decremented. -/
  | input
  | timeout
  | stop
  deriving DecidableEq, Repr

namespace TConnection

/-- `T_Connection::Send`. -/
def send (s : TConnection) (c : CArray) : TConnection :=
  { s with inq := s.inq ++ [c], insem := s.insem + 1 }

/-- `in.top ()`. -/
def top (s : TConnection) : Checked CArray :=
  match s.inq with
  | [] => .error .assertion
  | c :: _ => .ok c

/-- The frame every `Send*` hands to Layer 3. -/
def frame (s : TConnection) (prio : EIBPriority) (data : CArray) : TAction :=
  .sendLData { source := 0, dest := s.dest, addrType := .individualAddress, data, prio }

/-- `T_Connection::SendConnect`. -/
def sendConnect (s : TConnection) : Checked TAction := do
  return s.frame .system (← TPDU.tConnectReq.toPacket)

/-- `T_Connection::SendDisconnect`. -/
def sendDisconnect (s : TConnection) : Checked TAction := do
  return s.frame .system (← TPDU.tDisconnectReq.toPacket)

/-- `T_Connection::SendAck`. -/
def sendAck (s : TConnection) (serno : Byte) : Checked TAction := do
  return s.frame .low (← (TPDU.tAck serno).toPacket)

/-- `T_Connection::SendData`; the trace call decodes the TPDU. -/
def sendData (s : TConnection) (serno : Byte) (c : CArray) : Checked TAction := do
  let p := TPDU.tDataConnectedReq serno c
  p.decode
  return s.frame .low (← p.toPacket)

/-- `mode = 0`. -/
def close (s : TConnection) : Checked (TConnection × List TAction) :=
  .ok ({ s with mode := .closed }, [])

/-- Repeats the payload in front of `in`. -/
def repeatData (s : TConnection) : Checked (TConnection × List TAction) := do
  let data ← s.sendData s.sendno (← s.top)
  return ({ s with repcount := s.repcount + 1 }, [data])

/-- The `T_DATA_CONNECTED_REQ` case. -/
def onData (s : TConnection) (serno : Byte) (data : CArray) :
    Checked (TConnection × List TAction) := do
  if serno ≠ s.recvno ∧ serno ≠ ((s.recvno - 1#8) &&& 0x0f#8) then
    s.close
  else if serno = s.recvno then
    -- the control bits are cleared in place, before the payload is queued
    let ack ← s.sendAck s.recvno
    return ({ s with recvno := (s.recvno + 1#8) &&& 0x0f#8 },
      [.out (data.modifyHead (· &&& 0x03#8)), ack])
  else
    let ack ← s.sendAck serno
    return (s, [ack])

/-- The `T_NACK` case. -/
def onNack (s : TConnection) (serno : Byte) : Checked (TConnection × List TAction) :=
  if serno ≠ s.sendno then s.close
  else if s.inq.isEmpty then s.close
  else if s.repcount ≥ 3 ∨ s.mode ≠ .ackWait then s.close
  else s.repeatData

/-- The `T_ACK` case. -/
def onAck (s : TConnection) (serno : Byte) : Checked (TConnection × List TAction) := do
  if serno ≠ s.sendno then
    s.close
  else if s.mode ≠ .ackWait then
    s.close
  else
    let c ← s.top
    -- `insem` was decremented when the payload was sent
    return ({ s with mode := .idle, inq := s.inq.tail, sendno := (s.sendno + 1#8) &&& 0x0f#8 },
      [.acked c])

/-- The `bufev` branch. -/
def onBuf (s : TConnection) (data : CArray) : Checked (TConnection × List TAction) :=
  match TPDU.fromPacket data with
  | .tDisconnectReq => s.close
  | .tConnectReq => s.close
  | .tDataConnectedReq serno d => s.onData serno d
  | .tNack serno => s.onNack serno
  | .tAck serno => s.onAck serno
  | _ => .ok (s, [])

/-- The `inev` branch. -/
def onInput (s : TConnection) : Checked (TConnection × List TAction) := do
  let data ← s.sendData s.sendno (← s.top)
  return ({ s with repcount := 0, insem := s.insem - 1, mode := .ackWait }, [data])

/-- The `timeout` branch. -/
def onTimeout (s : TConnection) : Checked (TConnection × List TAction) :=
  if s.mode = .ackWait ∧ s.repcount < 3 then s.repeatData else s.close

/-- The body of the loop of `Run`.  `inev` is only waited for when idle. -/
def handle (s : TConnection) : TEvent → Checked (TConnection × List TAction)
  | .buf data => s.onBuf data
  | .input => if s.mode = .idle ∧ 0 < s.insem then s.onInput else .ok (s, [])
  | .timeout => s.onTimeout
  | .stop => s.close

/-- `Run` up to its loop; frames left in `buf` are dropped. -/
def start (s : TConnection) : Checked (TConnection × List TAction) := do
  let connect ← s.sendConnect
  return ({ s with mode := .idle, sendno := 0#8, recvno := 0#8, repcount := 0 }, [connect])

/-- One turn of `Run`, with the exit code if it leaves the loop.  A connection that has left
    the loop takes part in nothing. -/
def iterate (s : TConnection) (e : TEvent) : Checked (TConnection × List TAction) := do
  if s.mode = .closed then
    return (s, [])
  else
    let (s', actions) ← s.handle e
    if s'.mode = .closed then
      return (s', actions ++ [← s'.sendDisconnect, .ended])
    else
      return (s', actions)

end TConnection

end BcuSdk.Eibd
