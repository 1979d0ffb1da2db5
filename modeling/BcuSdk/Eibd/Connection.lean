/-
  BcuSdk.Eibd.Connection

  From a client's message to the medium: the read loops of the transport
  connections (eibd/libserver/connection.cpp), `Layer3::send_L_Data`, and
  `Send_L_Data` of the Layer 2 drivers (eibd/backend, libserver/emi1.cpp,
  emi2.cpp) up to the encoder each of them uses.
-/
import BcuSdk.Eibd.Layer3
import BcuSdk.Lib.Run

namespace BcuSdk.Eibd

open BcuSdk.Lib

/-! ## Layer 2 -/

/-- The Layer 2 drivers; `vmode` is set while a virtual busmonitor is open. -/
inductive Layer2 where
  /-- `TPUARTLayer2Driver` and `TPUARTSerialLayer2Driver`. -/
  | tpuart
  /-- `EIBNetIPTunnel`. -/
  | tunnel (vmode : Bool)
  /-- `EIBNetIPRouter`. -/
  | router (vmode : Bool)
  /-- `EMI1Layer2Interface` and `EMI2Layer2Interface`, on any link. -/
  | emi (vmode : Bool)
  deriving DecidableEq, Repr

/-- What sending a frame leaves behind: the bytes for the medium, and what the driver puts into
    its `outqueue`, from where Layer 3 takes it. -/
structure Sent where
  frames : List CArray := []
  outqueue : List LPDU := []
  deriving DecidableEq, Repr

/-- The frame goes back up, and with `vmode` its TP1 form to the busmonitor before it. -/
def echo (vmode : Bool) (l : LDataPDU) : Checked (List LPDU) := do
  if vmode then
    return [.busmonitor { pdu := ← l.toPacket }, .lData l]
  else
    return [.lData l]

/-- `Send_L_Data` of the driver, and the sending itself where another thread does it. -/
def Layer2.sendLData (l2 : Layer2) (showPrint : Bool) (l : LDataPDU) : Checked Sent := do
  tracePrintf showPrint l.decode
  match l2 with
  | .tpuart => return { frames := [← l.toPacket] }
  | .tunnel vmode =>
      let cemi ← lDataToCEMI 0x11#8 l
      return { frames := [cemi], outqueue := ← echo vmode l }
  | .router vmode =>
      let cemi ← lDataToCEMI 0x29#8 l
      return { frames := [cemi], outqueue := ← echo vmode l }
  | .emi vmode =>
      check (l.data.length ≥ 1)
      -- EMI 1 and 2 know no longer frames
      if l.data.length > 0x10 then
        return {}
      else
        check (l.data.length ≤ 0x10)
        check (l.hopcount &&& 0xf8#8 = 0#8)
        tracePrintf showPrint l.decode
        return { frames := [lDataToEMI 0x11#8 l], outqueue := ← echo vmode l }

/-! ## The daemon below the clients -/

/-- Layer 3 over a driver; `showPrint` is the trace setting of the driver. -/
structure Daemon where
  layer2 : Layer2
  layer3 : Layer3
  showPrint : Bool
  deriving DecidableEq, Repr

namespace Daemon

/-- `Layer3::Run` takes what the driver has put into its `outqueue`. -/
def receive (d : Daemon) : List LPDU → Checked Daemon
  | [] => .ok d
  | l :: ls => do
      let (layer3, _) ← d.layer3.onLPDU l
      receive { d with layer3 } ls

/-- `Layer3::send_L_Data`, and all that follows from it. -/
def sendLData (d : Daemon) (l : LDataPDU) : Checked Daemon := do
  tracePrintf d.layer3.showPrint l.decode
  let l := if l.source = 0 then { l with source := d.layer3.defaultAddr } else l
  let sent ← d.layer2.sendLData d.showPrint l
  d.receive sent.outqueue

end Daemon

/-! ## Client messages -/

/-- A message `readmessage` admits. -/
structure Message where
  bytes : CArray
  min : 2 ≤ bytes.length
  max : bytes.length ≤ 65535

/-- `EIB_RESET_CONNECTION`. -/
def eibResetConnection : Word16 := 0x0004#16

/-- `EIB_APDU_PACKET`. -/
def eibAPDUPacket : Word16 := 0x0025#16

/-- `EIB_GROUP_PACKET`. -/
def eibGroupPacket : Word16 := 0x0027#16

/-- `EIBTYPE`. -/
def Message.type (m : Message) : Word16 := word16 (m.bytes.getD 0 0#8) (m.bytes.getD 1 0#8)

/-- What the body of a read loop does with a message. -/
inductive Handled where
  /-- The loop is left. -/
  | ends
  | skipped
  /-- `c->Send`; only a 4-byte header has an address. -/
  | send (addr : EibAddr) (payload : CArray)
  deriving DecidableEq, Repr

/-- The body of the read loops: they differ in the length of the header and the message type. -/
def doMessage (header : Nat) (type : Word16) (m : Message) : Handled :=
  if m.type = eibResetConnection then .ends
  else if header ≤ m.bytes.length then
    if m.type ≠ type then .ends
    else .send (word16 (m.bytes.getD 2 0#8) (m.bytes.getD 3 0#8)) (m.bytes.drop header)
  else .skipped

/-- `A_Broadcast::Do`. -/
def ABroadcast.doMessage := Eibd.doMessage 2 eibAPDUPacket

/-- `A_Group::Do`. -/
def AGroup.doMessage := Eibd.doMessage 2 eibAPDUPacket

/-- `A_TPDU::Do`. -/
def ATPDU.doMessage := Eibd.doMessage 4 eibAPDUPacket

/-- `A_Individual::Do`. -/
def AIndividual.doMessage := Eibd.doMessage 2 eibAPDUPacket

/-- `A_Connection::Do`. -/
def AConnection.doMessage := Eibd.doMessage 2 eibAPDUPacket

/-- `A_GroupSocket::Do`. -/
def AGroupSocket.doMessage := Eibd.doMessage 4 eibGroupPacket

/-- The payloads a read loop passes to `Send`, up to the message that ends it. -/
def payloads (body : Message → Handled) : List Message → List CArray
  | [] => []
  | m :: ms =>
      match body m with
      | .ends => []
      | .skipped => payloads body ms
      | .send _ c => c :: payloads body ms

/-! ## Connectionless clients -/

/-- The clients whose `Send` hands the frame to Layer 3 at once. -/
inductive Handler where
  | broadcast
  | group (groupaddr : EibAddr)
  | tpdu (src : EibAddr)
  | individual (dest : EibAddr)
  | groupSocket
  deriving DecidableEq, Repr

namespace Handler

def doMessage : Handler → Message → Handled
  | .broadcast => ABroadcast.doMessage
  | .group _ => AGroup.doMessage
  | .tpdu _ => ATPDU.doMessage
  | .individual _ => AIndividual.doMessage
  | .groupSocket => AGroupSocket.doMessage

def send : Handler → EibAddr → CArray → Checked LDataPDU
  | .broadcast, _, c => TBroadcast.send c
  | .group groupaddr, _, c => TGroup.send groupaddr c
  | .tpdu src, addr, c => TTPDU.send src addr c
  | .individual dest, _, c => TIndividual.send dest c
  | .groupSocket, addr, c => GroupSocket.send addr c

/-- `Do`, on the messages the client sends. -/
def session (h : Handler) (d : Daemon) : List Message → Checked Daemon
  | [] => .ok d
  | m :: ms =>
      match h.doMessage m with
      | .ends => .ok d
      | .skipped => session h d ms
      | .send addr c => do
          let l ← h.send addr c
          let d' ← d.sendLData l
          session h d' ms

end Handler

/-! ## Connection-oriented clients -/

/-- An `A_Connection`: its `Do` only fills `in`, `T_Connection::Run` sends. -/
structure ConnSession where
  daemon : Daemon
  conn : TConnection
  reading : Bool := true
  deriving DecidableEq, Repr

/-- What can happen next. -/
inductive ConnEvent where
  | message (m : Message)
  /-- `readmessage` fails. -/
  | hangup
  /-- `T_Connection::Run` wakes up. -/
  | turn (e : TEvent)

namespace ConnSession

/-- The frames of a turn go to Layer 3. -/
def perform (d : Daemon) : List TAction → Checked Daemon
  | [] => .ok d
  | .sendLData l :: as => do
      let d' ← d.sendLData l
      perform d' as
  | _ :: as => perform d as

def turn (s : ConnSession) (e : TEvent) : Checked ConnSession := do
  let (conn, actions) ← s.conn.iterate e
  let daemon ← perform s.daemon actions
  return { s with conn, daemon }

/-- The loop of `Do` is left, and the connection is closed. -/
def finish (s : ConnSession) : Checked ConnSession := do
  return { ← s.turn .stop with reading := false }

def step (s : ConnSession) : ConnEvent → Checked ConnSession
  | .message m =>
      if s.reading then
        match AConnection.doMessage m with
        | .ends => s.finish
        | .skipped => .ok s
        | .send _ c => .ok { s with conn := s.conn.send c }
      else .ok s
  | .hangup => s.finish
  | .turn e => s.turn e

/-- A connection that has just been opened to `dest`. -/
def opened (d : Daemon) (dest : EibAddr) : ConnSession where
  daemon := d
  conn := { mode := .idle, dest }

end ConnSession

/-- The messages among the events of a connection. -/
def messagesOf : List ConnEvent → List Message
  | [] => []
  | .message m :: es => m :: messagesOf es
  | _ :: es => messagesOf es

end BcuSdk.Eibd
