/-
  BcuSdk.Eibd.BusNetwork

  Several eibds with a TPUART on one bus, and the clients of their
  connectionless transports: the constructors, destructors, `Get_L_Data` and
  `Get` of these transports (eibd/libserver/layer4.cpp), the threads that
  pass on what they get (eibd/libserver/connection.cpp), and `Layer3::Run`
  with the callbacks it calls.

  A callback is known by a number, as an object is by its address.  The bus
  takes a frame to the other stations, in order; a station that hears it may
  hear repetitions of it as well, and one that is disturbed hears nothing.  The
  bus is ideal in two ways: a station does not hear its own frames, and a frame
  of any length is carried whole, also one that is longer than the services of
  the TPUART can number.

  The driver is `TPUARTSerialLayer2Driver`, of which the addresses are kept: it
  refuses an address that it has, and from its constructor it has its own.
-/
import BcuSdk.Eibd.Connection
import BcuSdk.Eibd.Layer3Register
import BcuSdk.Eibd.TpuartSerial
import BcuSdk.Lib.Simulation

namespace BcuSdk.Eibd

open BcuSdk.Lib

/-! ## Transports -/

/-- What a transport has got: `BroadcastComm`, `GroupComm`, `TpduComm`, `GroupAPDU` or, for
    `T_Individual`, the payload alone. -/
structure Comm where
  data : CArray
  src : EibAddr
  dst : EibAddr
  deriving DecidableEq, Repr

/-- A transport of a client that is open, with its `outqueue`. -/
structure Transport where
  handler : Handler
  outqueue : List Comm := []
  deriving DecidableEq, Repr

/-- `Get_L_Data`; but for `T_TPDU` it takes connectionless data only. -/
def Transport.getLData (t : Transport) (l : LDataPDU) : Transport :=
  match t.handler with
  | .tpdu _ => { t with outqueue := t.outqueue ++ [⟨l.data, l.source, l.dest⟩] }
  | _ =>
      match TPDU.fromPacket l.data with
      | .tDataXXXReq data => { t with outqueue := t.outqueue ++ [⟨data, l.source, l.dest⟩] }
      | _ => t

/-- `EIB_OPEN_T_INDIVIDUAL`. -/
def eibOpenTIndividual : Word16 := 0x0021#16

/-- `EIB_OPEN_T_GROUP`. -/
def eibOpenTGroup : Word16 := 0x0022#16

/-- `EIB_OPEN_T_BROADCAST`. -/
def eibOpenTBroadcast : Word16 := 0x0023#16

/-- `EIB_OPEN_T_TPDU`. -/
def eibOpenTTPDU : Word16 := 0x0024#16

/-- `EIB_OPEN_GROUPCON`. -/
def eibOpenGroupcon : Word16 := 0x0026#16

namespace Message

/-- The class that `ClientConnection::Run` picks for a request to open a connectionless transport. -/
def transport? (m : Message) : Option Handler :=
  let addr := word16 (m.bytes.getD 2 0#8) (m.bytes.getD 3 0#8)
  if m.type = eibOpenTBroadcast then some .broadcast
  else if m.type = eibOpenTGroup then some (.group addr)
  else if m.type = eibOpenTIndividual then some (.individual addr)
  else if m.type = eibOpenTTPDU then some (.tpdu addr)
  else if m.type = eibOpenGroupcon then some .groupSocket
  else none

/-- `con->buf[4] != 0`. -/
def writeOnly (m : Message) : Bool := m.bytes.getD 4 0#8 ≠ 0#8

end Message

namespace AckTable

/-- What a call of Layer 3 makes of the addresses of the driver. -/
def onCall (t : AckTable) : Layer2Call → AckTable
  | .addAddress addr _ =>
      { t with indaddr := (TPUARTSerialLayer2Driver.addTo t.indaddr addr).2 }
  | .addGroupAddress addr _ =>
      { t with groupaddr := (TPUARTSerialLayer2Driver.addTo t.groupaddr addr).2 }
  | .removeAddress addr => { t with indaddr := t.indaddr.erase addr }
  | .removeGroupAddress addr => { t with groupaddr := t.groupaddr.erase addr }
  | .open | .close | .enterBusmonitor _ | .leaveBusmonitor | .openVBusmonitor _
  | .closeVBusmonitor => t

/-- The addresses after these calls to a driver whose own address is `own`. -/
def after (own : EibAddr) (calls : List Layer2Call) : AckTable :=
  calls.foldl onCall (TPUARTSerialLayer2Driver.start own false false).table

/-- What `addAddress` returns. -/
def takesAddress (t : AckTable) (addr : EibAddr) : Bool :=
  (TPUARTSerialLayer2Driver.addTo t.indaddr addr).1

/-- What `addGroupAddress` returns. -/
def takesGroupAddress (t : AckTable) (addr : EibAddr) : Bool :=
  (TPUARTSerialLayer2Driver.addTo t.groupaddr addr).1

end AckTable

/-- Layer 3 with callbacks that are numbers, and without busmonitors. -/
abbrev Callbacks := Layer3State Nat Unit

namespace Handler

/-- The constructors of `T_Broadcast`, `T_Group`, `T_TPDU`, `T_Individual` and `GroupSocket`, with
    their `init_ok`; `t` are the addresses of the driver, which answers Layer 3. -/
def register (h : Handler) (l3 : Callbacks) (t : AckTable) (cb : Nat) (writeOnly : Bool) :
    Bool × Callbacks :=
  match h with
  | .broadcast => if writeOnly then (true, l3) else l3.registerBroadcastCallBack cb
  | .group groupaddr =>
      if groupaddr = 0 then (false, l3)
      else if writeOnly then (true, l3)
      else l3.registerGroupCallBack cb groupaddr (t.takesGroupAddress groupaddr)
  | .tpdu src => l3.registerIndividualCallBack cb .none 0 src (t.takesAddress src)
  | .individual dest =>
      if writeOnly then (true, l3)
      else l3.registerIndividualCallBack cb .none dest 0 (t.takesAddress 0)
  | .groupSocket =>
      if writeOnly then (true, l3) else l3.registerGroupCallBack cb 0 (t.takesGroupAddress 0)

/-- The destructors. -/
def deregister (h : Handler) (l3 : Callbacks) (cb : Nat) : Callbacks :=
  match h with
  | .broadcast => (l3.deregisterBroadcastCallBack cb).2
  | .group groupaddr => (l3.deregisterGroupCallBack cb groupaddr).2
  | .tpdu src => (l3.deregisterIndividualCallBack cb 0 src).2
  | .individual dest => (l3.deregisterIndividualCallBack cb dest 0).2
  | .groupSocket => (l3.deregisterGroupCallBack cb 0).2

end Handler

/-- `EIB_APDU_PACKET` with a source. -/
def apduPacketFrom (e : Comm) : CArray :=
  [0x00#8, 0x25#8, hiByte e.src, loByte e.src] ++ e.data

/-- `A_Broadcast::Run`. -/
def ABroadcast.packet := apduPacketFrom

/-- `A_Group::Run`. -/
def AGroup.packet := apduPacketFrom

/-- `A_TPDU::Run`. -/
def ATPDU.packet := apduPacketFrom

/-- `A_Individual::Run`. -/
def AIndividual.packet (e : Comm) : CArray := [0x00#8, 0x25#8] ++ e.data

/-- `A_GroupSocket::Run`. -/
def AGroupSocket.packet (e : Comm) : CArray :=
  [0x00#8, 0x27#8, hiByte e.src, loByte e.src, hiByte e.dst, loByte e.dst] ++ e.data

/-- The message in which the client gets it. -/
def Handler.packet : Handler → Comm → CArray
  | .broadcast => ABroadcast.packet
  | .group _ => AGroup.packet
  | .tpdu _ => ATPDU.packet
  | .individual _ => AIndividual.packet
  | .groupSocket => AGroupSocket.packet

/-! ## Stations -/

/-- An eibd, with its open transports, the number of the next one, what `Layer3::Run` keeps, and the
    frames on the bus that it has not heard yet. -/
structure Station where
  layer3 : Callbacks := .init
  transports : Nat → Option Transport := fun _ => none
  next : Nat := 0
  ignore : List IgnoreInfo := []
  now : Nat := 0
  defaultAddr : EibAddr
  showPrint : Bool := false
  line : List CArray := []

/-- A message to a client, with the number of its transport. -/
abbrev ToClient := Option (Nat × CArray)

namespace Station

/-- The addresses of the driver. -/
def table (s : Station) : AckTable := .after s.defaultAddr s.layer3.calls

/-- The callbacks that `Layer3::Run` calls for a frame. -/
def recipients (s : Station) (l : LDataPDU) : List Nat :=
  match l.addrType with
  | .groupAddress =>
      if l.dest = 0 then s.layer3.broadcast
      else (s.layer3.group.filter fun g => g.dest = l.dest ∨ g.dest = 0).map (·.cb)
  | .individualAddress =>
      (s.layer3.individual.filter fun i =>
        i.dest = l.dest ∧ (i.src = l.source ∨ i.src = 0)).map (·.cb)

/-- `cb->Get_L_Data (new L_Data_PDU (*l1))`. -/
def callBack (l : LDataPDU) (s : Station) (cb : Nat) : Station :=
  { s with transports :=
      Function.update s.transports cb ((s.transports cb).map (·.getLData l)) }

/-- The deletion of the entries whose time is over. -/
def expire (s : Station) : Station :=
  { s with ignore := s.ignore.filter fun i => ¬ i.endTime < s.now }

/-- `Layer3::Run` on a frame that it does not discard. -/
def deliver (s : Station) (l : LDataPDU) : Checked Station := do
  let seen ← { l with repeated := true }.toPacket
  let s : Station := { s with ignore := s.ignore ++ [⟨seen, s.now + 1000000⟩] }
  let l := { l with repeated := false }
  let l := if l.addrType = .individualAddress ∧ l.dest = s.defaultAddr then { l with dest := 0 }
    else l
  tracePrintf s.showPrint l.decode
  return (s.recipients l).foldl (callBack l) s

/-- `Layer3::Run` on an `L_Data` frame. -/
def onLData (s : Station) (l : LDataPDU) : Checked Station := do
  if l.repeated then
    let d1 ← l.toPacket
    if s.ignore.any (·.data = d1) then
      return s
    else
      return (← s.deliver l).expire
  else
    return (← s.deliver l).expire

/-- A frame is heard: `TPUARTSerialLayer2Driver::RecvLPDU`, and `Layer3::Run` on what it puts into
    its `outqueue`. -/
def recv (s : Station) (c : CArray) : Checked Station := do
  match ← LPDU.fromPacket c with
  | .lData l => if l.validLength ∧ l.validChecksum then s.onLData l else return s
  | _ => return s

/-- The same frame is heard several times. -/
def recvAgain (s : Station) (c : CArray) : Nat → Checked Station
  | 0 => .ok s
  | n + 1 => do recvAgain (← s.recv c) c n

/-- `Layer3::send_L_Data`, and the frame that the driver puts on the bus. -/
def sendLData (s : Station) (l : LDataPDU) : Checked (List CArray) := do
  tracePrintf s.showPrint l.decode
  let l := if l.source = 0 then { l with source := s.defaultAddr } else l
  return (← Layer2.tpuart.sendLData s.showPrint l).frames

/-- A request to open a transport: the constructor of the `A_*` class and the head of its `Do`, with
    the reply. -/
def openTransport (s : Station) (h : Handler) (m : Message) : CArray × Station :=
  if m.bytes.length ≠ 5 then ([0x00#8, 0x02#8], s)
  else
    match h.register s.layer3 s.table s.next m.writeOnly with
    | (false, layer3) => ([0x00#8, 0x02#8], { s with layer3 := h.deregister layer3 s.next })
    | (true, layer3) =>
        (m.bytes.take 2, { s with
          layer3
          transports := Function.update s.transports s.next (some ⟨h, []⟩)
          next := s.next + 1 })

/-- The thread of a transport passes on the first entry of its `outqueue`. -/
def takeComm (s : Station) (cb : Nat) : ToClient × Station :=
  match s.transports cb with
  | some ⟨h, e :: outqueue⟩ =>
      (some (cb, h.packet e),
        { s with transports := Function.update s.transports cb (some ⟨h, outqueue⟩) })
  | _ => (none, s)

/-- `Do` is left, and the transport is deleted. -/
def closeTransport (s : Station) (h : Handler) (cb : Nat) : Station :=
  { s with
    layer3 := h.deregister s.layer3 cb
    transports := Function.update s.transports cb none }

end Station

/-! ## The network -/

/-- What the repetition of a frame looks like: another repeat flag, and the check byte for it. -/
def repetition : CArray → CArray
  | [] => []
  | c0 :: rest => (c0 ^^^ 0x20#8) :: rest.modifyLast (· ^^^ 0x20#8)

/-- A frame of some other device on the bus. -/
structure ForeignFrame where
  frame : LDataPDU
  encodable : frame.Encodable
  first : frame.repeated = false

/-- What can happen next. -/
inductive BusEvent (ι : Type) where
  /-- A client of eibd `j` sends its first request. -/
  | openTransport (j : ι) (m : Message)
  /-- The client of a transport sends a message. -/
  | message (j : ι) (cb : Nat) (m : Message)
  /-- `readmessage` fails. -/
  | hangup (j : ι) (cb : Nat)
  /-- Another device sends a frame. -/
  | foreign (f : ForeignFrame)
  /-- The next frame reaches eibd `j`, with some repetitions. -/
  | hear (j : ι) (again : Nat)
  /-- The next frame does not reach eibd `j`. -/
  | miss (j : ι)
  /-- The thread of a transport passes on what it has got. -/
  | take (j : ι) (cb : Nat)
  | tick (j : ι) (delay : Nat)

variable {ι : Type} [DecidableEq ι]

/-- One event. -/
def busStep (net : ι → Station) : BusEvent ι → Checked (ToClient × (ι → Station))
  | .openTransport j m =>
      match m.transport? with
      | none => .ok (none, net)
      | some h =>
          .ok (some ((net j).next, ((net j).openTransport h m).1),
            Function.update net j ((net j).openTransport h m).2)
  | .message j cb m =>
      match (net j).transports cb with
      | none => .ok (none, net)
      | some t =>
          match t.handler.doMessage m with
          | .ends =>
              .ok (if m.type = eibResetConnection then some (cb, [0x00#8, 0x04#8]) else none,
                Function.update net j ((net j).closeTransport t.handler cb))
          | .skipped => .ok (none, net)
          | .send addr c => do
              let l ← t.handler.send addr c
              let frames ← (net j).sendLData l
              return (none, fun i =>
                if i = j then net i else { net i with line := (net i).line ++ frames })
  | .hangup j cb =>
      match (net j).transports cb with
      | none => .ok (none, net)
      | some t => .ok (none, Function.update net j ((net j).closeTransport t.handler cb))
  | .foreign f => do
      let frame ← f.frame.toPacket
      return (none, fun i => { net i with line := (net i).line ++ [frame] })
  | .hear j again =>
      match (net j).line with
      | [] => .ok (none, net)
      | c :: line => do
          let s ← { net j with line }.recv c
          let s ← s.recvAgain (repetition c) again
          return (none, Function.update net j s)
  | .miss j => .ok (none, Function.update net j { net j with line := (net j).line.tail })
  | .take j cb => .ok (((net j).takeComm cb).1, Function.update net j ((net j).takeComm cb).2)
  | .tick j delay => .ok (none, Function.update net j { net j with now := (net j).now + delay })

end BcuSdk.Eibd
