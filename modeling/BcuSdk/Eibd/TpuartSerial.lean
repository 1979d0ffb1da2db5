/-
  BcuSdk.Eibd.TpuartSerial

  `TPUARTSerialLayer2Driver` (eibd/backend/tpuartserial.cpp): a TPUART on a
  serial line.

  What has been received is collected in the variable `in` of `Run`.  A data
  frame at its front is acknowledged as soon as its header is complete, long
  before the frame is; the variable `acked` keeps that from being done twice.
  The state notes, beside the variables of the source, which acknowledgements
  have been written since the byte at the front of `in` came there.
-/
import BcuSdk.Eibd.EibNetIp
import BcuSdk.Eibd.Lpdu
import BcuSdk.Lib.Buffer
import BcuSdk.Lib.Run

namespace BcuSdk.Eibd

open BcuSdk.Lib

/-! ## Frames on the line -/

/-- The two kinds of data frames. -/
inductive FrameFormat where
  | standard
  | extended
  deriving DecidableEq, Repr

namespace FrameFormat

/-- The bytes `Run` waits for before it acknowledges. -/
def header : FrameFormat → Nat
  | .standard => 6
  | .extended => 7

/-- The address type. -/
def addrType (f : FrameFormat) (c : CArray) : EIBAddrType :=
  match f with
  | .standard => .ofFlag (c.getD 5 0#8)
  | .extended => .ofFlag (c.getD 1 0#8)

/-- The destination. -/
def dest (f : FrameFormat) (c : CArray) : EibAddr :=
  match f with
  | .standard => word16 (c.getD 3 0#8) (c.getD 4 0#8)
  | .extended => word16 (c.getD 4 0#8) (c.getD 5 0#8)

/-- The whole frame. -/
def length (f : FrameFormat) (c : CArray) : Nat :=
  match f with
  | .standard => (c.getD 5 0#8 &&& 0x0f#8).toNat + 6 + 2
  | .extended => (c.getD 6 0#8 &&& 0xff#8).toNat + 7 + 2

theorem header_lt_length (f : FrameFormat) (c : CArray) : f.header < f.length c := by
  cases f with
  | standard =>
      show 6 < _ + 6 + 2
      omega
  | extended =>
      show 7 < _ + 7 + 2
      omega

end FrameFormat

/-- What the first byte of `in` is taken for, in the order of the tests. -/
inductive FrontByte where
  /-- L_Data.confirm, positive. -/
  | confirm
  /-- L_Data.confirm, negative. -/
  | noConfirm
  /-- A state indication. -/
  | state
  /-- ACK, BUSY or NACK. -/
  | ack
  | frame (f : FrameFormat)
  | unknown
  deriving DecidableEq, Repr

def FrontByte.of (b : Byte) : FrontByte :=
  if b = 0x8B#8 then .confirm
  else if b = 0x0B#8 then .noConfirm
  else if b &&& 0x07#8 = 0x07#8 then .state
  else if b = 0xCC#8 ∨ b = 0xC0#8 ∨ b = 0x0C#8 then .ack
  else if b &&& 0xD0#8 = 0x90#8 then .frame .standard
  else if b &&& 0xD0#8 = 0x10#8 then .frame .extended
  else .unknown

/-! ## The driver -/

/-- The members that decide on an acknowledgement. -/
structure AckTable where
  ackallgroup : Bool := false
  ackallindividual : Bool := false
  indaddr : List EibAddr := []
  groupaddr : List EibAddr := []
  deriving DecidableEq, Repr

/-- Whether the frame is for the driver. -/
def AckTable.addressed (t : AckTable) (type : EIBAddrType) (dest : EibAddr) : Bool :=
  match type with
  | .individualAddress => t.ackallindividual || t.indaddr.contains dest
  | .groupAddress => t.ackallgroup || t.groupaddr.contains dest

/-- The acknowledge information of the TPUART. -/
def ackInformation (addressed : Bool) : Byte := 0x10#8 ||| if addressed then 0x01#8 else 0x00#8

/-- An acknowledgement, with the tables at the time it was written. -/
structure Acknowledgement where
  byte : Byte
  table : AckTable
  deriving DecidableEq, Repr

/-- A data frame passed to `RecvLPDU`, with the acknowledgements written since its first byte came
    to the front. -/
structure ReceivedFrame where
  format : FrameFormat
  frame : CArray
  acks : List Acknowledgement
  deriving DecidableEq, Repr

/-- `TPUARTSerialLayer2Driver` and the variables of its `Run`. -/
structure TPUARTSerialLayer2Driver where
  mode : Bool := false
  vmode : Bool := false
  table : AckTable := {}
  inqueue : List LPDU := []
  outqueue : List LPDU := []
  inSignal : Nat := 0
  outSignal : Nat := 0
  /-- `in`. -/
  input : CArray := []
  /-- `to`: `timeout` is set. -/
  timer : Bool := false
  waitconfirm : Bool := false
  acked : Bool := false
  retry : Nat := 0
  watch : Nat := 0
  /-- What has been handed to `write`. -/
  written : List CArray := []
  /-- The acknowledgements since the byte at the front of `in` came there. -/
  acks : List Acknowledgement := []
  /-- The data frames passed to `RecvLPDU`. -/
  received : List ReceivedFrame := []
  /-- A byte has been removed because the rest of its frame, already acknowledged, did not come
      in time; since then no frame has been passed on and no unknown byte removed. -/
  abandoned : Bool := false
  deriving DecidableEq, Repr

namespace TPUARTSerialLayer2Driver

/-! ### The other threads -/

/-- The calls of other threads. -/
inductive Call where
  | open
  | enterBusmonitor
  | leaveBusmonitor
  | openVBusmonitor
  | closeVBusmonitor
  | addAddress (addr : EibAddr)
  | addGroupAddress (addr : EibAddr)
  | removeAddress (addr : EibAddr)
  | removeGroupAddress (addr : EibAddr)
  | sendLData (l : LPDU)
  /-- `Get_L_Data`, when there is a frame. -/
  | getLData
  deriving DecidableEq, Repr

/-- `write (fd, ...)`. -/
def write (s : TPUARTSerialLayer2Driver) (c : CArray) : TPUARTSerialLayer2Driver :=
  { s with written := s.written ++ [c] }

/-- The loops of `addAddress` and `addGroupAddress`, with what they return: an address that is there
    already is refused. -/
def addTo (addrs : List EibAddr) (addr : EibAddr) : Bool × List EibAddr :=
  if addr ∈ addrs then (false, addrs) else (true, addrs ++ [addr])

def call (s : TPUARTSerialLayer2Driver) : Call → Checked TPUARTSerialLayer2Driver
  | .open => .ok (s.write [0x01#8])
  | .enterBusmonitor => .ok { s.write [0x05#8] with mode := true }
  | .leaveBusmonitor => .ok { s.write [0x01#8] with mode := false }
  | .openVBusmonitor => .ok { s with vmode := true }
  | .closeVBusmonitor => .ok { s with vmode := false }
  | .addAddress addr =>
      .ok { s with table := { s.table with indaddr := (addTo s.table.indaddr addr).2 } }
  | .addGroupAddress addr =>
      .ok { s with table := { s.table with groupaddr := (addTo s.table.groupaddr addr).2 } }
  | .removeAddress addr =>
      .ok { s with table := { s.table with indaddr := s.table.indaddr.erase addr } }
  | .removeGroupAddress addr =>
      .ok { s with table := { s.table with groupaddr := s.table.groupaddr.erase addr } }
  | .sendLData l => .ok { s with inqueue := s.inqueue ++ [l], inSignal := s.inSignal + 1 }
  | .getLData => do
      let outSignal ← semDec s.outSignal
      let (_, outqueue) ← Queue.get s.outqueue
      return { s with outSignal, outqueue }

/-- What other threads do while `Run` is in a call that lets them run. -/
def calls (s : TPUARTSerialLayer2Driver) (others : List Call) : Checked TPUARTSerialLayer2Driver :=
  run call s others

/-! ### A pass over `in` -/

/-- `outqueue.put` and `pth_sem_inc`. -/
def put (s : TPUARTSerialLayer2Driver) (l : LPDU) : TPUARTSerialLayer2Driver :=
  { s with outqueue := s.outqueue ++ [l], outSignal := s.outSignal + 1 }

/-- `RecvLPDU`. -/
def recvLPDU (s : TPUARTSerialLayer2Driver) (data : CArray) : Checked TPUARTSerialLayer2Driver := do
  -- in busmonitor mode nothing else is made of a packet
  let s := if s.mode ∨ s.vmode then s.put (.busmonitor { pdu := data }) else s
  if s.mode then
    return s
  else
    match ← LPDU.fromPacket data with
    | .lData l => return if l.validLength ∧ l.validChecksum then s.put (.lData l) else s
    | _ => return s

/-- `in.deletepart (0, n)`: another byte comes to the front. -/
def remove (s : TPUARTSerialLayer2Driver) (n : Nat) : TPUARTSerialLayer2Driver :=
  { s with input := deletepart s.input 0 n, acks := [] }

/-- `delete inqueue.get ()` and `pth_sem_dec`. -/
def dropSend (s : TPUARTSerialLayer2Driver) : Checked TPUARTSerialLayer2Driver := do
  let (_, inqueue) ← Queue.get s.inqueue
  let inSignal ← semDec s.inSignal
  return { s with inqueue, inSignal }

/-- A confirmation is shown to the virtual busmonitor as an acknowledgement. -/
def showConfirm (s : TPUARTSerialLayer2Driver) (b : Byte) : Checked TPUARTSerialLayer2Driver :=
  if s.mode = false ∧ s.vmode = true then s.recvLPDU [b] else .ok s

/-- The branch for 0x8B, without the removal. -/
def onConfirm (s : TPUARTSerialLayer2Driver) : Checked TPUARTSerialLayer2Driver := do
  let s ← s.showConfirm 0xCC#8
  if s.waitconfirm then
    return { ← dropSend { s with waitconfirm := false } with retry := 0 }
  else
    return s

/-- The branch for 0x0B, without the removal. -/
def onNoConfirm (s : TPUARTSerialLayer2Driver) : Checked TPUARTSerialLayer2Driver := do
  let s ← s.showConfirm 0x0C#8
  if s.waitconfirm then
    let s := { s with retry := s.retry + 1, waitconfirm := false }
    -- "Drop NACK"
    if s.retry > 3 then
      return { ← s.dropSend with retry := 0 }
    else
      return s
  else
    return s

/-- How a pass ends. -/
inductive Next where
  /-- With the next pass, -/
  | again (s : TPUARTSerialLayer2Driver)
  /-- or behind the loop, to wait for more. -/
  | wait (s : TPUARTSerialLayer2Driver)
  deriving DecidableEq, Repr

def Next.state : Next → TPUARTSerialLayer2Driver
  | .again s => s
  | .wait s => s

/-- The wait for the rest of a frame; `occurred` is the status of `timeout`, which a timer that is
    armed here has not yet. -/
def awaitRest (s : TPUARTSerialLayer2Driver) (occurred : Bool) : Next :=
  if s.timer && occurred then .again (s.remove 1) else .wait { s with timer := true }

/-- `if (!acked)`: the acknowledgement is written; other threads may run meanwhile. -/
def sendAck (s : TPUARTSerialLayer2Driver) (f : FrameFormat) (others : List Call) :
    Checked TPUARTSerialLayer2Driver :=
  if s.acked then .ok s
  else do
    let c := ackInformation (s.table.addressed (f.addrType s.input) (f.dest s.input))
    let note : Acknowledgement := ⟨c, s.table⟩
    return { ← calls { s.write [c] with acks := s.acks ++ [note] } others with acked := true }

/-- The branch for a data frame. -/
def onFrame (s : TPUARTSerialLayer2Driver) (f : FrameFormat) (occurred : Bool)
    (others : List Call) : Checked Next := do
  if s.input.length < f.header then
    return s.awaitRest occurred
  else
    let s ← s.sendAck f others
    -- the length byte is read after the acknowledgement
    let len := f.length s.input
    if s.input.length < len then
      return awaitRest { s with abandoned := s.abandoned || (s.timer && occurred) } occurred
    else
      let frame := s.input.take len
      let note : ReceivedFrame := ⟨f, frame, s.acks⟩
      let s := { s with acked := false, abandoned := false, received := s.received ++ [note] }
      return .again { (← s.recvLPDU frame).remove len with timer := false }

/-- A pass of the loop over `in`. -/
def pass (s : TPUARTSerialLayer2Driver) (occurred : Bool) (others : List Call) : Checked Next :=
  match s.input with
  | [] => .ok (.wait s)
  | b :: _ =>
      match FrontByte.of b with
      | .confirm => do return .again { (← s.onConfirm).remove 1 with timer := false }
      | .noConfirm => do return .again { (← s.onNoConfirm).remove 1 with timer := false }
      | .state => .ok (.again { s.remove 1 with watch := 2, timer := false })
      | .ack => do return .again { (← s.recvLPDU [b]).remove 1 with timer := false }
      | .frame f => s.onFrame f occurred others
      | .unknown =>
          -- a byte that nothing begins with is thrown away alone
          .ok (.again { s.remove 1 with acked := false, abandoned := false, timer := false })

/-! ### Behind the loop -/

/-- The bytes of a frame as services of the TPUART. -/
def uData (d : CArray) : Checked CArray := do
  check (d ≠ [])
  -- each byte has its index in front, the last one another service code
  let w := d.zipIdx.flatMap fun ⟨b, i⟩ => [0x80#8 ||| (BitVec.ofNat 8 i &&& 0x3f#8), b]
  return w.modify (2 * d.length - 2) fun b => (b &&& 0x3f#8) ||| 0x40#8

/-- `sendtimeout`. -/
def onSendTimeout (s : TPUARTSerialLayer2Driver) (occurred : Bool) :
    Checked TPUARTSerialLayer2Driver :=
  if s.waitconfirm ∧ occurred then
    let s := { s with retry := s.retry + 1, waitconfirm := false }
    -- "Drop Send", which leaves `retry` as it is
    if s.retry ≥ 3 then s.dropSend else .ok s
  else .ok s

/-- `watchdog`. -/
def onWatchdog (s : TPUARTSerialLayer2Driver) (occurred : Bool) : TPUARTSerialLayer2Driver :=
  let s :=
    if s.watch = 1 ∧ occurred ∧ s.mode = false then { s.write [0x01#8] with watch := 0 } else s
  let s := if s.watch = 1 ∧ occurred ∧ s.mode then { s with watch := 0 } else s
  if s.watch = 2 ∧ occurred then { s with watch := 0 } else s

/-- The next frame is sent, or the state is asked for. -/
def sendNext (s : TPUARTSerialLayer2Driver) : Checked TPUARTSerialLayer2Driver := do
  -- the frame stays in `inqueue` until it is answered
  if s.input = [] ∧ s.inqueue ≠ [] ∧ s.waitconfirm = false then
    let w ← uData (← (← Queue.top s.inqueue).toPacket)
    return { s.write w with waitconfirm := true }
  -- the state is asked for, and the watchdog set
  else if s.input = [] ∧ s.waitconfirm = false ∧ s.watch = 0 ∧ s.mode = false ∧
      s.timer = false then
    return { s.write [0x02#8] with watch := 1 }
  else
    return s

/-- The rest of a turn of `Run`. -/
def afterLoop (s : TPUARTSerialLayer2Driver) (sendtimeout watchdog : Bool) :
    Checked TPUARTSerialLayer2Driver := do
  sendNext ((← s.onSendTimeout sendtimeout).onWatchdog watchdog)

/-- What can happen next. -/
inductive Event where
  /-- A read returns these bytes. -/
  | read (buf : CArray)
  | pass (occurred : Bool) (others : List Call)
  | afterLoop (sendtimeout watchdog : Bool)
  | call (c : Call)
  deriving DecidableEq, Repr

def step (s : TPUARTSerialLayer2Driver) : Event → Checked TPUARTSerialLayer2Driver
  | .read buf => .ok { s with input := setpart s.input buf s.input.length }
  | .pass occurred others => do return (← s.pass occurred others).state
  | .afterLoop sendtimeout watchdog => s.afterLoop sendtimeout watchdog
  | .call c => s.call c

/-- The state at the begin of `Run`. -/
def start (a : EibAddr) (ackallgroup ackallindividual : Bool) : TPUARTSerialLayer2Driver :=
  { table := { ackallgroup, ackallindividual, indaddr := [a] } }

end TPUARTSerialLayer2Driver

end BcuSdk.Eibd
