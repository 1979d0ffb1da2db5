/-
  BcuSdk.Eibd.Exchange

  What the connectionless transports of eibd are for: letters and mailboxes.

  A client that opens a transport gets a mailbox.  Every letter that comes to
  a station goes into the mailboxes of those who want it, once, and a client
  gets its mail in the order in which it has come.  Here are no frames, no
  registrations and no repetitions; the abstract counterpart of `BusNetwork`.
-/
import BcuSdk.Eibd.BusNetwork
import BcuSdk.Eibd.ClientSafety

namespace BcuSdk.Eibd

open BcuSdk.Lib

/-- A telegram on its way; `data` is its TPDU. -/
structure Letter where
  src : EibAddr
  addrType : EIBAddrType
  dest : EibAddr
  data : CArray
  deriving DecidableEq, Repr

namespace Letter

/-- The letter in the hands of the addressee, for whom its own address is 0. -/
def arrive (own : EibAddr) (t : Letter) : Letter :=
  if t.addrType = .individualAddress ∧ t.dest = own then { t with dest := 0 } else t

/-- Connectionless data. -/
def isData (t : Letter) : Bool :=
  match t.data with
  | [] => false
  | c0 :: _ => c0 &&& 0xfc#8 = 0#8

def comm (t : Letter) : Comm := ⟨t.data, t.src, t.dest⟩

end Letter

namespace Handler

/-- Whether a client wants a letter that has arrived. -/
def wants (h : Handler) (t : Letter) : Bool :=
  match h with
  | .broadcast => t.addrType = .groupAddress ∧ t.dest = 0 ∧ t.isData
  | .group groupaddr => t.addrType = .groupAddress ∧ t.dest = groupaddr ∧ t.isData
  | .groupSocket => t.addrType = .groupAddress ∧ t.dest ≠ 0 ∧ t.isData
  | .individual dest =>
      t.addrType = .individualAddress ∧ t.dest = 0 ∧ (t.src = dest ∨ dest = 0) ∧ t.isData
  | .tpdu src => t.addrType = .individualAddress ∧ t.dest = src

/-- Whether a station has such mailboxes: letters to the group 0 are for everybody, and letters to
    the station itself are for 0. -/
def allowed (own : EibAddr) (h : Handler) : Bool :=
  match h with
  | .group groupaddr => groupaddr ≠ 0
  | .tpdu src => src = 0 ∨ src ≠ own
  | _ => true

/-- A client that opens for writing only gets no mail; there is no such choice for TPDUs. -/
def listens (h : Handler) (writeOnly : Bool) : Bool :=
  match h with
  | .tpdu _ => true
  | _ => !writeOnly

/-- The letter that a client sends. -/
def letter (own : EibAddr) (h : Handler) (addr : EibAddr) (c : CArray) : Letter :=
  match h with
  | .broadcast => ⟨own, .groupAddress, 0, maskHead c⟩
  | .group groupaddr => ⟨own, .groupAddress, groupaddr, maskHead c⟩
  | .groupSocket => ⟨own, .groupAddress, addr, maskHead c⟩
  | .individual dest => ⟨own, .individualAddress, dest, maskHead c⟩
  | .tpdu src => ⟨if src = 0 then own else src, .individualAddress, addr, c⟩

end Handler

/-- A client of a station. -/
structure Mailbox where
  handler : Handler
  /-- It has not been opened for writing only. -/
  listens : Bool
  mail : List Comm := []
  deriving DecidableEq, Repr

namespace Mailbox

/-- The client would get the letter. -/
def takes (b : Mailbox) (t : Letter) : Bool := b.listens && b.handler.wants t

def put (b : Mailbox) (t : Letter) : Mailbox :=
  if b.takes t then { b with mail := b.mail ++ [t.comm] } else b

end Mailbox

/-- A station: its mailboxes, and the letters that come next. -/
structure PostOffice where
  own : EibAddr
  boxes : Nat → Option Mailbox := fun _ => none
  next : Nat := 0
  line : List Letter := []

namespace PostOffice

/-- A letter comes in. -/
def deliver (p : PostOffice) (t : Letter) : PostOffice :=
  { p with boxes := fun cb => (p.boxes cb).map (·.put (t.arrive p.own)) }

/-- A client opens a mailbox. -/
def openBox (p : PostOffice) (h : Handler) (m : Message) : CArray × PostOffice :=
  if m.bytes.length = 5 ∧ h.allowed p.own then
    (m.bytes.take 2, { p with
      boxes := Function.update p.boxes p.next
        (some { handler := h, listens := h.listens m.writeOnly })
      next := p.next + 1 })
  else ([0x00#8, 0x02#8], p)

def closeBox (p : PostOffice) (cb : Nat) : PostOffice :=
  { p with boxes := Function.update p.boxes cb none }

/-- A client gets the first of its mail. -/
def takeMail (p : PostOffice) (cb : Nat) : ToClient × PostOffice :=
  match p.boxes cb with
  | some { handler, listens, mail := e :: mail } =>
      (some (cb, handler.packet e),
        { p with boxes := Function.update p.boxes cb (some { handler, listens, mail }) })
  | _ => (none, p)

end PostOffice

/-- The letter that a frame carries. -/
def LDataPDU.letter (l : LDataPDU) : Letter := ⟨l.source, l.addrType, l.dest, l.data⟩

variable {ι : Type} [DecidableEq ι]

/-- One event.  A frame has room for 1 to 255 bytes; a client that sends something else brings its
    eibd down. -/
def exchangeStep (net : ι → PostOffice) : BusEvent ι → Checked (ToClient × (ι → PostOffice))
  | .openTransport j m =>
      match m.transport? with
      | none => .ok (none, net)
      | some h =>
          .ok (some ((net j).next, ((net j).openBox h m).1),
            Function.update net j ((net j).openBox h m).2)
  | .message j cb m =>
      match (net j).boxes cb with
      | none => .ok (none, net)
      | some b =>
          match b.handler.doMessage m with
          | .ends =>
              .ok (if m.type = eibResetConnection then some (cb, [0x00#8, 0x04#8]) else none,
                Function.update net j ((net j).closeBox cb))
          | .skipped => .ok (none, net)
          | .send addr c =>
              if 1 ≤ c.length ∧ c.length ≤ 255 then
                .ok (none, fun i =>
                  if i = j then net i
                  else { net i with
                    line := (net i).line ++ [b.handler.letter (net j).own addr c] })
              else .error .assertion
  | .hangup j cb =>
      match (net j).boxes cb with
      | none => .ok (none, net)
      | some _ => .ok (none, Function.update net j ((net j).closeBox cb))
  | .foreign f => .ok (none, fun i => { net i with line := (net i).line ++ [f.frame.letter] })
  | .hear j _ =>
      match (net j).line with
      | [] => .ok (none, net)
      | t :: line =>
          .ok (none, Function.update net j ({ net j with line }.deliver t))
  | .miss j => .ok (none, Function.update net j { net j with line := (net j).line.tail })
  | .take j cb => .ok (((net j).takeMail cb).1, Function.update net j ((net j).takeMail cb).2)
  | .tick _ _ => .ok (none, net)

end BcuSdk.Eibd
