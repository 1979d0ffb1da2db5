/-
  BcuSdk.Eibd.EibNetIp

  The EIBnet/IP packets of a tunnelling connection
  (eibd/libserver/eibnetip.h, eibnetip.cpp), and the queue of queue.h.

  Addresses are left out: a packet is its service and its body.
-/
import BcuSdk.Eibd.Emi

namespace BcuSdk.Eibd

open BcuSdk.Lib

/-! ## Queues -/

namespace Queue

variable {α : Type}

/-- `Queue::top`. -/
def top : List α → Checked α
  | [] => .error .assertion
  | a :: _ => .ok a

/-- `Queue::get`: the element removed, and the rest. -/
def get : List α → Checked (α × List α)
  | [] => .error .assertion
  | a :: q => .ok (a, q)

theorem top_eq_ok {q : List α} {a : α} : top q = .ok a ↔ ∃ rest, q = a :: rest := by
  cases q <;> simp [top]

theorem get_eq_ok {q rest : List α} {a : α} : get q = .ok (a, rest) ↔ q = a :: rest := by
  cases q <;> simp [get]

end Queue

/-- `pth_sem_dec` on a semaphore with this value; at 0 it would wait forever, which is a fault. -/
def semDec : Nat → Checked Nat
  | 0 => .error .assertion
  | n + 1 => .ok n

/-! ## Packets -/

/-- `EIBNetIPPacket`. -/
structure EIBNetIPPacket where
  service : Word16
  data : CArray
  deriving DecidableEq, Repr

namespace Service

/-- `CONNECTIONSTATE_REQUEST`. -/
def connectionStateRequest : Word16 := 0x0207#16

/-- `CONNECTIONSTATE_RESPONSE`. -/
def connectionStateResponse : Word16 := 0x0208#16

/-- `DISCONNECT_REQUEST`. -/
def disconnectRequest : Word16 := 0x0209#16

/-- `DISCONNECT_RESPONSE`. -/
def disconnectResponse : Word16 := 0x020A#16

/-- `TUNNEL_REQUEST`. -/
def tunnelRequest : Word16 := 0x0420#16

/-- `TUNNEL_RESPONSE`. -/
def tunnelResponse : Word16 := 0x0421#16

end Service

/-! ## Tunnelling -/

structure EIBnetTunnelRequest where
  channel : Byte := 0#8
  seqno : Byte := 0#8
  cemi : CArray := []
  deriving DecidableEq, Repr

namespace EIBnetTunnelRequest

def toPacket (r : EIBnetTunnelRequest) : EIBNetIPPacket where
  service := Service.tunnelRequest
  data := [4#8, r.channel, r.seqno, 0#8] ++ r.cemi

/-- `parseEIBnet_TunnelRequest`. -/
def parse (p : EIBNetIPPacket) : Option EIBnetTunnelRequest :=
  if p.service ≠ Service.tunnelRequest then none
  -- the header of four bytes, and two of the frame
  else if p.data.length < 6 then none
  else
    match p.data with
    | head :: channel :: seqno :: _ :: cemi =>
        if head ≠ 4#8 then none else some { channel, seqno, cemi }
    | _ => none

/-- A packet comes back if its frame has the two bytes the parser asks for. -/
theorem parse_toPacket (r : EIBnetTunnelRequest) :
    parse r.toPacket = if r.cemi.length < 2 then none else some r := by
  have hlen : r.cemi.length + 1 + 1 + 1 + 1 < 6 ↔ r.cemi.length < 2 := by omega
  simp [parse, toPacket, hlen]

theorem parse_eq_some {p : EIBNetIPPacket} {r : EIBnetTunnelRequest} (h : parse p = some r) :
    p.service = Service.tunnelRequest ∧ 2 ≤ r.cemi.length := by
  unfold parse at h
  split at h
  · cases h
  · next hservice =>
    split at h
    · cases h
    · next hlen =>
      split at h
      · next hdata =>
        split at h
        · cases h
        · cases h
          rw [hdata] at hlen
          simp only [List.length_cons] at hlen
          exact ⟨not_not.mp hservice, by dsimp only; omega⟩
      · cases h

end EIBnetTunnelRequest

structure EIBnetTunnelACK where
  channel : Byte := 0#8
  seqno : Byte := 0#8
  status : Byte := 0#8
  deriving DecidableEq, Repr

namespace EIBnetTunnelACK

def toPacket (r : EIBnetTunnelACK) : EIBNetIPPacket where
  service := Service.tunnelResponse
  data := [4#8, r.channel, r.seqno, r.status]

/-- `parseEIBnet_TunnelACK`. -/
def parse (p : EIBNetIPPacket) : Option EIBnetTunnelACK :=
  if p.service ≠ Service.tunnelResponse then none
  else
    match p.data with
    | [head, channel, seqno, status] =>
        if head ≠ 4#8 then none else some { channel, seqno, status }
    | _ => none

@[simp] theorem parse_toPacket (r : EIBnetTunnelACK) : parse r.toPacket = some r := by
  simp [parse, toPacket]

theorem service_of_parse {p : EIBNetIPPacket} {r : EIBnetTunnelACK} (h : parse p = some r) :
    p.service = Service.tunnelResponse := by
  unfold parse at h
  split at h
  · cases h
  · next hservice => exact not_not.mp hservice

end EIBnetTunnelACK

@[simp] theorem EIBnetTunnelACK.parse_request (r : EIBnetTunnelRequest) :
    EIBnetTunnelACK.parse r.toPacket = none := rfl

@[simp] theorem EIBnetTunnelRequest.parse_ack (r : EIBnetTunnelACK) :
    EIBnetTunnelRequest.parse r.toPacket = none := rfl

/-! ## Supervision of the connection -/

structure EIBnetConnectionStateResponse where
  channel : Byte
  status : Byte
  deriving DecidableEq, Repr

/-- `parseEIBnet_ConnectionStateResponse`. -/
def EIBnetConnectionStateResponse.parse (p : EIBNetIPPacket) :
    Option EIBnetConnectionStateResponse :=
  if p.service ≠ Service.connectionStateResponse then none
  else
    match p.data with
    | [channel, status] => some { channel, status }
    | _ => none

structure EIBnetDisconnectRequest where
  channel : Byte
  deriving DecidableEq, Repr

/-- `parseEIBnet_DisconnectRequest`; `EIBnettoIP` refuses an address that is not marked as
    IPv4 and UDP. -/
def EIBnetDisconnectRequest.parse (p : EIBNetIPPacket) : Option EIBnetDisconnectRequest :=
  if p.service ≠ Service.disconnectRequest then none
  else
    match p.data with
    -- the address that the channel is followed by is not used
    | [channel, _, len, protocol, _, _, _, _, _, _] =>
        if len ≠ 0x8#8 ∨ protocol ≠ 0x1#8 then none else some { channel }
    | _ => none

structure EIBnetDisconnectResponse where
  channel : Byte
  status : Byte
  deriving DecidableEq, Repr

/-- `parseEIBnet_DisconnectResponse`. -/
def EIBnetDisconnectResponse.parse (p : EIBNetIPPacket) : Option EIBnetDisconnectResponse :=
  if p.service ≠ Service.disconnectResponse then none
  else
    match p.data with
    | [channel, status] => some { channel, status }
    | _ => none

/-! ## What a side does to its surroundings -/

inductive TunnelAction where
  /-- A packet of the tunnelling service is sent. -/
  | send (p : EIBNetIPPacket)
  /-- A packet that supervises the connection is sent. -/
  | control (service : Word16) (channel : Byte)
  /-- A `CONNECTION_REQUEST` is sent. -/
  | connect (busmonitor : Bool)
  /-- The frame of a `TUNNEL_REQUEST` with the expected number is accepted. -/
  | taken (cemi : CArray)
  /-- Such a frame is answered with an error status. -/
  | refused (cemi : CArray)
  /-- A `TUNNEL_REQUEST` is answered as a repetition. -/
  | repeated
  /-- A frame enters the own queue. -/
  | put (cemi : CArray)
  /-- The frame in front of the own queue is removed on a `TUNNEL_RESPONSE`, -/
  | acked (cemi : CArray)
  /-- or without one. -/
  | dropped (cemi : CArray)
  /-- `l3->send_L_Data`. -/
  | sendLData (l : LDataPDU)
  /-- `outqueue.put`; `none` is the null pointer. -/
  | out (l : Option LPDU)
  deriving DecidableEq, Repr

end BcuSdk.Eibd
