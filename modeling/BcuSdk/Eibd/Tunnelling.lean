/-
  BcuSdk.Eibd.Tunnelling

  A tunnelling connection as a whole: a connection of `EIBnetServer`, an
  `EIBNetIPTunnel`, and the network between them.

  Every datagram sent stays available: it may arrive at any later time, any
  number of times, or never.  A step is one phase of a pass of either loop.  The
  phases may come in any order, which allows all that the loops do and more; a
  side that is gone takes no more steps.
-/
import BcuSdk.Eibd.TunnelTurn
import BcuSdk.Lib.Run
import BcuSdk.Lib.StopAndWait

namespace BcuSdk.Eibd

open BcuSdk.Lib

/-! ## Datagrams -/

/-- A datagram, with what its sender had done when it sent it: the frames that had left its
    queue, those among them that had been acknowledged, and the frames it had taken. -/
structure Datagram where
  packet : EIBNetIPPacket
  poppedByThen : Nat
  ackedByThen : Nat
  takenByThen : Nat
  deriving DecidableEq, Repr

/-- What a side can change: the history of the frames it sends, of those it receives, and the
    datagrams it has sent. -/
structure TunnelView where
  own : Link CArray
  peer : Link CArray
  sent : List Datagram
  deriving DecidableEq, Repr

namespace TunnelView

def datagram (v : TunnelView) (packet : EIBNetIPPacket) : Datagram where
  packet := packet
  poppedByThen := v.own.popped
  ackedByThen := v.own.acked.length
  takenByThen := v.peer.taken.length

/-- One action of the side, which has received frame `i`. -/
def perform (i : Nat) (v : TunnelView) : TunnelAction → TunnelView
  | .send p => { v with sent := v.sent ++ [v.datagram p] }
  | .taken c => { v with peer := v.peer.take i c }
  | .repeated => { v with peer := v.peer.discard i }
  | .put c => { v with own := v.own.put c }
  | .acked _ => { v with own := v.own.ack }
  | .dropped _ => { v with own := v.own.drop }
  -- the other actions concern neither link
  | _ => v

end TunnelView

/-! ## The system -/

structure Tunnel where
  server : ConnState
  client : EIBNetIPTunnel
  /-- From the server to the client. -/
  down : Link CArray
  /-- From the client to the server. -/
  up : Link CArray
  toClient : List Datagram
  toServer : List Datagram
  deriving DecidableEq, Repr

namespace Tunnel

def serverView (s : Tunnel) : TunnelView := ⟨s.down, s.up, s.toClient⟩

def clientView (s : Tunnel) : TunnelView := ⟨s.up, s.down, s.toServer⟩

/-- A phase of the server, which has received frame `i`. -/
def atServer (s : Tunnel) (i : Nat) (phase : Checked (ConnState × List TunnelAction)) :
    Checked Tunnel := do
  let (server, actions) ← phase
  let v := actions.foldl (TunnelView.perform i) s.serverView
  return { s with server, down := v.own, up := v.peer, toClient := v.sent }

/-- A phase of the client, which has received frame `i`. -/
def atClient (s : Tunnel) (i : Nat) (phase : Checked (EIBNetIPTunnel × List TunnelAction)) :
    Checked Tunnel := do
  let (client, actions) ← phase
  let v := actions.foldl (TunnelView.perform i) s.clientView
  return { s with client, up := v.own, down := v.peer, toServer := v.sent }

/-- What can happen next. -/
inductive Event where
  /-- Layer 3 has a frame for the client. -/
  | serverPut (cemi : CArray)
  /-- Datagram `i` to the server arrives. -/
  | serverRecv (i : Nat)
  | serverSend (sendtimeout : Bool)
  /-- `Send_L_Data`, or a busmonitor is entered or left. -/
  | clientPut (cemi : CArray)
  /-- Datagram `i` to the client arrives. -/
  | clientRecv (i : Nat)
  /-- A packet of another service arrives at the client. -/
  | clientControl (p : EIBNetIPPacket)
  | clientTimeout
  | clientHeartbeat
  | clientMarker
  | clientSend
  deriving DecidableEq, Repr

/-- The packet belongs to the tunnelling service. -/
def Tunnelling (p : EIBNetIPPacket) : Prop :=
  p.service = Service.tunnelRequest ∨ p.service = Service.tunnelResponse

instance (p : EIBNetIPPacket) : Decidable (Tunnelling p) :=
  inferInstanceAs (Decidable (p.service = Service.tunnelRequest ∨
    p.service = Service.tunnelResponse))

def step (s : Tunnel) : Event → Checked Tunnel
  | .serverPut c => .ok { s with server := s.server.put c, down := s.down.put c }
  | .serverRecv i =>
      -- a datagram stays in the list: it may come again, late, or never
      match s.toServer[i]? with
      | none => .ok s
      | some d => s.atServer d.poppedByThen (s.server.recv d.packet)
  | .serverSend sendtimeout => s.atServer 0 (s.server.sendPhase sendtimeout)
  | .clientPut c => .ok { s with client := s.client.put c, up := s.up.put c }
  | .clientRecv i =>
      match s.toClient[i]? with
      | none => .ok s
      | some d => s.atClient d.poppedByThen (s.client.recv d.packet)
  | .clientControl p => if Tunnelling p then .ok s else s.atClient 0 (s.client.recv p)
  | .clientTimeout => s.atClient 0 s.client.onTimeout
  | .clientHeartbeat => s.atClient 0 (.ok s.client.onHeartbeat)
  | .clientMarker => s.atClient 0 (.ok s.client.dropMarker)
  | .clientSend => s.atClient 0 s.client.sendPhase

/-- A connection of this type that has just been opened.  The client may have frames from before
    in its queue. -/
def opened (client : EIBNetIPTunnel) (channel : Byte) (myaddr : EibAddr) (type : ConnType) :
    Tunnel where
  server := { channel, type }
  client := client.connected channel myaddr
  down := {}
  up := { queued := client.inqueue }
  toClient := []
  toServer := []

end Tunnel

end BcuSdk.Eibd
