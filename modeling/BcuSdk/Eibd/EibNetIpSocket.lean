/-
  BcuSdk.Eibd.EibNetIpSocket

  The receive buffer of `EIBNetIPSocket` (eibd/libserver/eibnetip.cpp) and the
  routing backend on top of it (eibd/backend/eibnetrouter.h, eibnetrouter.cpp).

  `EIBNetIPSocket::Run` reads at most 255 bytes of a datagram.  What a packet
  carries is bounded by that, less the headers of its service; a longer packet
  arrives cut off, and `EIBNetIPPacket::fromPacket` refuses it because of its
  length field.
-/
import BcuSdk.Eibd.EibNetIpRoundTrip
import BcuSdk.Eibd.EibNetServerRun
import BcuSdk.Eibd.EibNetTunnelRun
import BcuSdk.Eibd.FrameSafety

namespace BcuSdk.Eibd

open BcuSdk.Lib

/-! ## Receiving a datagram -/

/-- `sizeof (buf)` in `EIBNetIPSocket::Run`. -/
def receiveBufferSize : Nat := 255

/-- The receive part of `EIBNetIPSocket::Run` for a datagram from `r`: what enters `outqueue`.  The
    system call leaves out what does not fit the buffer. -/
def SocketFilter.receive (f : SocketFilter) (datagram : CArray) (r : SockaddrIn) :
    Checked (Option ReceivedPacket) := do
  -- `pth_recvfrom_ev` is given `sizeof (buf)`
  let buf := datagram.take receiveBufferSize
  if buf.length > 0 ∧ f.accepts r then
    EIBNetIPPacket.fromPacket buf r
  else
    return none

/-- A packet arrives as a whole or not at all. -/
theorem SocketFilter.receive_datagram {f : SocketFilter} {r : SockaddrIn} {p : EIBNetIPPacket}
    (haccepts : f.accepts r = true) (hlen : p.toPacket.length < 65536) :
    f.receive p.toPacket r =
      .ok (if p.toPacket.length ≤ receiveBufferSize then some { p with src := r } else none) := by
  have htotal := p.length_toPacket
  have hnonempty : (p.toPacket.take receiveBufferSize).length > 0 := by
    rw [List.length_take, htotal, receiveBufferSize]
    omega
  rw [receive, if_pos ⟨hnonempty, haccepts⟩]
  split
  · next hfits =>
    rw [List.take_of_length_le hfits]
    exact EIBNetIPPacket.fromPacket_toPacket r hlen
  · next hlong =>
    -- the length field still says how long the datagram was
    have hcut : (p.toPacket.take receiveBufferSize).length = 255 := by
      rw [List.length_take]
      exact Nat.min_eq_left (Nat.le_of_lt (Nat.lt_of_not_le hlong))
    have hbytes : p.toPacket.take receiveBufferSize = 0x06#8 :: 0x10#8 :: hiByte p.service ::
        loByte p.service :: hiByte (BitVec.ofNat 16 (p.data.length + 6)) ::
        loByte (BitVec.ofNat 16 (p.data.length + 6)) :: p.data.take 249 := rfl
    have hfield : (BitVec.ofNat 16 (p.data.length + 6)).toNat = p.data.length + 6 := by
      rw [BitVec.toNat_ofNat]
      omega
    have hmismatch : p.data.length + 6 ≠ 255 := by
      rw [receiveBufferSize] at hlong
      omega
    simp only [EIBNetIPPacket.fromPacket, hcut]
    rw [hbytes]
    simp [hfield, hmismatch]

/-! ## Frames in a packet -/

/-- The two services that carry an `L_Data` frame: what a router multicasts, and what a tunnel
    client and the server send to each other. -/
inductive FrameService where
  | routingIndication
  | tunnelRequest (channel seqno : Byte)
  deriving DecidableEq, Repr

/-- The packet with a cEMI frame in it. -/
def FrameService.packet (k : FrameService) (cemi : CArray) : EIBNetIPPacket :=
  match k with
  | .routingIndication => { service := Service.routingIndication, data := cemi }
  | .tunnelRequest channel seqno => EIBnetTunnelRequest.toPacket { channel, seqno, cemi }

/-- The longest payload whose packet fits the receive buffer. -/
def FrameService.capacity : FrameService → Nat
  | .routingIndication => 240
  | .tunnelRequest _ _ => 236

/-- The datagram with the frame `l` is read completely by every socket that takes in datagrams of
    its sender, and gives the packet that was sent. -/
def FrameService.Carries (k : FrameService) (code : Byte) (l : LDataPDU) : Prop :=
  ∃ cemi, lDataToCEMI code l = .ok cemi ∧
    ∀ (f : SocketFilter) (r : SockaddrIn), f.accepts r = true →
      f.receive (k.packet cemi).toPacket r = .ok (some { k.packet cemi with src := r })

/-- Header of the datagram, of the service and of the frame. -/
theorem FrameService.length_packet (k : FrameService) (code : Byte) (l : LDataPDU) :
    (k.packet (l.cemiBytes code)).toPacket.length + k.capacity = l.data.length + 255 := by
  cases k with
  | routingIndication => simp [packet, capacity, EIBNetIPPacket.toPacket, LDataPDU.cemiBytes]
  | tunnelRequest channel seqno =>
      simp [packet, capacity, EIBNetIPPacket.toPacket, EIBnetTunnelRequest.toPacket,
        LDataPDU.cemiBytes]

/-- A frame that can be encoded arrives exactly if its payload fits what the headers leave. -/
theorem FrameService.carries_iff (k : FrameService) (code : Byte) (l : LDataPDU)
    (h : l.CEMIEncodable) : k.Carries code l ↔ l.data.length ≤ k.capacity := by
  have hbytes : lDataToCEMI code l = .ok (l.cemiBytes code) := lDataToCEMI_eq_ok.mpr ⟨h, rfl⟩
  have hlen := k.length_packet code l
  have hpayload := h.fits
  have hshort : (k.packet (l.cemiBytes code)).toPacket.length < 65536 := by omega
  have hfits : (k.packet (l.cemiBytes code)).toPacket.length ≤ receiveBufferSize ↔
      l.data.length ≤ k.capacity := by
    rw [receiveBufferSize]
    omega
  rw [← hfits]
  constructor
  · rintro ⟨cemi, hcemi, hall⟩
    obtain rfl : cemi = l.cemiBytes code := Except.ok.inj (hcemi.symm.trans hbytes)
    -- a socket that takes in everything would give nothing
    have hopen : SocketFilter.accepts { recvall := 1 } {} = true := rfl
    by_contra hlong
    have hread := SocketFilter.receive_datagram hopen hshort
    rw [if_neg hlong, hall _ _ hopen] at hread
    cases hread
  · intro hle
    refine ⟨_, hbytes, fun f r haccepts => ?_⟩
    rw [SocketFilter.receive_datagram haccepts hshort, if_pos hle]

theorem FrameService.carries_iff_routing :
    FrameService.routingIndication.Carries 0x29#8 { data := [0x00#8, 0x81#8] } ↔
      [0x00#8, 0x81#8].length ≤ FrameService.routingIndication.capacity :=
  FrameService.carries_iff .routingIndication 0x29#8 { data := [0x00#8, 0x81#8] }
    ⟨by decide, by decide, by decide⟩

/-- 241 payload bytes in a ROUTING_INDICATION make a datagram of 256 bytes. -/
theorem FrameService.carries_fails_241 :
    let l : LDataPDU := { data := List.replicate 241 0x00#8 }
    l.CEMIEncodable ∧ ¬ FrameService.routingIndication.Carries 0x29#8 l := by
  intro l
  have hdata : l.data.length = 241 := List.length_replicate
  refine ⟨⟨by omega, by omega, by decide⟩, ?_⟩
  rintro ⟨cemi, hcemi, hall⟩
  have hopen : SocketFilter.accepts { recvall := 1 } {} = true := rfl
  have hread := hall _ _ hopen
  obtain ⟨-, rfl⟩ := lDataToCEMI_eq_ok.mp hcemi
  have hlen : (routingIndication.packet (l.cemiBytes 0x29#8)).toPacket.length + 240 = 241 + 255 :=
    hdata ▸ length_packet .routingIndication 0x29#8 l
  rw [SocketFilter.receive_datagram hopen (by omega),
    if_neg (by rw [receiveBufferSize]; omega)] at hread
  cases hread

end BcuSdk.Eibd
