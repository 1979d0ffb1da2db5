/-
  BcuSdk.Eibd.EibNetIpRoundTrip

  What arrives when an EIBnet/IP body is packed, sent and parsed again.

  Each class is compared offset by offset: what ToPacket writes at an offset
  is what the parser reads there.  Three things do not travel: an address
  marked as behind NAT comes back as the source of the datagram, an error
  answer to a connect request consists of channel and status only, and the
  reserved byte of a connection state request is not its `status`.
-/
import BcuSdk.Eibd.EibNetIpBody

namespace BcuSdk.Eibd

open BcuSdk.Lib

/-! ## Addresses -/

/-- Without NAT an address is written out, so neither half may be the wildcard 0. -/
def SockaddrIn.Writable (a : SockaddrIn) (nat : Bool) : Prop :=
  nat = false → a.addr ≠ 0#32 ∧ a.port ≠ 0#16

instance (a : SockaddrIn) (nat : Bool) : Decidable (a.Writable nat) := by
  unfold SockaddrIn.Writable
  infer_instance

/-- The address that arrives: an IPv4 address, and the one of the sender behind NAT. -/
def SockaddrIn.carried (a src : SockaddrIn) (nat : Bool) : SockaddrIn :=
  if nat then { src with family := afInet } else { a with family := afInet }

theorem eibnetToIP_ipToEIBNetIP {a : SockaddrIn} {nat : Bool} (src : SockaddrIn) (before : Bool)
    (h : a.Writable nat) :
    eibnetToIP (ipToEIBNetIP a nat).1 src before =
      .ok (some (a.carried src nat, nat || before)) := by
  cases nat with
  | true => simp [eibnetToIP, ipToEIBNetIP, SockaddrIn.carried, word16, word32]
  | false =>
      obtain ⟨haddr, hport⟩ := h rfl
      simp [eibnetToIP, ipToEIBNetIP, SockaddrIn.carried, haddr, hport]

/-! ## The frame header -/

theorem EIBNetIPPacket.fromPacket_toPacket {p : EIBNetIPPacket} (src : SockaddrIn)
    (h : p.toPacket.length < 65536) :
    fromPacket p.toPacket src = .ok (some { p with src }) := by
  rw [length_toPacket] at h
  have hmod : (p.data.length + 6) % 65536 = p.data.length + 6 := Nat.mod_eq_of_lt h
  have hdata : readSlice p.toPacket 6 p.data.length = .ok p.data :=
    readSlice_append_right [_, _, _, _, _, _] p.data
  simp only [toPacket, List.cons_append, List.nil_append] at hdata
  simp [fromPacket, toPacket, hmod, hdata]

/-! ## Connecting -/

namespace EIBnetConnectRequest

theorem parse_toPacket (fresh : Nat → Byte) {r : EIBnetConnectRequest} (src : SockaddrIn)
    (hc : r.caddr.Writable r.nat) (hd : r.daddr.Writable r.nat) (hlo : 1 ≤ r.cri.length)
    (hhi : r.cri.length ≤ 254) :
    parse { r.toPacket fresh with src } {} =
      .ok (some { r with
        caddr := r.caddr.carried src r.nat, daddr := r.daddr.carried src r.nat }) := by
  have hservice : (r.toPacket fresh).service = Service.connectionRequest := rfl
  have hlen : (r.toPacket fresh).data.length = 17 + r.cri.length := by
    simp [toPacket]
  -- the four parts of the body, as they are read back
  have hca : readSlice (r.toPacket fresh).data 0 8 = .ok (ipToEIBNetIP r.caddr r.nat).1 := by
    simp (disch := omega) [toPacket, ByteBlock.readSlice_write_disjoint,
      ByteBlock.readSlice_set_disjoint]
  have hda : readSlice (r.toPacket fresh).data 8 8 = .ok (ipToEIBNetIP r.daddr r.nat).1 := by
    simp (disch := omega) [toPacket, ByteBlock.readSlice_write_disjoint,
      ByteBlock.readSlice_set_disjoint]
  have hcount : readByte (r.toPacket fresh).data 16 =
      .ok (BitVec.ofNat 8 (r.cri.length + 1)) := by
    simp (disch := omega) [toPacket, ByteBlock.readByte_write_disjoint]
  have hcri : readSlice (r.toPacket fresh).data 17 r.cri.length = .ok r.cri := by
    simp [toPacket]
  have hshort : ¬ 17 + r.cri.length < 18 := by omega
  have hrest : 17 + r.cri.length - 17 = r.cri.length := by omega
  have hmatch : 17 + r.cri.length - 16 = (BitVec.ofNat 8 (r.cri.length + 1)).toNat := by
    rw [toNat_ofNat_byte (by omega)]
    omega
  simp [parse, hservice, hlen, hshort, hca, hda, hcount, hmatch, hrest, hcri,
    eibnetToIP_ipToEIBNetIP src _ hc, eibnetToIP_ipToEIBNetIP src _ hd]

end EIBnetConnectRequest

namespace EIBnetConnectResponse

/-- An answer with an error status is the channel and the status. -/
theorem parse_toPacket_error (fresh : Nat → Byte) {r : EIBnetConnectResponse} (src : SockaddrIn)
    (h : r.status ≠ 0#8) :
    parse { r.toPacket fresh with src } {} =
      .ok (some { channel := r.channel, status := r.status }) := by
  have hservice : (r.toPacket fresh).service = Service.connectionResponse := rfl
  have hlen : (r.toPacket fresh).data.length = 2 := by
    simp [toPacket, h]
  have hchannel : readByte (r.toPacket fresh).data 0 = .ok r.channel := by
    simp [toPacket, h, ByteBlock.readByte_set_ne]
  have hstatus : readByte (r.toPacket fresh).data 1 = .ok r.status := by
    simp [toPacket, h]
  simp [parse, hservice, hlen, hchannel, hstatus, h]

theorem parse_toPacket (fresh : Nat → Byte) {r : EIBnetConnectResponse} (src : SockaddrIn)
    (h : r.status = 0#8) (hd : r.daddr.Writable r.nat) (hlo : 1 ≤ r.crd.length)
    (hhi : r.crd.length ≤ 254) :
    parse { r.toPacket fresh with src } {} =
      .ok (some { r with daddr := r.daddr.carried src r.nat }) := by
  have hservice : (r.toPacket fresh).service = Service.connectionResponse := rfl
  have hlen : (r.toPacket fresh).data.length = 11 + r.crd.length := by
    simp [toPacket, h]
    omega
  have hchannel : readByte (r.toPacket fresh).data 0 = .ok r.channel := by
    simp (disch := omega) [toPacket, h, ByteBlock.readByte_write_disjoint,
      ByteBlock.readByte_set_ne]
  have hstatus : readByte (r.toPacket fresh).data 1 = .ok 0#8 := by
    simp (disch := omega) [toPacket, h, ByteBlock.readByte_write_disjoint,
      ByteBlock.readByte_set_ne]
  have hda : readSlice (r.toPacket fresh).data 2 8 = .ok (ipToEIBNetIP r.daddr r.nat).1 := by
    simp (disch := omega) [toPacket, h, ByteBlock.readSlice_write_disjoint,
      ByteBlock.readSlice_set_disjoint]
  have hcount : readByte (r.toPacket fresh).data 10 =
      .ok (BitVec.ofNat 8 (r.crd.length + 1)) := by
    simp (disch := omega) [toPacket, h, ByteBlock.readByte_write_disjoint]
  have hcrd : readSlice (r.toPacket fresh).data 11 r.crd.length = .ok r.crd := by
    simp [toPacket, h]
  have hshort : ¬ 11 + r.crd.length < 2 := by omega
  have hshort' : ¬ 11 + r.crd.length < 12 := by omega
  have hrest : 11 + r.crd.length - 11 = r.crd.length := by omega
  have hmatch : 11 + r.crd.length - 10 = (BitVec.ofNat 8 (r.crd.length + 1)).toNat := by
    rw [toNat_ofNat_byte (by omega)]
    omega
  simp [parse, hservice, hlen, hshort, hshort', hchannel, hstatus, hda, hcount, hmatch, hrest,
    hcrd, eibnetToIP_ipToEIBNetIP src _ hd, h]

end EIBnetConnectResponse

/-! ## Requests and answers on a channel -/

/-- The endpoint is read as `eibnetToIP` reads it. -/
theorem parseChannelRequest_of_eibnetToIP (fresh : Nat → Byte) (service : Word16) (channel : Byte)
    {caddr src : SockaddrIn} {nat before : Bool} {r : SockaddrIn × Bool}
    (h : eibnetToIP (ipToEIBNetIP caddr nat).1 src before = .ok (some r)) :
    parseChannelRequest service
        { service, data := channelRequest fresh channel caddr nat, src } before =
      .ok (some (channel, r)) := by
  have hlen : (channelRequest fresh channel caddr nat).length = 10 := by
    simp [channelRequest]
  have hchannel : readByte (channelRequest fresh channel caddr nat) 0 = .ok channel := by
    simp (disch := omega) [channelRequest, ByteBlock.readByte_write_disjoint,
      ByteBlock.readByte_set_ne]
  have hca : readSlice (channelRequest fresh channel caddr nat) 2 8 =
      .ok (ipToEIBNetIP caddr nat).1 := by
    simp [channelRequest]
  simp [parseChannelRequest, hlen, hchannel, hca, h]

theorem parseChannelRequest_channelRequest (fresh : Nat → Byte) (service : Word16)
    (channel : Byte) {caddr : SockaddrIn} {nat : Bool} (src : SockaddrIn)
    (h : caddr.Writable nat) :
    parseChannelRequest service
        { service, data := channelRequest fresh channel caddr nat, src } false =
      .ok (some (channel, caddr.carried src nat, nat)) := by
  refine parseChannelRequest_of_eibnetToIP fresh service channel ?_
  rw [eibnetToIP_ipToEIBNetIP src false h, Bool.or_false]

theorem parseChannelStatus_channelStatus (fresh : Nat → Byte) (service : Word16)
    (channel status : Byte) (src : SockaddrIn) :
    parseChannelStatus service { service, data := channelStatus fresh channel status, src } =
      .ok (some (channel, status)) := by
  have hlen : (channelStatus fresh channel status).length = 2 := by
    simp [channelStatus]
  have hchannel : readByte (channelStatus fresh channel status) 0 = .ok channel := by
    simp [channelStatus, ByteBlock.readByte_set_ne]
  have hstatus : readByte (channelStatus fresh channel status) 1 = .ok status := by
    simp [channelStatus]
  simp [parseChannelStatus, hlen, hchannel, hstatus]

theorem EIBnetConnectionStateRequest.parse_toPacket (fresh : Nat → Byte)
    {r : EIBnetConnectionStateRequest} (src : SockaddrIn) (status : Byte)
    (h : r.caddr.Writable r.nat) :
    parse { r.toPacket fresh with src } { status } =
      .ok (some { r with status, caddr := r.caddr.carried src r.nat }) := by
  have hread := parseChannelRequest_channelRequest fresh Service.connectionStateRequest
    r.channel src h
  simp [parse, toPacket, hread]

theorem EIBnetDisconnectRequestFrom.parse_toPacket (fresh : Nat → Byte)
    {r : EIBnetDisconnectRequestFrom} (src : SockaddrIn) (h : r.caddr.Writable r.nat) :
    parse { r.toPacket fresh with src } {} =
      .ok (some { r with caddr := r.caddr.carried src r.nat }) := by
  have hread := parseChannelRequest_channelRequest fresh Service.disconnectRequest
    r.channel src h
  simp [parse, toPacket, hread]

theorem EIBnetConnectionStateResponse.parseBytes_toPacket (fresh : Nat → Byte)
    (r : EIBnetConnectionStateResponse) (src : SockaddrIn) :
    parseBytes { r.toPacket fresh with src } = .ok (some r) := by
  have hread := parseChannelStatus_channelStatus fresh Service.connectionStateResponse
    r.channel r.status src
  simp [parseBytes, toPacket, hread]

theorem EIBnetDisconnectResponse.parseBytes_toPacket (fresh : Nat → Byte)
    (r : EIBnetDisconnectResponse) (src : SockaddrIn) :
    parseBytes { r.toPacket fresh with src } = .ok (some r) := by
  have hread := parseChannelStatus_channelStatus fresh Service.disconnectResponse
    r.channel r.status src
  simp [parseBytes, toPacket, hread]

/-! ## Frames on a channel -/

theorem parseChannelFrame_channelFrame (fresh : Nat → Byte) (service : Word16)
    (channel seqno : Byte) {cemi : CArray} (src : SockaddrIn) (h : 2 ≤ cemi.length) :
    parseChannelFrame service { service, data := channelFrame fresh channel seqno cemi, src } =
      .ok (some (channel, seqno, cemi)) := by
  have hlen : (channelFrame fresh channel seqno cemi).length = cemi.length + 4 := by
    simp [channelFrame]
  have hhead : readByte (channelFrame fresh channel seqno cemi) 0 = .ok 4#8 := by
    simp (disch := omega) [channelFrame, ByteBlock.readByte_write_disjoint,
      ByteBlock.readByte_set_ne]
  have hchannel : readByte (channelFrame fresh channel seqno cemi) 1 = .ok channel := by
    simp (disch := omega) [channelFrame, ByteBlock.readByte_write_disjoint,
      ByteBlock.readByte_set_ne]
  have hseqno : readByte (channelFrame fresh channel seqno cemi) 2 = .ok seqno := by
    simp (disch := omega) [channelFrame, ByteBlock.readByte_write_disjoint,
      ByteBlock.readByte_set_ne]
  have hcemi : readSlice (channelFrame fresh channel seqno cemi) 4 cemi.length = .ok cemi := by
    simp [channelFrame]
  have hshort : ¬ cemi.length + 4 < 6 := by omega
  simp [parseChannelFrame, hlen, hshort, hhead, hchannel, hseqno, hcemi]

theorem parseChannelAck_channelAck (fresh : Nat → Byte) (service : Word16)
    (channel seqno status : Byte) (src : SockaddrIn) :
    parseChannelAck service { service, data := channelAck fresh channel seqno status, src } =
      .ok (some (channel, seqno, status)) := by
  have hlen : (channelAck fresh channel seqno status).length = 4 := by
    simp [channelAck]
  have hhead : readByte (channelAck fresh channel seqno status) 0 = .ok 4#8 := by
    simp [channelAck, ByteBlock.readByte_set_ne]
  have hchannel : readByte (channelAck fresh channel seqno status) 1 = .ok channel := by
    simp [channelAck, ByteBlock.readByte_set_ne]
  have hseqno : readByte (channelAck fresh channel seqno status) 2 = .ok seqno := by
    simp [channelAck, ByteBlock.readByte_set_ne]
  have hstatus : readByte (channelAck fresh channel seqno status) 3 = .ok status := by
    simp [channelAck]
  simp [parseChannelAck, hlen, hhead, hchannel, hseqno, hstatus]

theorem EIBnetTunnelRequest.parseBytes_toPacketBytes (fresh : Nat → Byte)
    {r : EIBnetTunnelRequest} (src : SockaddrIn) (h : 2 ≤ r.cemi.length) :
    parseBytes { r.toPacketBytes fresh with src } = .ok (some r) := by
  have hread := parseChannelFrame_channelFrame fresh Service.tunnelRequest r.channel r.seqno src h
  simp [parseBytes, toPacketBytes, hread]

theorem EIBnetConfigRequest.parse_toPacket (fresh : Nat → Byte) {r : EIBnetConfigRequest}
    (src : SockaddrIn) (h : 2 ≤ r.cemi.length) :
    parse { r.toPacket fresh with src } = .ok (some r) := by
  have hread := parseChannelFrame_channelFrame fresh Service.deviceConfigurationRequest
    r.channel r.seqno src h
  simp [parse, toPacket, hread]

theorem EIBnetTunnelACK.parseBytes_toPacketBytes (fresh : Nat → Byte) (r : EIBnetTunnelACK)
    (src : SockaddrIn) : parseBytes { r.toPacketBytes fresh with src } = .ok (some r) := by
  have hread := parseChannelAck_channelAck fresh Service.tunnelResponse r.channel r.seqno
    r.status src
  simp [parseBytes, toPacketBytes, hread]

theorem EIBnetConfigACK.parse_toPacket (fresh : Nat → Byte) (r : EIBnetConfigACK)
    (src : SockaddrIn) : parse { r.toPacket fresh with src } = .ok (some r) := by
  have hread := parseChannelAck_channelAck fresh Service.deviceConfigurationAck r.channel
    r.seqno r.status src
  simp [parse, toPacket, hread]

/-! ## Discovery -/

theorem parseEndpoint_ipToEIBNetIP (service : Word16) {caddr : SockaddrIn} {nat : Bool}
    (src : SockaddrIn) (h : caddr.Writable nat) :
    parseEndpoint service { service, data := (ipToEIBNetIP caddr nat).1, src } false =
      .ok (some (caddr.carried src nat, nat)) := by
  simp [parseEndpoint, eibnetToIP_ipToEIBNetIP src _ h]

theorem EIBnetDescriptionRequest.parse_toPacket {r : EIBnetDescriptionRequest}
    (src : SockaddrIn) (h : r.caddr.Writable r.nat) :
    parse { r.toPacket with src } {} =
      .ok (some { r with caddr := r.caddr.carried src r.nat }) := by
  have hread := parseEndpoint_ipToEIBNetIP Service.descriptionRequest src h
  simp [parse, toPacket, hread]

theorem EIBnetSearchRequest.parse_toPacket {r : EIBnetSearchRequest} (src : SockaddrIn)
    (h : r.caddr.Writable r.nat) :
    parse { r.toPacket with src } {} =
      .ok (some { r with caddr := r.caddr.carried src r.nat }) := by
  have hread := parseEndpoint_ipToEIBNetIP Service.searchRequest src h
  simp [parse, toPacket, hread]

namespace DeviceInfo

/-- Byte `2 i` of the service block is the family of entry `i`, and the next one its version. -/
theorem serviceBytes_getElem? (services : List DIBServiceEntry) (i : Nat)
    (hi : i < services.length) :
    (serviceBytes services).1[2 * i]? = some services[i].family ∧
      (serviceBytes services).1[2 * i + 1]? = some services[i].version := by
  simp only [serviceBytes]
  induction services generalizing i with
  | nil => simp at hi
  | cons d services ih =>
      cases i with
      | zero => simp
      | succ i =>
          have hrest := ih i (by simpa using hi)
          have hindex : 2 * (i + 1) = 2 * i + 1 + 1 := by omega
          simpa [hindex] using hrest

section Layout

variable (info : DeviceInfo) {base serialAt : Nat} (hserial : serialAt + 6 ≤ base + 56)
  (data : ByteBlock (base + 56 + 2 * info.services.length)) (rest : CArray)

/-- The eight bytes in front of the serial number. -/
theorem write_header (hafter : base + 8 ≤ serialAt) :
    let bytes := (info.write base serialAt hserial data).1 ++ rest
    readByte bytes base = .ok 54#8 ∧
      readByte bytes (base + 1) = .ok 1#8 ∧
      readByte bytes (base + 2) = .ok info.knxMedium ∧
      readByte bytes (base + 3) = .ok info.devicestatus ∧
      readByte bytes (base + 4) = .ok (hiByte info.individualAddr) ∧
      readByte bytes (base + 5) = .ok (loByte info.individualAddr) ∧
      readByte bytes (base + 6) = .ok (hiByte info.installid) ∧
      readByte bytes (base + 7) = .ok (loByte info.installid) := by
  refine ⟨?_, ?_, ?_, ?_, ?_, ?_, ?_, ?_⟩ <;>
    simp (disch := omega) [write, ByteBlock.readByte_append, ByteBlock.readByte_write_disjoint,
      ByteBlock.readByte_set_ne]

/-- The multicast address and the MAC address overwrite what lies below them. -/
theorem write_addresses :
    let bytes := (info.write base serialAt hserial data).1 ++ rest
    ByteBlock.read bytes (base + 14) 4 = .ok info.multicastaddr ∧
      ByteBlock.read bytes (base + 18) 6 = .ok info.mac := by
  constructor <;>
    simp (disch := omega) [write, ByteBlock.read_eq_ok, ByteBlock.readSlice_append,
      ByteBlock.readSlice_write_disjoint, ByteBlock.readSlice_set_disjoint]

/-- The last byte of the name is set to 0, as it was. -/
theorem write_name (hname : info.name.1[29]? = some 0#8) :
    ByteBlock.read ((info.write base serialAt hserial data).1 ++ rest) (base + 24) 30 =
      .ok info.name := by
  rw [ByteBlock.read_eq_ok, ByteBlock.readSlice_append _ _ (by omega)]
  simp (disch := omega) only [write, ByteBlock.readSlice_write_disjoint,
    ByteBlock.readSlice_set_disjoint]
  exact ByteBlock.readSlice_set_within (j := 29) _ _ _ _ hname

/-- The serial number comes back if it was written where it is read. -/
theorem write_serial (hat : serialAt = base + 8) :
    ByteBlock.read ((info.write base serialAt hserial data).1 ++ rest) (base + 8) 6 =
      .ok info.serial := by
  subst hat
  simp (disch := omega) [write, ByteBlock.read_eq_ok, ByteBlock.readSlice_append,
    ByteBlock.readSlice_write_disjoint, ByteBlock.readSlice_set_disjoint]

/-- The header of the second block and its entries. -/
theorem write_services :
    let bytes := (info.write base serialAt hserial data).1 ++ rest
    readByte bytes (base + 54) = .ok (BitVec.ofNat 8 (info.services.length * 2 + 2)) ∧
      readByte bytes (base + 55) = .ok 2#8 ∧
      ∀ (i : Nat) (hi : i < info.services.length),
        readByte bytes (base + 56 + 2 * i) = .ok info.services[i].family ∧
        readByte bytes (base + 57 + 2 * i) = .ok info.services[i].version := by
  refine ⟨?_, ?_, ?_⟩
  · simp (disch := omega) [write, ByteBlock.readByte_append, ByteBlock.readByte_write_disjoint,
      ByteBlock.readByte_set_ne]
  · simp (disch := omega) [write, ByteBlock.readByte_append, ByteBlock.readByte_write_disjoint]
  · intro i hi
    obtain ⟨hfamily, hversion⟩ := serviceBytes_getElem? info.services i hi
    have hodd : base + 57 + 2 * i = base + 56 + (2 * i + 1) := by omega
    rw [hodd]
    rw [write]
    constructor
    · rw [ByteBlock.readByte_append _ _ (by omega), ByteBlock.readByte_write_at _ _ _ (by omega)]
      exact readByte_of_getElem? hfamily
    · rw [ByteBlock.readByte_append _ _ (by omega), ByteBlock.readByte_write_at _ _ _ (by omega)]
      exact readByte_of_getElem? hversion

end Layout

/-- Both blocks come back, except that the serial number is whatever lies eight bytes after the
    start of the first block. -/
theorem parse_write (info : DeviceInfo) {base serialAt : Nat} (hserial : serialAt + 6 ≤ base + 56)
    (hafter : base + 8 ≤ serialAt) (data : ByteBlock (base + 56 + 2 * info.services.length))
    (rest : CArray) (hname : info.name.1[29]? = some 0#8)
    (hservices : info.services.length ≤ 126) :
    ∃ serial, parse ((info.write base serialAt hserial data).1 ++ rest) base =
        .ok (some { info with serial }) ∧ (serialAt = base + 8 → serial = info.serial) := by
  obtain ⟨h0, h1, h2, h3, h4, h5, h6, h7⟩ := write_header info hserial data rest hafter
  obtain ⟨hmulticast, hmac⟩ := write_addresses info hserial data rest
  have hname' := write_name info hserial data rest hname
  have hserial' := write_serial info hserial data rest
  obtain ⟨hcount, htype, hentry⟩ := write_services info hserial data rest
  have hlength : ((info.write base serialAt hserial data).1 ++ rest).length =
      base + 56 + 2 * info.services.length + rest.length := by
    rw [List.length_append, ByteBlock.length_val]
  -- From here on only the reads matter
  generalize (info.write base serialAt hserial data).1 ++ rest = bytes at *
  obtain ⟨serial, hread⟩ : (ByteBlock.read bytes (base + 8) 6).Returns :=
    ByteBlock.read_returns (by omega)
  refine ⟨serial, ?_, ?_⟩
  · -- the loop over the services reads the entries one by one
    have hloop : (List.range info.services.length).mapM (fun i => do
        let family ← readByte bytes (base + 56 + 2 * i)
        let version ← readByte bytes (base + 57 + 2 * i)
        (.ok { family, version } : Checked DIBServiceEntry)) = .ok info.services := by
      apply mapM_range_eq_ok
      intro i hi
      obtain ⟨hfamily, hversion⟩ := hentry i hi
      rw [hfamily, Checked.ok_bind, hversion, Checked.ok_bind]
    have hlenByte : (BitVec.ofNat 8 (info.services.length * 2 + 2)).toNat =
        info.services.length * 2 + 2 := toNat_ofNat_byte (by omega)
    have hresize : resizeServices (((info.services.length * 2 + 2 : Nat) : Int) / 2 - 1) =
        .ok info.services.length := by
      rw [resizeServices, if_pos (by omega)]
      congr 1
      omega
    have heven : (info.services.length * 2 + 2) % 2 = 0 := by omega
    have hinside : ¬ info.services.length * 2 + 2 + (base + 54) > bytes.length := by omega
    -- the terminating NUL the parser sets is there already
    have hself := ByteBlock.set_self info.name (by omega) hname
    simp only [parse, h0, h1, h2, h3, h4, h5, h6, h7, hread, hmulticast, hmac, hname', hself,
      htype, hcount, hlenByte, heven, hinside, hresize, hloop, word16_hiByte_loByte,
      Checked.ok_bind, Checked.pure_eq_ok, ne_eq, not_true_eq_false, if_false]
  · intro hat
    rw [hserial' hat] at hread
    exact (Except.ok.inj hread).symm

end DeviceInfo

theorem EIBnetDescriptionResponse.parse_toPacket (fresh : Nat → Byte)
    {r : EIBnetDescriptionResponse} (src : SockaddrIn) (hname : r.name.1[29]? = some 0#8)
    (hservices : r.services.length ≤ 126) :
    ∃ serial, parse { r.toPacket fresh with src } = .ok (some { r with serial }) := by
  have hservice : (r.toPacket fresh).service = Service.descriptionResponse := rfl
  have hdata : (r.toPacket fresh).data =
      (r.toDeviceInfo.write 0 18 (by omega) (ByteBlock.alloc fresh _)).1 ++ r.optional := by
    apply setpart_end
    rw [ByteBlock.length_val, Nat.zero_add]
  have hlength : (r.toPacket fresh).data.length =
      56 + 2 * r.services.length + r.optional.length := by
    rw [hdata, List.length_append, ByteBlock.length_val, Nat.zero_add]
  obtain ⟨serial, hparse, -⟩ := r.toDeviceInfo.parse_write
    (show 18 + 6 ≤ 0 + 56 by omega) (by omega) (ByteBlock.alloc fresh _) r.optional hname hservices
  obtain ⟨hcount, -⟩ := r.toDeviceInfo.write_services
    (show 18 + 6 ≤ 0 + 56 by omega) (ByteBlock.alloc fresh _) r.optional
  have hoptional := readSlice_append_right
    (r.toDeviceInfo.write 0 18 (by omega) (ByteBlock.alloc fresh _)).1 r.optional
  rw [ByteBlock.length_val] at hoptional
  rw [← hdata] at hparse hcount hoptional
  refine ⟨serial, ?_⟩
  have hlenByte : (BitVec.ofNat 8 (r.services.length * 2 + 2)).toNat =
      r.services.length * 2 + 2 := toNat_ofNat_byte (by omega)
  have hstart : r.services.length * 2 + 2 + 54 = 0 + 56 + 2 * r.services.length := by omega
  have hrest : 56 + 2 * r.services.length + r.optional.length - (r.services.length * 2 + 2) - 54 =
      r.optional.length := by omega
  have hlong : ¬ 56 + 2 * r.services.length + r.optional.length < 56 := by omega
  simp [parse, hservice, hlength, hlong, hparse, hcount, hlenByte, hstart, hrest, hoptional]

theorem EIBnetSearchResponse.parse_toPacket (fresh : Nat → Byte)
    {r : EIBnetSearchResponse} (src : SockaddrIn) (before : Bool) (hc : r.caddr.Writable r.nat)
    (hname : r.name.1[29]? = some 0#8) (hservices : r.services.length ≤ 126) :
    parse { r.toPacket fresh with src } { nat := before } =
      .ok (some { r with caddr := r.caddr.carried src r.nat, nat := r.nat || before }) := by
  have hservice : (r.toPacket fresh).service = Service.searchResponse := rfl
  have hlength : (r.toPacket fresh).data.length = 8 + 56 + 2 * r.services.length := by
    simp [toPacket]
  have hca : readSlice (r.toPacket fresh).data 0 8 = .ok (ipToEIBNetIP r.caddr r.nat).1 := by
    simp (disch := omega) [toPacket, DeviceInfo.write, ByteBlock.readSlice_write_disjoint,
      ByteBlock.readSlice_set_disjoint]
  obtain ⟨serial, hparse, hserial⟩ := r.toDeviceInfo.parse_write
    (show 16 + 6 ≤ 8 + 56 by omega) (by omega)
    ((ByteBlock.alloc fresh _).write 0 (ipToEIBNetIP r.caddr r.nat)) [] hname hservices
  rw [List.append_nil, hserial rfl] at hparse
  have hparse' : DeviceInfo.parse (r.toPacket fresh).data 8 = .ok (some r.toDeviceInfo) := hparse
  have hlong : ¬ 8 + 56 + 2 * r.services.length < 64 := by omega
  simp [parse, hservice, hlength, hlong, hca, hparse', eibnetToIP_ipToEIBNetIP src _ hc]

/-! ## All classes -/

/-- The service families fit their length byte, and the name ends with a NUL. -/
def DeviceInfo.Fits (info : DeviceInfo) : Prop :=
  info.services.length ≤ 126 ∧ info.name.1[29]? = some 0#8

namespace EIBnetBody

/-- The variable parts of a body fit their length bytes. -/
def Fits : EIBnetBody → Prop
  | searchRequest r => r.caddr.Writable r.nat
  | searchResponse r => r.caddr.Writable r.nat ∧ r.toDeviceInfo.Fits
  | descriptionRequest r => r.caddr.Writable r.nat
  | descriptionResponse r => r.toDeviceInfo.Fits
  | connectRequest r =>
      r.caddr.Writable r.nat ∧ r.daddr.Writable r.nat ∧ 1 ≤ r.cri.length ∧ r.cri.length ≤ 254
  | connectResponse r => r.daddr.Writable r.nat ∧ 1 ≤ r.crd.length ∧ r.crd.length ≤ 254
  | connectionStateRequest r => r.caddr.Writable r.nat
  | disconnectRequest r => r.caddr.Writable r.nat
  | tunnelRequest r => 2 ≤ r.cemi.length
  | configRequest r => 2 ≤ r.cemi.length
  | connectionStateResponse _ | disconnectResponse _ | tunnelACK _ | configACK _ => True

/-- `w` is what arrives of `v` from `src`, read into an object whose `status` is `status`. -/
def Arrives (src : SockaddrIn) (status : Byte) (v w : EIBnetBody) : Prop :=
  match v with
  | searchRequest r => w = searchRequest { r with caddr := r.caddr.carried src r.nat }
  | searchResponse r =>
      ∃ nat, (r.nat = true → nat = true) ∧
        w = searchResponse { r with caddr := r.caddr.carried src r.nat, nat }
  | descriptionRequest r => w = descriptionRequest { r with caddr := r.caddr.carried src r.nat }
  | descriptionResponse r => ∃ serial, w = descriptionResponse { r with serial }
  | connectRequest r =>
      w = connectRequest { r with
        caddr := r.caddr.carried src r.nat, daddr := r.daddr.carried src r.nat }
  | connectResponse r =>
      if r.status = 0#8 then w = connectResponse { r with daddr := r.daddr.carried src r.nat }
      else w = connectResponse { channel := r.channel, status := r.status }
  | connectionStateRequest r =>
      w = connectionStateRequest { r with status, caddr := r.caddr.carried src r.nat }
  | disconnectRequest r => w = disconnectRequest { r with caddr := r.caddr.carried src r.nat }
  | v => w = v

theorem map_eq_ok {α : Type} {x : Checked (Option α)} {a : α} (f : α → EIBnetBody)
    (h : x = .ok (some a)) :
    (return (← x).map f : Checked (Option EIBnetBody)) = .ok (some (f a)) := by
  rw [h]
  rfl

/-- Every body whose parts fit arrives. -/
theorem receive_toPacket (fresh : Nat → Byte) (status : Byte) (nat : Bool) (src : SockaddrIn)
    {v : EIBnetBody} (hfits : v.Fits) (hlen : (v.toPacket fresh).toPacket.length < 65536) :
    ∃ w, receive status nat v.kind (v.toPacket fresh).toPacket src = .ok (some w) ∧
      v.Arrives src status w := by
  unfold receive
  rw [EIBNetIPPacket.fromPacket_toPacket src hlen, Checked.ok_bind]
  -- one kind of body after the other
  cases v with
  | searchRequest r =>
      exact ⟨_, map_eq_ok _ (EIBnetSearchRequest.parse_toPacket src hfits), rfl⟩
  | searchResponse r =>
      obtain ⟨hc, hservices, hname⟩ := hfits
      exact ⟨_, map_eq_ok _
        (EIBnetSearchResponse.parse_toPacket fresh src nat hc hname hservices), _,
        fun hnat => by rw [hnat, Bool.true_or], rfl⟩
  | descriptionRequest r =>
      exact ⟨_, map_eq_ok _ (EIBnetDescriptionRequest.parse_toPacket src hfits), rfl⟩
  | descriptionResponse r =>
      obtain ⟨hservices, hname⟩ := hfits
      obtain ⟨serial, hread⟩ := EIBnetDescriptionResponse.parse_toPacket fresh src hname hservices
      exact ⟨_, map_eq_ok _ hread, serial, rfl⟩
  | connectRequest r =>
      obtain ⟨hc, hd, hlo, hhi⟩ := hfits
      exact ⟨_, map_eq_ok _ (EIBnetConnectRequest.parse_toPacket fresh src hc hd hlo hhi), rfl⟩
  | connectResponse r =>
      obtain ⟨hd, hlo, hhi⟩ := hfits
      -- a refused connection has no further fields
      by_cases hstatus : r.status = 0#8
      · have hread := EIBnetConnectResponse.parse_toPacket fresh src hstatus hd hlo hhi
        refine ⟨_, map_eq_ok _ hread, ?_⟩
        rw [Arrives, if_pos hstatus]
      · have hread := EIBnetConnectResponse.parse_toPacket_error fresh src hstatus
        refine ⟨_, map_eq_ok _ hread, ?_⟩
        rw [Arrives, if_neg hstatus]
  | connectionStateRequest r =>
      exact ⟨_, map_eq_ok _
        (EIBnetConnectionStateRequest.parse_toPacket fresh src status hfits), rfl⟩
  | connectionStateResponse r =>
      exact ⟨_, map_eq_ok _ (r.parseBytes_toPacket fresh src), rfl⟩
  | disconnectRequest r =>
      exact ⟨_, map_eq_ok _ (EIBnetDisconnectRequestFrom.parse_toPacket fresh src hfits), rfl⟩
  | disconnectResponse r =>
      exact ⟨_, map_eq_ok _ (r.parseBytes_toPacket fresh src), rfl⟩
  | tunnelRequest r =>
      exact ⟨_, map_eq_ok _ (EIBnetTunnelRequest.parseBytes_toPacketBytes fresh src hfits), rfl⟩
  | tunnelACK r =>
      exact ⟨_, map_eq_ok _ (r.parseBytes_toPacketBytes fresh src), rfl⟩
  | configRequest r =>
      exact ⟨_, map_eq_ok _ (EIBnetConfigRequest.parse_toPacket fresh src hfits), rfl⟩
  | configACK r =>
      exact ⟨_, map_eq_ok _ (r.parse_toPacket fresh src), rfl⟩

/-- An answer with its endpoint, a device information block and two service families. -/
def routerFound : EIBnetSearchResponse where
  knxMedium := 2#8
  individualAddr := 0x1100#16
  serial := ⟨[0#8, 1#8, 2#8, 3#8, 4#8, 5#8], rfl⟩
  services := [⟨2#8, 1#8⟩, ⟨5#8, 1#8⟩]
  multicastaddr := ⟨[224#8, 0#8, 23#8, 12#8], rfl⟩
  name := ⟨[0x72#8, 0x6f#8, 0x75#8, 0x74#8, 0x65#8, 0x72#8] ++ List.replicate 24 0#8, rfl⟩
  caddr := { family := afInet, port := 3671#16, addr := 0xc0a80002#32 }
  nat := false

theorem receive_toPacket_routerFound :
    ∃ w, receive 0#8 false .searchResponse
        ((searchResponse routerFound).toPacket fun _ => 0xee#8).toPacket {} = .ok (some w) ∧
      (searchResponse routerFound).Arrives {} 0#8 w :=
  receive_toPacket (v := searchResponse routerFound) (fun _ => 0xee#8) 0#8 false {}
    ⟨by decide, by decide, rfl⟩ (by
      rw [EIBNetIPPacket.length_toPacket, toPacket, EIBnetSearchResponse.toPacket,
        ByteBlock.length_val]
      decide)

/-- An error answer to a connect request loses its endpoint and its data. -/
theorem not_receive_toPacket_eq :
    ¬ ∀ (fresh : Nat → Byte) (status : Byte) (nat : Bool) (src : SockaddrIn) (v : EIBnetBody),
      v.Fits → (v.toPacket fresh).toPacket.length < 65536 →
      receive status nat v.kind (v.toPacket fresh).toPacket src = .ok (some v) := by
  intro h
  have hdaddr : SockaddrIn.Writable { family := afInet, port := 3671#16, addr := 0xc0a80002#32 }
      false := by decide
  have hanswer := h (fun _ => 0xee#8) 0#8 false {}
    (connectResponse
      { channel := 0#8, status := 0x24#8,
        daddr := { family := afInet, port := 3671#16, addr := 0xc0a80002#32 },
        crd := [4#8, 0x12#8, 0x34#8] })
    ⟨hdaddr, by decide, by decide⟩ (by decide)
  have hread : receive 0#8 false .connectResponse
      [0x06#8, 0x10#8, 0x02#8, 0x06#8, 0x00#8, 0x08#8, 0x00#8, 0x24#8] {} =
        .ok (some (connectResponse { channel := 0#8, status := 0x24#8 })) := rfl
  have hlost := hread.symm.trans hanswer
  simp at hlost

end EIBnetBody

end BcuSdk.Eibd
