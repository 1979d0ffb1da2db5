/-
  BcuSdk.Eibd.EibNetIpBody

  Every EIBnet/IP message body (eibd/libserver/eibnetip.h, eibnetip.cpp): the
  frame header, the address blocks, and for each class its constructor, its
  ToPacket and its parseEIBnet_ function.

  A parser gets the object it fills and gives it back, so that a field it
  does not assign keeps the value of the constructor.  `none` is the result 1
  of the source.  Addresses and ports are in host byte order.
-/
import BcuSdk.Lib.Buffer
import BcuSdk.Eibd.EibNetIp

namespace BcuSdk.Eibd

open BcuSdk.Lib

/-! ## Addresses -/

/-- `struct sockaddr_in`. -/
structure SockaddrIn where
  family : Word16 := 0#16
  port : Word16 := 0#16
  addr : Word32 := 0#32
  deriving DecidableEq, Repr

/-- `AF_INET`. -/
def afInet : Word16 := 2#16

/-- `IPtoEIBNetIP`. -/
def ipToEIBNetIP (a : SockaddrIn) (nat : Bool) : ByteBlock 8 :=
  if nat then
    ⟨[0x08#8, 0x01#8, 0#8, 0#8, 0#8, 0#8, 0#8, 0#8], rfl⟩
  else
    ⟨[0x08#8, 0x01#8, byteOf a.addr 3, byteOf a.addr 2, byteOf a.addr 1, byteOf a.addr 0,
      hiByte a.port, loByte a.port], rfl⟩

/-- `EIBnettoIP`: the address and the `nat` flag after the call. -/
def eibnetToIP (buf : CArray) (src : SockaddrIn) (nat : Bool) :
    Checked (Option (SockaddrIn × Bool)) := do
  let len ← readByte buf 0
  if len ≠ 0x8#8 then return none
  let protocol ← readByte buf 1
  if protocol ≠ 0x1#8 then return none
  let b2 ← readByte buf 2
  let b3 ← readByte buf 3
  let b4 ← readByte buf 4
  let b5 ← readByte buf 5
  let ip := word32 b2 b3 b4 b5
  let b6 ← readByte buf 6
  let b7 ← readByte buf 7
  let port := word16 b6 b7
  return some
    ({ family := afInet,
       port := if port = 0#16 then src.port else port,
       addr := if ip = 0#32 then src.addr else ip },
     if ip = 0#32 then true else nat)

/-! ## Packets -/

/-- An `EIBNetIPPacket` with the address it came from. -/
structure ReceivedPacket extends EIBNetIPPacket where
  src : SockaddrIn
  deriving DecidableEq, Repr

namespace EIBNetIPPacket

/-- `EIBNetIPPacket::fromPacket`. -/
def fromPacket (c : CArray) (src : SockaddrIn) : Checked (Option ReceivedPacket) := do
  if c.length < 6 then return none
  let head ← readByte c 0
  if head ≠ 0x6#8 then return none
  let version ← readByte c 1
  if version ≠ 0x10#8 then return none
  let lenHi ← readByte c 4
  let lenLo ← readByte c 5
  let len := (word16 lenHi lenLo).toNat
  if len ≠ c.length then return none
  let serviceHi ← readByte c 2
  let serviceLo ← readByte c 3
  let data ← readSlice c 6 (len - 6)
  return some { service := word16 serviceHi serviceLo, data, src }

/-- `EIBNetIPPacket::ToPacket`. -/
def toPacket (p : EIBNetIPPacket) : CArray :=
  let len := BitVec.ofNat 16 (p.data.length + 6)
  [0x06#8, 0x10#8, hiByte p.service, loByte p.service, hiByte len, loByte len] ++ p.data

theorem length_toPacket (p : EIBNetIPPacket) : p.toPacket.length = p.data.length + 6 := by
  simp [toPacket]

end EIBNetIPPacket

namespace Service

/-- `SEARCH_REQUEST`. -/
def searchRequest : Word16 := 0x0201#16

/-- `SEARCH_RESPONSE`. -/
def searchResponse : Word16 := 0x0202#16

/-- `DESCRIPTION_REQUEST`. -/
def descriptionRequest : Word16 := 0x0203#16

/-- `DESCRIPTION_RESPONSE`. -/
def descriptionResponse : Word16 := 0x0204#16

/-- `CONNECTION_REQUEST`. -/
def connectionRequest : Word16 := 0x0205#16

/-- `CONNECTION_RESPONSE`. -/
def connectionResponse : Word16 := 0x0206#16

/-- `DEVICE_CONFIGURATION_REQUEST`. -/
def deviceConfigurationRequest : Word16 := 0x0310#16

/-- `DEVICE_CONFIGURATION_ACK`. -/
def deviceConfigurationAck : Word16 := 0x0311#16

end Service

/-! ## Connecting -/

structure EIBnetConnectRequest where
  caddr : SockaddrIn := {}
  daddr : SockaddrIn := {}
  cri : CArray := []
  nat : Bool := false
  deriving DecidableEq, Repr

namespace EIBnetConnectRequest

def toPacket (fresh : Nat → Byte) (r : EIBnetConnectRequest) : EIBNetIPPacket where
  service := Service.connectionRequest
  data :=
    (((ByteBlock.alloc fresh (8 + 8 + 1 + r.cri.length)).write 0 (ipToEIBNetIP r.caddr r.nat)
      |>.write 8 (ipToEIBNetIP r.daddr r.nat)
      |>.set 16 (BitVec.ofNat 8 (r.cri.length + 1))
      |>.write 17 ⟨r.cri, rfl⟩)).1

/-- `parseEIBnet_ConnectRequest`. -/
def parse (p : ReceivedPacket) (r : EIBnetConnectRequest) :
    Checked (Option EIBnetConnectRequest) := do
  if p.service ≠ Service.connectionRequest then return none
  if p.data.length < 18 then return none
  let ca ← readSlice p.data 0 8
  let some (caddr, nat) ← eibnetToIP ca p.src r.nat | return none
  let da ← readSlice p.data 8 8
  let some (daddr, nat) ← eibnetToIP da p.src nat | return none
  let len ← readByte p.data 16
  if p.data.length - 16 ≠ len.toNat then return none
  let cri ← readSlice p.data 17 (p.data.length - 17)
  return some { r with caddr, daddr, nat, cri }

end EIBnetConnectRequest

structure EIBnetConnectResponse where
  channel : Byte := 0#8
  status : Byte := 0#8
  daddr : SockaddrIn := {}
  nat : Bool := false
  crd : CArray := []
  deriving DecidableEq, Repr

namespace EIBnetConnectResponse

def toPacket (fresh : Nat → Byte) (r : EIBnetConnectResponse) : EIBNetIPPacket where
  service := Service.connectionResponse
  data :=
    if r.status ≠ 0#8 then
      ((ByteBlock.alloc fresh 2).set 0 r.channel |>.set 1 r.status).1
    else
      ((ByteBlock.alloc fresh (8 + r.crd.length + 3)).set 0 r.channel
        |>.set 1 r.status
        |>.write 2 (ipToEIBNetIP r.daddr r.nat)
        |>.set 10 (BitVec.ofNat 8 (r.crd.length + 1))
        |>.write 11 ⟨r.crd, rfl⟩).1

/-- `parseEIBnet_ConnectResponse`. -/
def parse (p : ReceivedPacket) (r : EIBnetConnectResponse) :
    Checked (Option EIBnetConnectResponse) := do
  if p.service ≠ Service.connectionResponse then return none
  if p.data.length < 2 then return none
  let status ← readByte p.data 1
  if status ≠ 0#8 then
    if p.data.length ≠ 2 then return none
    let channel ← readByte p.data 0
    return some { r with channel, status }
  if p.data.length < 12 then return none
  let da ← readSlice p.data 2 8
  let some (daddr, nat) ← eibnetToIP da p.src r.nat | return none
  let len ← readByte p.data 10
  if p.data.length - 10 ≠ len.toNat then return none
  let channel ← readByte p.data 0
  let crd ← readSlice p.data 11 (p.data.length - 11)
  return some { r with channel, status, daddr, nat, crd }

end EIBnetConnectResponse

/-! ## Requests on a channel

  `EIBnet_ConnectionStateRequest` and `EIBnet_DisconnectRequest` are sent and
  read in the same way, under different services. -/

/-- A body of the channel, a reserved byte and the control endpoint. -/
def channelRequest (fresh : Nat → Byte) (channel : Byte) (caddr : SockaddrIn) (nat : Bool) :
    CArray :=
  ((ByteBlock.alloc fresh (8 + 2)).set 0 channel
    |>.set 1 0#8
    |>.write 2 (ipToEIBNetIP caddr nat)).1

/-- The channel, the endpoint and the flag of such a body. -/
def parseChannelRequest (service : Word16) (p : ReceivedPacket) (nat : Bool) :
    Checked (Option (Byte × SockaddrIn × Bool)) := do
  if p.service ≠ service then return none
  if p.data.length ≠ 10 then return none
  let ca ← readSlice p.data 2 8
  let some (caddr, nat) ← eibnetToIP ca p.src nat | return none
  let channel ← readByte p.data 0
  return some (channel, caddr, nat)

structure EIBnetConnectionStateRequest where
  channel : Byte := 0#8
  /-- Nothing assigns this field, not even the constructor. -/
  status : Byte
  caddr : SockaddrIn := {}
  nat : Bool := false
  deriving DecidableEq, Repr

namespace EIBnetConnectionStateRequest

def toPacket (fresh : Nat → Byte) (r : EIBnetConnectionStateRequest) : EIBNetIPPacket where
  service := Service.connectionStateRequest
  data := channelRequest fresh r.channel r.caddr r.nat

/-- `parseEIBnet_ConnectionStateRequest`. -/
def parse (p : ReceivedPacket) (r : EIBnetConnectionStateRequest) :
    Checked (Option EIBnetConnectionStateRequest) := do
  let some (channel, caddr, nat) ←
    parseChannelRequest Service.connectionStateRequest p r.nat | return none
  return some { r with channel, caddr, nat }

end EIBnetConnectionStateRequest

/-- `EIBnet_DisconnectRequest` with its endpoint. -/
structure EIBnetDisconnectRequestFrom extends EIBnetDisconnectRequest where
  channel := 0#8
  caddr : SockaddrIn := {}
  nat : Bool := false
  deriving DecidableEq, Repr

namespace EIBnetDisconnectRequestFrom

def toPacket (fresh : Nat → Byte) (r : EIBnetDisconnectRequestFrom) : EIBNetIPPacket where
  service := Service.disconnectRequest
  data := channelRequest fresh r.channel r.caddr r.nat

/-- `parseEIBnet_DisconnectRequest`. -/
def parse (p : ReceivedPacket) (r : EIBnetDisconnectRequestFrom) :
    Checked (Option EIBnetDisconnectRequestFrom) := do
  let some (channel, caddr, nat) ←
    parseChannelRequest Service.disconnectRequest p r.nat | return none
  return some { r with channel, caddr, nat }

end EIBnetDisconnectRequestFrom

/-! ## Answers of two bytes -/

/-- The channel and the status, as both answers send them. -/
def channelStatus (fresh : Nat → Byte) (channel status : Byte) : CArray :=
  ((ByteBlock.alloc fresh 2).set 0 channel |>.set 1 status).1

/-- `parseEIBnet_ConnectionStateResponse` and `parseEIBnet_DisconnectResponse`. -/
def parseChannelStatus (service : Word16) (p : ReceivedPacket) :
    Checked (Option (Byte × Byte)) := do
  if p.service ≠ service then return none
  if p.data.length ≠ 2 then return none
  let channel ← readByte p.data 0
  let status ← readByte p.data 1
  return some (channel, status)

namespace EIBnetConnectionStateResponse

def toPacket (fresh : Nat → Byte) (r : EIBnetConnectionStateResponse) : EIBNetIPPacket where
  service := Service.connectionStateResponse
  data := channelStatus fresh r.channel r.status

/-- `parseEIBnet_ConnectionStateResponse` on the bytes of the packet. -/
def parseBytes (p : ReceivedPacket) : Checked (Option EIBnetConnectionStateResponse) := do
  let some (channel, status) ← parseChannelStatus Service.connectionStateResponse p | return none
  return some { channel, status }

end EIBnetConnectionStateResponse

namespace EIBnetDisconnectResponse

def toPacket (fresh : Nat → Byte) (r : EIBnetDisconnectResponse) : EIBNetIPPacket where
  service := Service.disconnectResponse
  data := channelStatus fresh r.channel r.status

/-- `parseEIBnet_DisconnectResponse` on the bytes of the packet. -/
def parseBytes (p : ReceivedPacket) : Checked (Option EIBnetDisconnectResponse) := do
  let some (channel, status) ← parseChannelStatus Service.disconnectResponse p | return none
  return some { channel, status }

end EIBnetDisconnectResponse

/-! ## Frames on a channel

  Tunnelling and device configuration carry their frames in the same way,
  under different services. -/

/-- The connection header of four bytes and the frame. -/
def channelFrame (fresh : Nat → Byte) (channel seqno : Byte) (cemi : CArray) : CArray :=
  ((ByteBlock.alloc fresh (cemi.length + 4)).set 0 4#8
    |>.set 1 channel
    |>.set 2 seqno
    |>.set 3 0#8
    |>.write 4 ⟨cemi, rfl⟩).1

/-- `parseEIBnet_TunnelRequest` and `parseEIBnet_ConfigRequest`. -/
def parseChannelFrame (service : Word16) (p : ReceivedPacket) :
    Checked (Option (Byte × Byte × CArray)) := do
  if p.service ≠ service then return none
  if p.data.length < 6 then return none
  let head ← readByte p.data 0
  if head ≠ 4#8 then return none
  let channel ← readByte p.data 1
  let seqno ← readByte p.data 2
  let cemi ← readSlice p.data 4 (p.data.length - 4)
  return some (channel, seqno, cemi)

/-- The connection header of an acknowledgement, with its status. -/
def channelAck (fresh : Nat → Byte) (channel seqno status : Byte) : CArray :=
  ((ByteBlock.alloc fresh 4).set 0 4#8 |>.set 1 channel |>.set 2 seqno |>.set 3 status).1

/-- `parseEIBnet_TunnelACK` and `parseEIBnet_ConfigACK`. -/
def parseChannelAck (service : Word16) (p : ReceivedPacket) :
    Checked (Option (Byte × Byte × Byte)) := do
  if p.service ≠ service then return none
  if p.data.length ≠ 4 then return none
  let head ← readByte p.data 0
  if head ≠ 4#8 then return none
  let channel ← readByte p.data 1
  let seqno ← readByte p.data 2
  let status ← readByte p.data 3
  return some (channel, seqno, status)

namespace EIBnetTunnelRequest

/-- `EIBnet_TunnelRequest::ToPacket`, byte by byte. -/
def toPacketBytes (fresh : Nat → Byte) (r : EIBnetTunnelRequest) : EIBNetIPPacket where
  service := Service.tunnelRequest
  data := channelFrame fresh r.channel r.seqno r.cemi

/-- `parseEIBnet_TunnelRequest` on the bytes of the packet. -/
def parseBytes (p : ReceivedPacket) : Checked (Option EIBnetTunnelRequest) := do
  let some (channel, seqno, cemi) ← parseChannelFrame Service.tunnelRequest p | return none
  return some { channel, seqno, cemi }

end EIBnetTunnelRequest

namespace EIBnetTunnelACK

/-- `EIBnet_TunnelACK::ToPacket`, byte by byte. -/
def toPacketBytes (fresh : Nat → Byte) (r : EIBnetTunnelACK) : EIBNetIPPacket where
  service := Service.tunnelResponse
  data := channelAck fresh r.channel r.seqno r.status

/-- `parseEIBnet_TunnelACK` on the bytes of the packet. -/
def parseBytes (p : ReceivedPacket) : Checked (Option EIBnetTunnelACK) := do
  let some (channel, seqno, status) ← parseChannelAck Service.tunnelResponse p | return none
  return some { channel, seqno, status }

end EIBnetTunnelACK

structure EIBnetConfigRequest where
  channel : Byte := 0#8
  seqno : Byte := 0#8
  cemi : CArray := []
  deriving DecidableEq, Repr

namespace EIBnetConfigRequest

def toPacket (fresh : Nat → Byte) (r : EIBnetConfigRequest) : EIBNetIPPacket where
  service := Service.deviceConfigurationRequest
  data := channelFrame fresh r.channel r.seqno r.cemi

/-- `parseEIBnet_ConfigRequest`. -/
def parse (p : ReceivedPacket) : Checked (Option EIBnetConfigRequest) := do
  let some (channel, seqno, cemi) ←
    parseChannelFrame Service.deviceConfigurationRequest p | return none
  return some { channel, seqno, cemi }

end EIBnetConfigRequest

structure EIBnetConfigACK where
  channel : Byte := 0#8
  seqno : Byte := 0#8
  status : Byte := 0#8
  deriving DecidableEq, Repr

namespace EIBnetConfigACK

def toPacket (fresh : Nat → Byte) (r : EIBnetConfigACK) : EIBNetIPPacket where
  service := Service.deviceConfigurationAck
  data := channelAck fresh r.channel r.seqno r.status

/-- `parseEIBnet_ConfigACK`. -/
def parse (p : ReceivedPacket) : Checked (Option EIBnetConfigACK) := do
  let some (channel, seqno, status) ←
    parseChannelAck Service.deviceConfigurationAck p | return none
  return some { channel, seqno, status }

end EIBnetConfigACK

/-! ## Discovery -/

/-- `EIBnet_DescriptionRequest` and `EIBnet_SearchRequest`: a body of the control endpoint. -/
def parseEndpoint (service : Word16) (p : ReceivedPacket) (nat : Bool) :
    Checked (Option (SockaddrIn × Bool)) := do
  if p.service ≠ service then return none
  if p.data.length ≠ 8 then return none
  eibnetToIP p.data p.src nat

structure EIBnetDescriptionRequest where
  caddr : SockaddrIn := {}
  nat : Bool := false
  deriving DecidableEq, Repr

namespace EIBnetDescriptionRequest

def toPacket (r : EIBnetDescriptionRequest) : EIBNetIPPacket where
  service := Service.descriptionRequest
  data := (ipToEIBNetIP r.caddr r.nat).1

/-- `parseEIBnet_DescriptionRequest`. -/
def parse (p : ReceivedPacket) (r : EIBnetDescriptionRequest) :
    Checked (Option EIBnetDescriptionRequest) := do
  let some (caddr, nat) ← parseEndpoint Service.descriptionRequest p r.nat | return none
  return some { r with caddr, nat }

end EIBnetDescriptionRequest

structure EIBnetSearchRequest where
  caddr : SockaddrIn := {}
  nat : Bool := false
  deriving DecidableEq, Repr

namespace EIBnetSearchRequest

def toPacket (r : EIBnetSearchRequest) : EIBNetIPPacket where
  service := Service.searchRequest
  data := (ipToEIBNetIP r.caddr r.nat).1

/-- `parseEIBnet_SearchRequest`. -/
def parse (p : ReceivedPacket) (r : EIBnetSearchRequest) :
    Checked (Option EIBnetSearchRequest) := do
  let some (caddr, nat) ← parseEndpoint Service.searchRequest p r.nat | return none
  return some { r with caddr, nat }

end EIBnetSearchRequest

/-- `DIB_service_Entry`. -/
structure DIBServiceEntry where
  family : Byte
  version : Byte
  deriving DecidableEq, Repr

/-- The members that `EIBnet_DescriptionResponse` and `EIBnet_SearchResponse` share: the device
    information block and the block of service families. -/
structure DeviceInfo where
  knxMedium : Byte := 0#8
  devicestatus : Byte := 0#8
  individualAddr : EibAddr := 0#16
  installid : Word16 := 0#16
  serial : ByteBlock 6 := ByteBlock.zero 6
  services : List DIBServiceEntry := []
  multicastaddr : ByteBlock 4 := ByteBlock.zero 4
  mac : ByteBlock 6 := ByteBlock.zero 6
  name : ByteBlock 30 := ByteBlock.zero 30
  deriving DecidableEq

namespace DeviceInfo

/-- The entries of the service block, one after the other. -/
def serviceBytes (services : List DIBServiceEntry) : ByteBlock (2 * services.length) :=
  ⟨services.flatMap fun d => [d.family, d.version], by
    simp [List.length_flatMap, Nat.mul_comm]⟩

/-- Both blocks, the first at offset `base`.  The serial number is copied to `serialAt`. -/
def write (info : DeviceInfo) (base serialAt : Nat) (hserial : serialAt + 6 ≤ base + 56)
    (data : ByteBlock (base + 56 + 2 * info.services.length)) :
    ByteBlock (base + 56 + 2 * info.services.length) :=
  data.set base 54#8
    |>.set (base + 1) 1#8
    |>.set (base + 2) info.knxMedium
    |>.set (base + 3) info.devicestatus
    |>.set (base + 4) (hiByte info.individualAddr)
    |>.set (base + 5) (loByte info.individualAddr)
    |>.set (base + 6) (hiByte info.installid)
    |>.set (base + 7) (loByte info.installid)
    |>.write serialAt info.serial
    |>.write (base + 14) info.multicastaddr
    |>.write (base + 18) info.mac
    |>.write (base + 24) info.name
    -- the name of 30 bytes ends with a NUL
    |>.set (base + 53) 0#8
    |>.set (base + 54) (BitVec.ofNat 8 (info.services.length * 2 + 2))
    |>.set (base + 55) 2#8
    |>.write (base + 56) (serviceBytes info.services)

/-- `services.resize (count)`: the count is unsigned, so a negative one wraps to nearly 2^32
    elements, and this is a fault. -/
def resizeServices (count : Int) : Checked Nat :=
  if 0 ≤ count then .ok count.toNat else .error .outOfBounds

/-- Both blocks are read back, the first at offset `base`. -/
def parse (data : CArray) (base : Nat) : Checked (Option DeviceInfo) := do
  let len ← readByte data base
  if len ≠ 54#8 then return none
  let type ← readByte data (base + 1)
  if type ≠ 1#8 then return none
  let knxMedium ← readByte data (base + 2)
  let devicestatus ← readByte data (base + 3)
  let addrHi ← readByte data (base + 4)
  let addrLo ← readByte data (base + 5)
  let installHi ← readByte data (base + 6)
  let installLo ← readByte data (base + 7)
  let serial ← ByteBlock.read data (base + 8) 6
  let multicastaddr ← ByteBlock.read data (base + 14) 4
  let mac ← ByteBlock.read data (base + 18) 6
  let name ← ByteBlock.read data (base + 24) 30
  let name := name.set 29 0#8
  -- the service block
  let type ← readByte data (base + 55)
  if type ≠ 2#8 then return none
  let len ← readByte data (base + 54)
  if len.toNat % 2 ≠ 0 then return none
  if len.toNat + (base + 54) > data.length then return none
  -- -1 for a block that says it has no bytes
  let count ← resizeServices (len.toNat / 2 - 1)
  let services ← (List.range count).mapM fun i => do
    let family ← readByte data (base + 56 + 2 * i)
    let version ← readByte data (base + 57 + 2 * i)
    return ({ family, version } : DIBServiceEntry)
  return some
    { knxMedium, devicestatus, individualAddr := word16 addrHi addrLo,
      installid := word16 installHi installLo, serial, multicastaddr, mac, name, services }

end DeviceInfo

structure EIBnetDescriptionResponse extends DeviceInfo where
  optional : CArray := []
  deriving DecidableEq

namespace EIBnetDescriptionResponse

/-- `EIBnet_DescriptionResponse::ToPacket`; the serial number goes to offset 18. -/
def toPacket (fresh : Nat → Byte) (r : EIBnetDescriptionResponse) : EIBNetIPPacket where
  service := Service.descriptionResponse
  data :=
    setpart (r.toDeviceInfo.write 0 18 (by omega) (ByteBlock.alloc fresh _)).1 r.optional
      (56 + 2 * r.services.length)

/-- `parseEIBnet_DescriptionResponse`. -/
def parse (p : ReceivedPacket) : Checked (Option EIBnetDescriptionResponse) := do
  if p.service ≠ Service.descriptionResponse then return none
  if p.data.length < 56 then return none
  let some info ← DeviceInfo.parse p.data 0 | return none
  -- what is behind the service block
  let len ← readByte p.data 54
  let optional ← readSlice p.data (len.toNat + 54) (p.data.length - len.toNat - 54)
  return some { info with optional }

end EIBnetDescriptionResponse

structure EIBnetSearchResponse extends DeviceInfo where
  caddr : SockaddrIn := {}
  /-- The constructor leaves this flag as the memory was. -/
  nat : Bool
  deriving DecidableEq

namespace EIBnetSearchResponse

/-- `EIBnet_SearchResponse::ToPacket`. -/
def toPacket (fresh : Nat → Byte) (r : EIBnetSearchResponse) : EIBNetIPPacket where
  service := Service.searchResponse
  data :=
    (r.toDeviceInfo.write 8 16 (by omega)
      ((ByteBlock.alloc fresh _).write 0 (ipToEIBNetIP r.caddr r.nat))).1

/-- `parseEIBnet_SearchResponse`. -/
def parse (p : ReceivedPacket) (r : EIBnetSearchResponse) :
    Checked (Option EIBnetSearchResponse) := do
  if p.service ≠ Service.searchResponse then return none
  if p.data.length < 64 then return none
  let ca ← readSlice p.data 0 8
  let some (caddr, nat) ← eibnetToIP ca p.src r.nat | return none
  let some info ← DeviceInfo.parse p.data 8 | return none
  return some { info with caddr, nat }

end EIBnetSearchResponse

/-! ## All classes -/

/-- The classes with a `parseEIBnet_` function. -/
inductive EIBnetKind where
  | searchRequest
  | searchResponse
  | descriptionRequest
  | descriptionResponse
  | connectRequest
  | connectResponse
  | connectionStateRequest
  | connectionStateResponse
  | disconnectRequest
  | disconnectResponse
  | tunnelRequest
  | tunnelACK
  | configRequest
  | configACK
  deriving DecidableEq, Repr

/-- A message body of any class. -/
inductive EIBnetBody where
  | searchRequest (r : EIBnetSearchRequest)
  | searchResponse (r : EIBnetSearchResponse)
  | descriptionRequest (r : EIBnetDescriptionRequest)
  | descriptionResponse (r : EIBnetDescriptionResponse)
  | connectRequest (r : EIBnetConnectRequest)
  | connectResponse (r : EIBnetConnectResponse)
  | connectionStateRequest (r : EIBnetConnectionStateRequest)
  | connectionStateResponse (r : EIBnetConnectionStateResponse)
  | disconnectRequest (r : EIBnetDisconnectRequestFrom)
  | disconnectResponse (r : EIBnetDisconnectResponse)
  | tunnelRequest (r : EIBnetTunnelRequest)
  | tunnelACK (r : EIBnetTunnelACK)
  | configRequest (r : EIBnetConfigRequest)
  | configACK (r : EIBnetConfigACK)
  deriving DecidableEq

namespace EIBnetBody

/-- The class of a body. -/
def kind : EIBnetBody → EIBnetKind
  | searchRequest _ => .searchRequest
  | searchResponse _ => .searchResponse
  | descriptionRequest _ => .descriptionRequest
  | descriptionResponse _ => .descriptionResponse
  | connectRequest _ => .connectRequest
  | connectResponse _ => .connectResponse
  | connectionStateRequest _ => .connectionStateRequest
  | connectionStateResponse _ => .connectionStateResponse
  | disconnectRequest _ => .disconnectRequest
  | disconnectResponse _ => .disconnectResponse
  | tunnelRequest _ => .tunnelRequest
  | tunnelACK _ => .tunnelACK
  | configRequest _ => .configRequest
  | configACK _ => .configACK

/-- `ToPacket` of the class; `fresh` is what newly allocated memory holds. -/
def toPacket (fresh : Nat → Byte) : EIBnetBody → EIBNetIPPacket
  | searchRequest r => r.toPacket
  | searchResponse r => r.toPacket fresh
  | descriptionRequest r => r.toPacket
  | descriptionResponse r => r.toPacket fresh
  | connectRequest r => r.toPacket fresh
  | connectResponse r => r.toPacket fresh
  | connectionStateRequest r => r.toPacket fresh
  | connectionStateResponse r => r.toPacket fresh
  | disconnectRequest r => r.toPacket fresh
  | disconnectResponse r => r.toPacket fresh
  | tunnelRequest r => r.toPacketBytes fresh
  | tunnelACK r => r.toPacketBytes fresh
  | configRequest r => r.toPacket fresh
  | configACK r => r.toPacket fresh

/-- The `parseEIBnet_` function of the class on a newly constructed object, whose unassigned
    members are `status` and `nat`. -/
def parse (status : Byte) (nat : Bool) (k : EIBnetKind) (p : ReceivedPacket) :
    Checked (Option EIBnetBody) :=
  match k with
  | .searchRequest => return (← EIBnetSearchRequest.parse p {}).map searchRequest
  | .searchResponse => return (← EIBnetSearchResponse.parse p { nat }).map searchResponse
  | .descriptionRequest =>
      return (← EIBnetDescriptionRequest.parse p {}).map descriptionRequest
  | .descriptionResponse =>
      return (← EIBnetDescriptionResponse.parse p).map descriptionResponse
  | .connectRequest => return (← EIBnetConnectRequest.parse p {}).map connectRequest
  | .connectResponse => return (← EIBnetConnectResponse.parse p {}).map connectResponse
  | .connectionStateRequest =>
      return (← EIBnetConnectionStateRequest.parse p { status }).map connectionStateRequest
  | .connectionStateResponse =>
      return (← EIBnetConnectionStateResponse.parseBytes p).map connectionStateResponse
  | .disconnectRequest =>
      return (← EIBnetDisconnectRequestFrom.parse p {}).map disconnectRequest
  | .disconnectResponse =>
      return (← EIBnetDisconnectResponse.parseBytes p).map disconnectResponse
  | .tunnelRequest => return (← EIBnetTunnelRequest.parseBytes p).map tunnelRequest
  | .tunnelACK => return (← EIBnetTunnelACK.parseBytes p).map tunnelACK
  | .configRequest => return (← EIBnetConfigRequest.parse p).map configRequest
  | .configACK => return (← EIBnetConfigACK.parse p).map configACK

/-- A datagram of the payload `c` from `src`, read as a body of class `k`. -/
def receive (status : Byte) (nat : Bool) (k : EIBnetKind) (c : CArray) (src : SockaddrIn) :
    Checked (Option EIBnetBody) := do
  let some p ← EIBNetIPPacket.fromPacket c src | return none
  parse status nat k p

end EIBnetBody

/-! ## The packets of a tunnelling connection

  The parsers of `EibNetIp` are those above, with the bounds of every read
  checked. -/

theorem EIBnetTunnelRequest.toPacketBytes_eq (fresh : Nat → Byte) (r : EIBnetTunnelRequest) :
    r.toPacketBytes fresh = r.toPacket := by
  simp [toPacketBytes, toPacket, channelFrame, ByteBlock.write, ByteBlock.set, setpart,
    ByteBlock.alloc, resize, List.range_succ_eq_map]
  omega

theorem EIBnetTunnelACK.toPacketBytes_eq (fresh : Nat → Byte) (r : EIBnetTunnelACK) :
    r.toPacketBytes fresh = r.toPacket := rfl

theorem EIBnetTunnelRequest.parseBytes_eq (p : ReceivedPacket) :
    parseBytes p = .ok (parse p.toEIBNetIPPacket) := by
  obtain ⟨⟨service, data⟩, src⟩ := p
  unfold parseBytes parseChannelFrame parse
  by_cases hservice : service = Service.tunnelRequest
  · by_cases hlen : data.length < 6
    · simp [hservice, hlen]
    · rcases data with _ | ⟨head, _ | ⟨channel, _ | ⟨seqno, _ | ⟨reserved, cemi⟩⟩⟩⟩ <;>
        simp [hservice] at hlen ⊢
      -- the rest of the packet is the frame
      have hcemi : readSlice (head :: channel :: seqno :: reserved :: cemi) 4 cemi.length =
          .ok cemi := readSlice_append_right [_, _, _, _] cemi
      have hlong : ¬ cemi.length + 1 + 1 + 1 + 1 < 6 := by omega
      by_cases hhead : head = 4#8
      · subst hhead
        simp [hcemi, hlong]
      · simp [hhead, hlong]
  · simp [hservice]

theorem EIBnetTunnelACK.parseBytes_eq (p : ReceivedPacket) :
    parseBytes p = .ok (parse p.toEIBNetIPPacket) := by
  obtain ⟨⟨service, data⟩, src⟩ := p
  unfold parseBytes parseChannelAck parse
  by_cases hservice : service = Service.tunnelResponse
  · rcases data with _ | ⟨head, _ | ⟨channel, _ | ⟨seqno, _ | ⟨status, _ | ⟨x, rest⟩⟩⟩⟩⟩ <;>
      simp [hservice]
    by_cases hhead : head = 4#8 <;> simp [hhead]
  · simp [hservice]

theorem EIBnetConnectionStateResponse.parseBytes_eq (p : ReceivedPacket) :
    parseBytes p = .ok (parse p.toEIBNetIPPacket) := by
  obtain ⟨⟨service, data⟩, src⟩ := p
  unfold parseBytes parseChannelStatus parse
  by_cases hservice : service = Service.connectionStateResponse
  · rcases data with _ | ⟨channel, _ | ⟨status, _ | ⟨x, rest⟩⟩⟩ <;> simp [hservice]
  · simp [hservice]

theorem EIBnetDisconnectResponse.parseBytes_eq (p : ReceivedPacket) :
    parseBytes p = .ok (parse p.toEIBNetIPPacket) := by
  obtain ⟨⟨service, data⟩, src⟩ := p
  unfold parseBytes parseChannelStatus parse
  by_cases hservice : service = Service.disconnectResponse
  · rcases data with _ | ⟨channel, _ | ⟨status, _ | ⟨x, rest⟩⟩⟩ <;> simp [hservice]
  · simp [hservice]

theorem EIBnetDisconnectRequestFrom.parse_eq (p : ReceivedPacket)
    (r : EIBnetDisconnectRequestFrom) :
    ∃ o, parse p r = .ok o ∧
      o.map (·.toEIBnetDisconnectRequest) = EIBnetDisconnectRequest.parse p.toEIBNetIPPacket := by
  obtain ⟨⟨service, data⟩, src⟩ := p
  unfold parse parseChannelRequest EIBnetDisconnectRequest.parse
  by_cases hservice : service = Service.disconnectRequest
  · by_cases hlen : data.length = 10
    · rcases data with _ | ⟨channel, _ | ⟨b1, _ | ⟨len, _ | ⟨protocol, _ | ⟨b4, _ | ⟨b5, _ |
        ⟨b6, _ | ⟨b7, _ | ⟨b8, _ | ⟨b9, _ | ⟨x, rest⟩⟩⟩⟩⟩⟩⟩⟩⟩⟩⟩ <;> simp [hservice] at hlen ⊢
      by_cases hlen8 : len = 8#8 <;> by_cases hprotocol : protocol = 1#8 <;>
        simp [hlen8, hprotocol, readSlice, eibnetToIP]
    · refine ⟨none, by simp [hservice, hlen], ?_⟩
      rw [if_neg (not_not.mpr hservice)]
      split
      · next hdata =>
        rw [show data = _ from hdata] at hlen
        exact absurd rfl hlen
      · rfl
  · simp [hservice]

end BcuSdk.Eibd
