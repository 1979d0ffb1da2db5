/-
  BcuSdk.Eibd.Lpdu

  Layer 2 frames (eibd/libserver/lpdu.h, lpdu.cpp): the frame classes, the
  TP1 decoder `LPDU::fromPacket` with `L_Data_PDU::init`, and the TP1 encoder
  `L_Data_PDU::ToPacket`.

  Decoders and encoders run in `Checked`: array reads and assertions of the
  source are the only ways to a fault.
-/
import BcuSdk.Lib.Checked

namespace BcuSdk.Eibd

open BcuSdk.Lib

/-- `CArray`, an array of `uchar`. -/
abbrev CArray := List Byte

/-- `eibaddr_t`. -/
abbrev EibAddr := Word16

/-- `EIB_Priority`. -/
inductive EIBPriority where
  | low
  | normal
  | urgent
  | system
  deriving DecidableEq, Repr

/-- `EIB_AddrType`. -/
inductive EIBAddrType where
  | groupAddress
  | individualAddress
  deriving DecidableEq, Repr

/-! ## Frame classes -/

/-- `L_Data_PDU`, with the values its constructor sets.  `object` is the sender
    that put the frame into Layer 3 (`LPDU::object`); `0` is the null pointer. -/
structure LDataPDU where
  prio : EIBPriority := .low
  repeated : Bool := false
  validChecksum : Bool := true
  validLength : Bool := true
  addrType : EIBAddrType := .individualAddress
  source : EibAddr := 0
  dest : EibAddr := 0
  hopcount : Byte := 0x07#8
  data : CArray := []
  object : Nat := 0
  deriving DecidableEq, Repr

/-- `L_Busmonitor_PDU`. -/
structure LBusmonitorPDU where
  pdu : CArray := []
  status : Byte := 0
  timestamp : Word32 := 0
  deriving DecidableEq, Repr

/-- The classes derived from `LPDU`. -/
inductive LPDU where
  | unknown (pdu : CArray)
  | lData (l : LDataPDU)
  | busmonitor (l : LBusmonitorPDU)
  | ack
  | nack
  | busy
  deriving DecidableEq, Repr

/-- `LPDU_Type`, as far as `getType` returns it. -/
inductive LPDUType where
  | unknown
  | lData
  | lDataPart
  | busmonitor
  | ack
  | nack
  | busy
  deriving DecidableEq, Repr

/-- `getType`.  A frame whose length byte does not fit is an incomplete `L_Data`. -/
def LPDU.getType : LPDU → LPDUType
  | .unknown _ => .unknown
  | .lData l => if l.validLength then .lData else .lDataPart
  | .busmonitor _ => .busmonitor
  | .ack => .ack
  | .nack => .nack
  | .busy => .busy

/-! ## Field tables

The encoders of `lpdu.cpp` and `emi.cpp` share one `switch (prio)`, the
decoders another. -/

/-- The encoders' `switch (prio)`. -/
def EIBPriority.code : EIBPriority → Byte
  | .low => 0x3#8
  | .normal => 0x1#8
  | .urgent => 0x2#8
  | .system => 0x0#8

/-- The decoders' `switch ((c >> 2) & 0x3)`. -/
def EIBPriority.ofControl (c : Byte) : EIBPriority :=
  match ((c >>> 2) &&& 0x3#8).toNat with
  | 0 => .system
  | 1 => .urgent
  | 2 => .normal
  | _ => .low

/-- `AddrType == GroupAddress ? 0x80 : 0x00`. -/
def EIBAddrType.flag : EIBAddrType → Byte
  | .groupAddress => 0x80#8
  | .individualAddress => 0x00#8

/-- `(c & 0x80) ? GroupAddress : IndividualAddress`. -/
def EIBAddrType.ofFlag (c : Byte) : EIBAddrType :=
  if c &&& 0x80#8 ≠ 0#8 then .groupAddress else .individualAddress

/-- `repeated ? 0x00 : 0x20`. -/
def repeatFlag (repeated : Bool) : Byte := if repeated then 0x00#8 else 0x20#8

/-! ## `L_Data_PDU::init` -/

/-- Whether the last byte is the complement of the xor of the bytes before it. -/
def validChecksumOf (c : CArray) : Checked Bool := do
  let body ← readSlice c 0 (c.length - 1)
  let last ← readByte c (c.length - 1)
  return last = ~~~(xorBytes body)

/-- The branch of `L_Data_PDU::init` for standard frames. -/
def LDataPDU.initStandard (l : LDataPDU) (c : CArray) : Checked (Option LDataPDU) := do
  let source := word16 (← readByte c 1) (← readByte c 2)
  let dest := word16 (← readByte c 3) (← readByte c 4)
  let c5 ← readByte c 5
  let len := (c5 &&& 0x0f#8).toNat + 1
  -- unlike an extended frame, a standard one of another length is never kept
  if len + 7 ≠ c.length then
    return none
  else
    let data ← readSlice c 6 len
    let validChecksum ← validChecksumOf c
    return some { l with
      source, dest, data, validChecksum
      hopcount := (c5 >>> 4) &&& 0x07#8
      addrType := .ofFlag c5 }

/-- The branch of `L_Data_PDU::init` for extended frames.  A frame of 23 bytes with
    a length byte that does not fit is kept with its first 8 payload bytes. -/
def LDataPDU.initExtended (l : LDataPDU) (c : CArray) : Checked (Option LDataPDU) := do
  let c1 ← readByte c 1
  -- of the extended formats only 0 is known
  if c1 &&& 0x0f#8 ≠ 0#8 then
    return none
  else if c.length < 7 then
    return none
  else
    let source := word16 (← readByte c 2) (← readByte c 3)
    let dest := word16 (← readByte c 4) (← readByte c 5)
    let len := (← readByte c 6).toNat + 1
    if len + 8 ≠ c.length ∧ c.length ≠ 23 then
      return none
    else
      let validLength : Bool := len + 8 = c.length
      let data ← readSlice c 7 (if validLength then len else 8)
      let validChecksum ← validChecksumOf c
      return some { l with
        source, dest, data, validLength, validChecksum
        hopcount := (c1 >>> 4) &&& 0x07#8
        addrType := .ofFlag c1 }

/-- `L_Data_PDU::init` on a fresh object. -/
def LDataPDU.init (c : CArray) : Checked (Option LDataPDU) := do
  if c.length < 6 then
    return none
  else
    let c0 ← readByte c 0
    -- the bits that are neither format, repetition nor priority
    if c0 &&& 0x53#8 ≠ 0x10#8 then
      return none
    else
      let l : LDataPDU := { repeated := c0 &&& 0x20#8 = 0#8, prio := .ofControl c0 }
      -- the top bit tells the two frame formats apart
      if c0 &&& 0x80#8 ≠ 0#8 then l.initStandard c else l.initExtended c

/-! ## `LPDU::fromPacket` -/

/-- The class `LPDU::fromPacket` picks by the first byte, with the result of its
    `init`; the later tests overwrite the earlier ones. -/
def LPDU.candidate (c : CArray) : Checked (Option LPDU) := do
  if c.length < 1 then
    return none
  else
    let c0 ← readByte c 0
    if c0 &&& 0x53#8 = 0x10#8 then
      return (← LDataPDU.init c).map .lData
    else if c0 = 0x0C#8 then
      return if c.length ≠ 1 then none else some .nack
    else if c0 = 0xC0#8 then
      return if c.length ≠ 1 then none else some .busy
    else if c0 = 0xCC#8 then
      return if c.length ≠ 1 then none else some .ack
    else
      return none

/-- `LPDU::fromPacket`. -/
def LPDU.fromPacket (c : CArray) : Checked LPDU := do
  return (← LPDU.candidate c).getD (.unknown c)

/-! ## `L_Data_PDU::ToPacket` -/

/-- The assertions at the head of `L_Data_PDU::ToPacket` and `L_Data_PDU::Decode`. -/
def LDataPDU.checkEncodable (l : LDataPDU) : Checked Unit := do
  check (l.data.length ≥ 1)
  check (l.data.length ≤ 0xff)
  check (l.hopcount &&& 0xf8#8 = 0#8)

/-- The standard frame without its check byte. -/
def LDataPDU.standardBody (l : LDataPDU) : CArray :=
  [0x90#8 ||| (l.prio.code <<< 2) ||| repeatFlag l.repeated,
    hiByte l.source, loByte l.source, hiByte l.dest, loByte l.dest,
    ((l.hopcount &&& 0x07#8) <<< 4) ||| (BitVec.ofNat 8 (l.data.length - 1) &&& 0x0f#8) |||
      l.addrType.flag] ++
    l.data.take (1 + ((l.data.length - 1) &&& 0x0f))

/-- The extended frame without its check byte. -/
def LDataPDU.extendedBody (l : LDataPDU) : CArray :=
  [0x10#8 ||| (l.prio.code <<< 2) ||| repeatFlag l.repeated,
    ((l.hopcount &&& 0x07#8) <<< 4) ||| l.addrType.flag,
    hiByte l.source, loByte l.source, hiByte l.dest, loByte l.dest,
    BitVec.ofNat 8 (l.data.length - 1)] ++
    l.data.take (1 + ((l.data.length - 1) &&& 0xff))

/-- The frame without its check byte: the form is chosen by the payload length. -/
def LDataPDU.body (l : LDataPDU) : CArray :=
  if l.data.length - 1 ≤ 0x0f then l.standardBody else l.extendedBody

/-- `L_Data_PDU::ToPacket`. -/
def LDataPDU.toPacket (l : LDataPDU) : Checked CArray := do
  l.checkEncodable
  return l.body ++ [~~~(xorBytes l.body)]

/-- `LPDU::ToPacket` of any frame class. -/
def LPDU.toPacket : LPDU → Checked CArray
  | .unknown pdu => .ok pdu
  | .lData l => l.toPacket
  | .busmonitor l => .ok l.pdu
  | .ack => .ok [0xCC#8]
  | .nack => .ok [0x0C#8]
  | .busy => .ok [0xC0#8]

/-- What the assertions at the head of `ToPacket` and `Decode` ask for. -/
structure LDataPDU.Encodable (l : LDataPDU) : Prop where
  nonempty : 1 ≤ l.data.length
  fits : l.data.length ≤ 0xff
  hops : l.hopcount &&& 0xf8#8 = 0#8

theorem LDataPDU.checkEncodable_eq_ok {l : LDataPDU} {u : Unit} :
    l.checkEncodable = .ok u ↔ l.Encodable := by
  simp only [checkEncodable, Checked.bind_eq_ok, check_eq_ok, exists_const]
  exact ⟨fun ⟨h1, h2, h3⟩ => ⟨h1, h2, h3⟩, fun h => ⟨h.nonempty, h.fits, h.hops⟩⟩

theorem LDataPDU.toPacket_eq_ok {l : LDataPDU} {c : CArray} :
    l.toPacket = .ok c ↔ l.Encodable ∧ l.body ++ [~~~(xorBytes l.body)] = c := by
  simp [toPacket, Checked.bind_eq_ok, checkEncodable_eq_ok]

/-- `ToPacket` returns exactly on the frames its assertions admit. -/
theorem LDataPDU.toPacket_returns_iff {l : LDataPDU} : l.toPacket.Returns ↔ l.Encodable := by
  simp [Checked.Returns, toPacket_eq_ok]

end BcuSdk.Eibd
