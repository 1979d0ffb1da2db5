/-
  BcuSdk.Eibd.Apdu

  Application layer PDUs (eibd/libserver/apdu.h, apdu.cpp): the classes derived
  from `APDU`, `APDU::fromPacket`, and for each class its `init`, its
  `ToPacket` and the assertions it makes.

  An `init` looks at the length first, so it is a match on the byte list; its
  first two bytes carry the service code and are matched by `classOf`.
  `Decode` builds a trace text and makes the same assertions as `ToPacket`.
-/
import BcuSdk.Eibd.Lpdu

namespace BcuSdk.Eibd

open BcuSdk.Lib

/-- `serialnumber_t`, six bytes. -/
structure SerialNumber where
  (s0 s1 s2 s3 s4 s5 : Byte)
  deriving DecidableEq, Repr

/-- `domainaddr_t`. -/
abbrev DomainAddr := Word16

/-- `memaddr_t`. -/
abbrev MemAddr := Word16

/-- `eibkey_type`. -/
abbrev EibKey := Word32

/-! ## Classes -/

/-- The classes derived from `APDU`. -/
inductive APDU where
  | aUnknown (pdu : CArray)
  | aGroupValueRead
  | aGroupValueResponse (issmall : Bool) (data : CArray)
  | aGroupValueWrite (issmall : Bool) (data : CArray)
  | aIndividualAddressWrite (addr : EibAddr)
  | aIndividualAddressRead
  | aIndividualAddressResponse
  | aIndividualAddressSerialNumberRead (serno : SerialNumber)
  | aIndividualAddressSerialNumberResponse (serno : SerialNumber) (addr : DomainAddr)
  | aIndividualAddressSerialNumberWrite (serno : SerialNumber) (addr : EibAddr)
  | aServiceInformationIndicationWrite (verifyMode duplicateAddress applStopped : Bool)
  | aDomainAddressWrite (addr : DomainAddr)
  | aDomainAddressRead
  | aDomainAddressResponse (addr : DomainAddr)
  | aDomainAddressSelectiveRead (domainaddr : DomainAddr) (addr : EibAddr) (range : Byte)
  | aPropertyValueRead (obj prop count : Byte) (start : Word16)
  | aPropertyValueResponse (obj prop count : Byte) (start : Word16) (data : CArray)
  | aPropertyValueWrite (obj prop count : Byte) (start : Word16) (data : CArray)
  | aPropertyDescriptionRead (obj prop propertyIndex : Byte)
  | aPropertyDescriptionResponse (obj prop propertyIndex type : Byte) (count : Word16)
      (access : Byte)
  | aDeviceDescriptorRead (type : Byte)
  | aDeviceDescriptorResponse (type : Byte) (descriptor : Word16)
  | aADCRead (channel count : Byte)
  | aADCResponse (channel count : Byte) (val : Word16)
  | aMemoryRead (count : Byte) (addr : MemAddr)
  | aMemoryResponse (count : Byte) (addr : MemAddr) (data : CArray)
  | aMemoryWrite (count : Byte) (addr : MemAddr) (data : CArray)
  | aMemoryBitWrite (count : Byte) (addr : MemAddr) (andmask xormask : CArray)
  | aUserMemoryRead (addrExtension count : Byte) (addr : MemAddr)
  | aUserMemoryResponse (addrExtension count : Byte) (addr : MemAddr) (data : CArray)
  | aUserMemoryWrite (addrExtension count : Byte) (addr : MemAddr) (data : CArray)
  | aUserMemoryBitWrite (addrExtension count : Byte) (addr : MemAddr) (andmask xormask : CArray)
  | aUserManufacturerInfoRead
  | aUserManufacturerInfoResponse (manufacturerid : Byte) (data : Word16)
  | aRestart
  | aAuthorizeRequest (key : EibKey)
  | aAuthorizeResponse (level : Byte)
  | aKeyWrite (level : Byte) (key : EibKey)
  | aKeyResponse (level : Byte)
  deriving DecidableEq, Repr

/-! ## Shapes shared by several classes -/

/-- `init` of a class without fields. -/
def emptyInit (a : APDU) : CArray → Option APDU
  | [_, _] => some a
  | _ => none

/-- `init` of a group value: two bytes hold a short value, more hold the data behind them. -/
def groupValueInit (mk : Bool → CArray → APDU) : CArray → Option APDU
  | [_, c1] => some (mk true [c1 &&& 0x3f#8])
  | _ :: _ :: data@(_ :: _) => some (mk false data)
  | _ => none

/-- `assert (!issmall || (data () == 1 && (data[0] & 0xC0) == 0))`. -/
def groupValueAsserts (issmall : Bool) (data : CArray) : Bool :=
  !issmall || (match data with
    | [b] => b &&& 0xC0#8 == 0#8
    | _ => false)

/-- `ToPacket` of a group value, `code` being `0x40` or `0x80`. -/
def groupValuePacket (code : Byte) (issmall : Bool) (data : CArray) : CArray :=
  if issmall then [0x00#8, code ||| (data.getD 0 0#8 &&& 0x3f#8)] else 0x00#8 :: code :: data

/-- `init` of a class whose only field is an address in the bytes 2 and 3. -/
def addrInit (mk : Word16 → APDU) : CArray → Option APDU
  | [_, _, c2, c3] => some (mk (word16 c2 c3))
  | _ => none

/-- `init` of a class whose only field is a level in byte 2. -/
def levelInit (mk : Byte → APDU) : CArray → Option APDU
  | [_, _, c2] => some (mk c2)
  | _ => none

/-- `(count & 0x0f) << 4 | ((start >> 8) & 0x0f)`. -/
def countStartByte (count : Byte) (start : Word16) : Byte :=
  ((count &&& 0x0f#8) <<< 4) ||| (hiByte start &&& 0x0f#8)

/-- `init` of a property value with data. -/
def propertyValueInit (mk : Byte → Byte → Byte → Word16 → CArray → APDU) : CArray → Option APDU
  | _ :: _ :: c2 :: c3 :: c4 :: c5 :: data =>
      some (mk c2 c3 ((c4 >>> 4) &&& 0x0f#8) (word16 (c4 &&& 0x0f#8) c5) data)
  | _ => none

/-- `assert ((count & 0xf0) == 0)` and `assert ((start & 0xf000) == 0)`. -/
def propertyValueAsserts (count : Byte) (start : Word16) : Bool :=
  count &&& 0xf0#8 == 0#8 && start &&& 0xf000#16 == 0#16

/-- `ToPacket` of a property value. -/
def propertyValuePacket (code obj prop count : Byte) (start : Word16) (data : CArray) : CArray :=
  [0x03#8, code, obj, prop, countStartByte count start, loByte start] ++ data

/-- `init` of a memory access with data. -/
def memoryInit (mk : Byte → MemAddr → CArray → APDU) : CArray → Option APDU
  | _ :: c1 :: c2 :: c3 :: data =>
      if data.length ≠ (c1 &&& 0x0f#8).toNat then none
      else some (mk (c1 &&& 0x0f#8) (word16 c2 c3) data)
  | _ => none

/-- `ToPacket` of a memory access. -/
def memoryPacket (code count : Byte) (addr : MemAddr) (data : CArray) : CArray :=
  [0x02#8, code ||| (count &&& 0x0f#8), hiByte addr, loByte addr] ++ data

/-- `init` of a user memory access with data. -/
def userMemoryInit (mk : Byte → Byte → MemAddr → CArray → APDU) : CArray → Option APDU
  | _ :: _ :: c2 :: c3 :: c4 :: data =>
      if data.length ≠ (c2 &&& 0x0f#8).toNat then none
      else some (mk ((c2 >>> 4) &&& 0x0f#8) (c2 &&& 0x0f#8) (word16 c3 c4) data)
  | _ => none

/-- `ToPacket` of a user memory access. -/
def userMemoryPacket (code addrExtension count : Byte) (addr : MemAddr) (data : CArray) : CArray :=
  [0x02#8, code, ((addrExtension &&& 0x0f#8) <<< 4) ||| (count &&& 0x0f#8), hiByte addr,
    loByte addr] ++ data

/-- `init` of a bitwise write: `count` bytes of and mask, then `count` bytes of xor mask. -/
def memoryBitInit (mk : Byte → MemAddr → CArray → CArray → APDU) : CArray → Option APDU
  | _ :: _ :: count :: c3 :: c4 :: masks =>
      if masks.length ≠ count.toNat * 2 then none
      else some (mk count (word16 c3 c4) (masks.take count.toNat) (masks.drop count.toNat))
  | _ => none

/-- `ToPacket` of a bitwise write. -/
def memoryBitPacket (c0 c1 count : Byte) (addr : MemAddr) (andmask xormask : CArray) : CArray :=
  [c0, c1, count, hiByte addr, loByte addr] ++ (andmask ++ xormask)

/-- The six bytes of a serial number. -/
def SerialNumber.bytes (s : SerialNumber) : CArray := [s.s0, s.s1, s.s2, s.s3, s.s4, s.s5]

/-- The four bytes of a key. -/
def keyBytes (key : EibKey) : CArray := [byteOf key 3, byteOf key 2, byteOf key 1, byteOf key 0]

/-! ## `init` of each class -/

def aGroupValueReadInit := emptyInit .aGroupValueRead

def aGroupValueResponseInit := groupValueInit .aGroupValueResponse

def aGroupValueWriteInit := groupValueInit .aGroupValueWrite

def aIndividualAddressWriteInit := addrInit .aIndividualAddressWrite

def aIndividualAddressReadInit := emptyInit .aIndividualAddressRead

def aIndividualAddressResponseInit := emptyInit .aIndividualAddressResponse

def aIndividualAddressSerialNumberReadInit : CArray → Option APDU
  | [_, _, c2, c3, c4, c5, c6, c7] =>
      some (.aIndividualAddressSerialNumberRead ⟨c2, c3, c4, c5, c6, c7⟩)
  | _ => none

def aIndividualAddressSerialNumberResponseInit : CArray → Option APDU
  | [_, _, c2, c3, c4, c5, c6, c7, c8, c9, _, _] =>
      some (.aIndividualAddressSerialNumberResponse ⟨c2, c3, c4, c5, c6, c7⟩ (word16 c8 c9))
  | _ => none

def aIndividualAddressSerialNumberWriteInit : CArray → Option APDU
  | [_, _, c2, c3, c4, c5, c6, c7, c8, c9, _, _, _, _] =>
      some (.aIndividualAddressSerialNumberWrite ⟨c2, c3, c4, c5, c6, c7⟩ (word16 c8 c9))
  | _ => none

/-- The duplicate address flag is read from byte 3, the other two from byte 2. -/
def aServiceInformationIndicationWriteInit : CArray → Option APDU
  | [_, _, c2, c3, _] =>
      some (.aServiceInformationIndicationWrite (c2 &&& 0x04#8 ≠ 0#8) (c3 &&& 0x02#8 ≠ 0#8)
        (c2 &&& 0x01#8 ≠ 0#8))
  | _ => none

def aDomainAddressWriteInit := addrInit .aDomainAddressWrite

def aDomainAddressReadInit := emptyInit .aDomainAddressRead

def aDomainAddressResponseInit := addrInit .aDomainAddressResponse

def aDomainAddressSelectiveReadInit : CArray → Option APDU
  | [_, _, c2, c3, c4, c5, c6] =>
      some (.aDomainAddressSelectiveRead (word16 c2 c3) (word16 c4 c5) c6)
  | _ => none

def aPropertyValueReadInit : CArray → Option APDU
  | [_, _, c2, c3, c4, c5] =>
      some (.aPropertyValueRead c2 c3 ((c4 >>> 4) &&& 0x0f#8) (word16 (c4 &&& 0x0f#8) c5))
  | _ => none

def aPropertyValueResponseInit := propertyValueInit .aPropertyValueResponse

def aPropertyValueWriteInit := propertyValueInit .aPropertyValueWrite

def aPropertyDescriptionReadInit : CArray → Option APDU
  | [_, _, c2, c3, c4] => some (.aPropertyDescriptionRead c2 c3 c4)
  | _ => none

def aPropertyDescriptionResponseInit : CArray → Option APDU
  | [_, _, c2, c3, c4, c5, c6, c7, c8] =>
      some (.aPropertyDescriptionResponse c2 c3 c4 c5 (word16 c6 c7) c8)
  | _ => none

def aDeviceDescriptorReadInit : CArray → Option APDU
  | [_, c1] => some (.aDeviceDescriptorRead (c1 &&& 0x3f#8))
  | _ => none

def aDeviceDescriptorResponseInit : CArray → Option APDU
  | [_, c1, c2, c3] => some (.aDeviceDescriptorResponse (c1 &&& 0x3f#8) (word16 c2 c3))
  | _ => none

def aADCReadInit : CArray → Option APDU
  | [_, c1, c2] => some (.aADCRead (c1 &&& 0x3f#8) c2)
  | _ => none

def aADCResponseInit : CArray → Option APDU
  | [_, c1, c2, c3, c4] => some (.aADCResponse (c1 &&& 0x3f#8) c2 (word16 c3 c4))
  | _ => none

def aMemoryReadInit : CArray → Option APDU
  | [_, c1, c2, c3] => some (.aMemoryRead (c1 &&& 0x0f#8) (word16 c2 c3))
  | _ => none

def aMemoryResponseInit := memoryInit .aMemoryResponse

def aMemoryWriteInit := memoryInit .aMemoryWrite

def aMemoryBitWriteInit := memoryBitInit .aMemoryBitWrite

def aUserMemoryReadInit : CArray → Option APDU
  | [_, _, c2, c3, c4] =>
      some (.aUserMemoryRead ((c2 >>> 4) &&& 0x0f#8) (c2 &&& 0x0f#8) (word16 c3 c4))
  | _ => none

def aUserMemoryResponseInit := userMemoryInit .aUserMemoryResponse

def aUserMemoryWriteInit := userMemoryInit .aUserMemoryWrite

/-- The address extension keeps the constructor's value. -/
def aUserMemoryBitWriteInit := memoryBitInit (.aUserMemoryBitWrite 0#8)

def aUserManufacturerInfoReadInit := emptyInit .aUserManufacturerInfoRead

def aUserManufacturerInfoResponseInit : CArray → Option APDU
  | [_, _, c2, c3, c4] => some (.aUserManufacturerInfoResponse c2 (word16 c3 c4))
  | _ => none

def aRestartInit := emptyInit .aRestart

def aAuthorizeRequestInit : CArray → Option APDU
  | [_, _, _, c3, c4, c5, c6] => some (.aAuthorizeRequest (word32 c3 c4 c5 c6))
  | _ => none

def aAuthorizeResponseInit := levelInit .aAuthorizeResponse

def aKeyWriteInit : CArray → Option APDU
  | [_, _, c2, c3, c4, c5, c6] => some (.aKeyWrite c2 (word32 c3 c4 c5 c6))
  | _ => none

def aKeyResponseInit := levelInit .aKeyResponse

/-! ## `APDU::fromPacket` -/

/-- The `init` of the class `APDU::fromPacket` picks by the 10-bit service code. -/
def APDU.classOf (c0 c1 : Byte) : Option (CArray → Option APDU) :=
  match c0 &&& 0x03#8, c1 &&& 0xC0#8 with
  | 0#8, 0x00#8 => some aGroupValueReadInit
  | 0#8, 0x40#8 => some aGroupValueResponseInit
  | 0#8, 0x80#8 => some aGroupValueWriteInit
  | 0#8, 0xC0#8 => some aIndividualAddressWriteInit
  | 1#8, 0x00#8 => some aIndividualAddressReadInit
  | 1#8, 0x40#8 => some aIndividualAddressResponseInit
  | 1#8, 0x80#8 => some aADCReadInit
  | 1#8, 0xC0#8 => some aADCResponseInit
  | 2#8, 0x00#8 => some aMemoryReadInit
  | 2#8, 0x40#8 => some aMemoryResponseInit
  | 2#8, 0x80#8 => some aMemoryWriteInit
  | 2#8, 0xC0#8 =>
      match c1 with
      | 0xC0#8 => some aUserMemoryReadInit
      | 0xC1#8 => some aUserMemoryResponseInit
      | 0xC2#8 => some aUserMemoryWriteInit
      | 0xC4#8 => some aUserMemoryBitWriteInit
      | 0xC5#8 => some aUserManufacturerInfoReadInit
      | 0xC6#8 => some aUserManufacturerInfoResponseInit
      | _ => none
  | 3#8, 0x00#8 => some aDeviceDescriptorReadInit
  | 3#8, 0x40#8 => some aDeviceDescriptorResponseInit
  | 3#8, 0x80#8 => some aRestartInit
  | 3#8, 0xC0#8 =>
      match c1 with
      | 0xD0#8 => some aMemoryBitWriteInit
      | 0xD1#8 => some aAuthorizeRequestInit
      | 0xD2#8 => some aAuthorizeResponseInit
      | 0xD3#8 => some aKeyWriteInit
      | 0xD4#8 => some aKeyResponseInit
      | 0xD5#8 => some aPropertyValueReadInit
      | 0xD6#8 => some aPropertyValueResponseInit
      | 0xD7#8 => some aPropertyValueWriteInit
      | 0xD8#8 => some aPropertyDescriptionReadInit
      | 0xD9#8 => some aPropertyDescriptionResponseInit
      | 0xDC#8 => some aIndividualAddressSerialNumberReadInit
      | 0xDD#8 => some aIndividualAddressSerialNumberResponseInit
      | 0xDE#8 => some aIndividualAddressSerialNumberWriteInit
      | 0xDF#8 => some aServiceInformationIndicationWriteInit
      | 0xE0#8 => some aDomainAddressWriteInit
      | 0xE1#8 => some aDomainAddressReadInit
      | 0xE2#8 => some aDomainAddressResponseInit
      | 0xE3#8 => some aDomainAddressSelectiveReadInit
      | _ => none
  | _, _ => none

/-- `APDU::fromPacket`. -/
def APDU.fromPacket (c : CArray) : APDU :=
  match c with
  | c0 :: c1 :: _ => ((classOf c0 c1).bind (· c)).getD (.aUnknown c)
  | _ => .aUnknown c

/-! ## `ToPacket` and `Decode` -/

/-- The assertions at the head of each class's `ToPacket` and `Decode`. -/
def APDU.asserts : APDU → Bool
  | .aGroupValueResponse issmall data => groupValueAsserts issmall data
  | .aGroupValueWrite issmall data => groupValueAsserts issmall data
  | .aPropertyValueRead _ _ count start => propertyValueAsserts count start
  | .aPropertyValueResponse _ _ count start _ => propertyValueAsserts count start
  | .aPropertyValueWrite _ _ count start _ => propertyValueAsserts count start
  | .aDeviceDescriptorRead type => type &&& 0xC0#8 == 0#8
  | .aDeviceDescriptorResponse type _ => type &&& 0xC0#8 == 0#8
  | .aADCRead channel _ => channel &&& 0xC0#8 == 0#8
  | .aADCResponse channel _ _ => channel &&& 0xC0#8 == 0#8
  | .aMemoryRead count _ => count &&& 0xf0#8 == 0#8
  | .aMemoryResponse count _ data => count &&& 0xf0#8 == 0#8 && data.length == count.toNat
  | .aMemoryWrite count _ data => count &&& 0xf0#8 == 0#8 && data.length == count.toNat
  | .aMemoryBitWrite count _ andmask xormask =>
      andmask.length == count.toNat && xormask.length == count.toNat
  | .aUserMemoryRead addrExtension count _ =>
      count &&& 0xf0#8 == 0#8 && addrExtension &&& 0xf0#8 == 0#8
  | .aUserMemoryResponse addrExtension count _ data =>
      count &&& 0xf0#8 == 0#8 && addrExtension &&& 0xf0#8 == 0#8 && data.length == count.toNat
  | .aUserMemoryWrite addrExtension count _ data =>
      count &&& 0xf0#8 == 0#8 && addrExtension &&& 0xf0#8 == 0#8 && data.length == count.toNat
  | .aUserMemoryBitWrite _ count _ andmask xormask =>
      andmask.length == count.toNat && xormask.length == count.toNat
  | _ => true

/-- The bytes each class writes.  `A_DomainAddressSelective_Read` never writes its bytes 4
    and 5; `unset` is what the fresh array holds there. -/
def APDU.bytes (unset : Byte × Byte) : APDU → CArray
  | .aUnknown pdu => pdu
  | .aGroupValueRead => [0x00#8, 0x00#8]
  | .aGroupValueResponse issmall data => groupValuePacket 0x40#8 issmall data
  | .aGroupValueWrite issmall data => groupValuePacket 0x80#8 issmall data
  | .aIndividualAddressWrite addr => [0x00#8, 0xC0#8, hiByte addr, loByte addr]
  | .aIndividualAddressRead => [0x01#8, 0x00#8]
  | .aIndividualAddressResponse => [0x01#8, 0x40#8]
  | .aIndividualAddressSerialNumberRead serno => [0x03#8, 0xDC#8] ++ serno.bytes
  | .aIndividualAddressSerialNumberResponse serno addr =>
      [0x03#8, 0xDD#8] ++ serno.bytes ++ [hiByte addr, loByte addr, 0#8, 0#8]
  | .aIndividualAddressSerialNumberWrite serno addr =>
      [0x03#8, 0xDD#8] ++ serno.bytes ++ [hiByte addr, loByte addr, 0#8, 0#8, 0#8, 0#8]
  | .aServiceInformationIndicationWrite verifyMode duplicateAddress applStopped =>
      [0x03#8, 0xDF#8,
        (if verifyMode then 0x04#8 else 0x00#8) |||
          (if duplicateAddress then 0x02#8 else 0x00#8) |||
          (if applStopped then 0x01#8 else 0x00#8), 0x00#8, 0x00#8]
  | .aDomainAddressWrite addr => [0x03#8, 0xE0#8, hiByte addr, loByte addr]
  | .aDomainAddressRead => [0x03#8, 0xE1#8]
  | .aDomainAddressResponse addr => [0x03#8, 0xE2#8, hiByte addr, loByte addr]
  | .aDomainAddressSelectiveRead _ addr range =>
      -- the address overwrites the domain address
      [0x03#8, 0xE2#8, hiByte addr, loByte addr, unset.1, unset.2, range]
  | .aPropertyValueRead obj prop count start => propertyValuePacket 0xD5#8 obj prop count start []
  | .aPropertyValueResponse obj prop count start data =>
      propertyValuePacket 0xD6#8 obj prop count start data
  | .aPropertyValueWrite obj prop count start data =>
      propertyValuePacket 0xD7#8 obj prop count start data
  | .aPropertyDescriptionRead obj prop propertyIndex =>
      [0x03#8, 0xD8#8, obj, prop, propertyIndex]
  | .aPropertyDescriptionResponse obj prop propertyIndex type count access =>
      [0x03#8, 0xD9#8, obj, prop, propertyIndex, type, hiByte count, loByte count, access]
  | .aDeviceDescriptorRead type => [0x03#8, 0x00#8 ||| (type &&& 0x3f#8)]
  | .aDeviceDescriptorResponse type descriptor =>
      [0x03#8, 0x01#8 ||| (type &&& 0x3f#8), hiByte descriptor, loByte descriptor]
  | .aADCRead channel count => [0x01#8, 0x80#8 ||| (channel &&& 0x3f#8), count]
  | .aADCResponse channel count val =>
      [0x01#8, 0xC0#8 ||| (channel &&& 0x3f#8), count, hiByte val, loByte val]
  | .aMemoryRead count addr => memoryPacket 0x00#8 count addr []
  | .aMemoryResponse count addr data => memoryPacket 0x40#8 count addr data
  | .aMemoryWrite count addr data => memoryPacket 0x80#8 count addr data
  | .aMemoryBitWrite count addr andmask xormask =>
      memoryBitPacket 0x03#8 0xD0#8 count addr andmask xormask
  | .aUserMemoryRead addrExtension count addr => userMemoryPacket 0xC0#8 addrExtension count addr []
  | .aUserMemoryResponse addrExtension count addr data =>
      userMemoryPacket 0xC1#8 addrExtension count addr data
  | .aUserMemoryWrite addrExtension count addr data =>
      userMemoryPacket 0xC2#8 addrExtension count addr data
  | .aUserMemoryBitWrite _ count addr andmask xormask =>
      memoryBitPacket 0x02#8 0xC4#8 count addr andmask xormask
  | .aUserManufacturerInfoRead => [0x02#8, 0xC5#8]
  | .aUserManufacturerInfoResponse manufacturerid data =>
      [0x02#8, 0xC6#8, manufacturerid, hiByte data, loByte data]
  | .aRestart => [0x03#8, 0x80#8]
  | .aAuthorizeRequest key => [0x03#8, 0xD1#8, 0x00#8] ++ keyBytes key
  | .aAuthorizeResponse level => [0x03#8, 0xD2#8, level]
  | .aKeyWrite level key => [0x03#8, 0xD3#8, level] ++ keyBytes key
  | .aKeyResponse level => [0x03#8, 0xD4#8, level]

/-- `APDU::ToPacket`. -/
def APDU.toPacket (unset : Byte × Byte) (a : APDU) : Checked CArray := do
  check a.asserts
  return a.bytes unset

/-- `APDU::Decode`; the assertions come before any text. -/
def APDU.decode (a : APDU) : Checked Unit := check a.asserts

theorem APDU.toPacket_eq_ok {unset : Byte × Byte} {a : APDU} {c : CArray} :
    a.toPacket unset = .ok c ↔ a.asserts ∧ a.bytes unset = c := by
  simp [toPacket, Checked.bind_eq_ok]

end BcuSdk.Eibd
