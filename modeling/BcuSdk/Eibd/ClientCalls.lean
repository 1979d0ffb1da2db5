/-
  BcuSdk.Eibd.ClientCalls

  The calls of the client library that ask for one thing and wait for its
  answer (eibd/client/def): what each of them sends, and what it makes of the
  reply.

  A call is two texts over the macros of eibclient-int.h: `EIBC_ASYNC` builds the
  request and `EIBC_COMPLETE` takes the reply apart.  `EIBCall.request` and
  `EIBCall.completion` hold the arguments of these macros.
-/
import BcuSdk.Eibd.Apdu
import BcuSdk.Eibd.ManagementSession

namespace BcuSdk.Eibd

open BcuSdk.Lib

/-! ## Message types -/

/-- `EIB_CONNECTION_INUSE`. -/
def eibConnectionInuse : Word16 := 0x0001#16

/-- `EIB_PROG_MODE`. -/
def eibProgMode : Word16 := 0x0030#16

/-- `EIB_MASK_VERSION`. -/
def eibMaskVersion : Word16 := 0x0031#16

/-- `EIB_M_INDIVIDUAL_ADDRESS_READ`. -/
def eibMIndividualAddressRead : Word16 := 0x0032#16

/-- `EIB_M_INDIVIDUAL_ADDRESS_WRITE`. -/
def eibMIndividualAddressWrite : Word16 := 0x0040#16

/-- `EIB_ERROR_ADDR_EXISTS`. -/
def eibErrorAddrExists : Word16 := 0x0041#16

/-- `EIB_ERROR_MORE_DEVICE`. -/
def eibErrorMoreDevice : Word16 := 0x0042#16

/-- `EIB_ERROR_TIMEOUT`. -/
def eibErrorTimeout : Word16 := 0x0043#16

/-- `EIB_MC_INDIVIDUAL`. -/
def eibMCIndividual : Word16 := 0x0049#16

/-- `EIB_LOAD_IMAGE`. -/
def eibLoadImage : Word16 := 0x0063#16

/-- `EIB_CACHE_ENABLE`. -/
def eibCacheEnable : Word16 := 0x0070#16

/-- `EIB_CACHE_DISABLE`. -/
def eibCacheDisable : Word16 := 0x0071#16

/-- `EIB_CACHE_CLEAR`. -/
def eibCacheClear : Word16 := 0x0072#16

/-- `EIB_CACHE_REMOVE`. -/
def eibCacheRemove : Word16 := 0x0073#16

/-- `EIB_CACHE_READ`. -/
def eibCacheRead : Word16 := 0x0074#16

/-- `EIB_CACHE_READ_NOWAIT`. -/
def eibCacheReadNowait : Word16 := 0x0075#16

/-- `EIB_CACHE_LAST_UPDATES`. -/
def eibCacheLastUpdates : Word16 := 0x0076#16

/-! ## Calls -/

/-- What can be done to the programming mode. -/
inductive ProgmodeChange where
  | off
  | on
  | toggle
  deriving DecidableEq, Repr

/-- The byte that stands for it in a request; 3 asks for the state. -/
def ProgmodeChange.code : ProgmodeChange → Byte
  | .off => 0#8
  | .on => 1#8
  | .toggle => 2#8

/-- A call of the library, with the arguments that go in.  `maxlen` is the length of the caller's
    buffer; a key is its four bytes, the first one on top. -/
inductive EIBCall where
  /-- `EIB_M_ReadIndividualAddresses`. -/
  | mReadIndividualAddresses (maxlen : Int)
  /-- `EIB_M_Progmode_Off`, `EIB_M_Progmode_On` and `EIB_M_Progmode_Toggle`. -/
  | mProgmode (change : ProgmodeChange) (dest : EibAddr)
  /-- `EIB_M_Progmode_Status`. -/
  | mProgmodeStatus (dest : EibAddr)
  /-- `EIB_M_GetMaskVersion`. -/
  | mGetMaskVersion (dest : EibAddr)
  /-- `EIB_M_WriteIndividualAddress`. -/
  | mWriteIndividualAddress (dest : EibAddr)
  /-- `EIB_LoadImage`. -/
  | loadImage (image : CArray)
  /-- `EIB_Cache_Enable`. -/
  | cacheEnable
  /-- `EIB_Cache_Disable`. -/
  | cacheDisable
  /-- `EIB_Cache_Clear`. -/
  | cacheClear
  /-- `EIB_Cache_Remove`. -/
  | cacheRemove (dest : EibAddr)
  /-- `EIB_Cache_Read`. -/
  | cacheRead (dst : EibAddr) (maxlen : Int)
  /-- `EIB_Cache_Read_Sync`. -/
  | cacheReadSync (dst : EibAddr) (maxlen : Int) (age : Word16)
  /-- `EIB_Cache_LastUpdates`. -/
  | cacheLastUpdates (start : Word16) (timeout : Byte) (maxlen : Int)
  /-- `EIBReset`. -/
  | reset
  /-- `EIB_MC_Connect`. -/
  | mcConnect (dest : EibAddr)
  /-- `EIB_MC_Individual_Open`. -/
  | mcIndividualOpen (dest : EibAddr)
  /-- `EIB_MC_Progmode_Off`, `EIB_MC_Progmode_On` and `EIB_MC_Progmode_Toggle`. -/
  | mcProgmode (change : ProgmodeChange)
  /-- `EIB_MC_Progmode_Status`. -/
  | mcProgmodeStatus
  /-- `EIB_MC_GetMaskVersion`. -/
  | mcGetMaskVersion
  /-- `EIB_MC_GetPEIType`. -/
  | mcGetPEIType
  /-- `EIB_MC_ReadADC`. -/
  | mcReadADC (channel count : Byte)
  /-- `EIB_MC_Read`. -/
  | mcRead (addr : Word16) (maxlen : Int)
  /-- `EIB_MC_Write`. -/
  | mcWrite (addr : Word16) (buf : CArray)
  /-- `EIB_MC_Write_Plain`. -/
  | mcWritePlain (addr : Word16) (buf : CArray)
  /-- `EIB_MC_PropertyRead`. -/
  | mcPropertyRead (obj propertyno : Byte) (start : Word16) (nrOfElem : Byte) (maxlen : Int)
  /-- `EIB_MC_PropertyWrite`. -/
  | mcPropertyWrite (obj propertyno : Byte) (start : Word16) (nrOfElem : Byte) (buf : CArray)
      (maxlen : Int)
  /-- `EIB_MC_Authorize`. -/
  | mcAuthorize (key : Word32)
  /-- `EIB_MC_SetKey`. -/
  | mcSetKey (key : Word32) (level : Byte)
  /-- `EIB_MC_PropertyDesc`. -/
  | mcPropertyDesc (obj propertyno : Byte)
  /-- `EIB_MC_PropertyScan`. -/
  | mcPropertyScan (maxlen : Int)
  /-- `EIB_MC_Restart`. -/
  | mcRestart
  deriving DecidableEq, Repr

/-! ## Requests -/

/-- What `EIBC_ASYNC` puts together: the bytes behind the type, what `EIBC_SEND_BUF` appends, and
    the length that `EIBC_READ_BUF` checks. -/
structure Request where
  type : Word16
  args : CArray := []
  inbuf : CArray := []
  maxlen : Int := 0
  deriving DecidableEq, Repr

/-- `EIBC_SETUINT16` and `EIBC_SETADDR`. -/
def uint16Bytes (w : Word16) : CArray := [hiByte w, loByte w]

/-- `EIBC_SETLEN`, of an `int`. -/
def lenBytes (len : Int) : CArray := uint16Bytes (BitVec.ofInt 16 len)

/-- The `_async` functions. -/
def EIBCall.request : EIBCall → Request
  | .mReadIndividualAddresses maxlen => { type := eibMIndividualAddressRead, maxlen }
  | .mProgmode change dest => { type := eibProgMode, args := uint16Bytes dest ++ [change.code] }
  | .mProgmodeStatus dest => { type := eibProgMode, args := uint16Bytes dest ++ [3#8] }
  | .mGetMaskVersion dest => { type := eibMaskVersion, args := uint16Bytes dest }
  | .mWriteIndividualAddress dest =>
      { type := eibMIndividualAddressWrite, args := uint16Bytes dest }
  | .loadImage image => { type := eibLoadImage, inbuf := image }
  | .cacheEnable => { type := eibCacheEnable }
  | .cacheDisable => { type := eibCacheDisable }
  | .cacheClear => { type := eibCacheClear }
  | .cacheRemove dest => { type := eibCacheRemove, args := uint16Bytes dest }
  | .cacheRead dst maxlen => { type := eibCacheReadNowait, args := uint16Bytes dst, maxlen }
  | .cacheReadSync dst maxlen age =>
      { type := eibCacheRead, args := uint16Bytes dst ++ uint16Bytes age, maxlen }
  | .cacheLastUpdates start timeout maxlen =>
      { type := eibCacheLastUpdates, args := uint16Bytes start ++ [timeout], maxlen }
  | .reset => { type := eibResetConnection }
  | .mcConnect dest => { type := eibMCConnection, args := uint16Bytes dest }
  | .mcIndividualOpen dest => { type := eibMCIndividual, args := uint16Bytes dest }
  | .mcProgmode change => { type := MCRequest.progMode.type, args := [change.code] }
  | .mcProgmodeStatus => { type := MCRequest.progMode.type, args := [3#8] }
  | .mcGetMaskVersion => { type := MCRequest.maskVersion.type }
  | .mcGetPEIType => { type := MCRequest.peiType.type }
  | .mcReadADC channel count => { type := MCRequest.adcRead.type, args := [channel, count] }
  | .mcRead addr maxlen =>
      { type := MCRequest.read.type, args := uint16Bytes addr ++ lenBytes maxlen, maxlen }
  | .mcWrite addr buf =>
      { type := MCRequest.write.type, args := uint16Bytes addr ++ lenBytes buf.length, inbuf := buf }
  | .mcWritePlain addr buf =>
      { type := MCRequest.writeNoVerify.type, args := uint16Bytes addr ++ lenBytes buf.length,
        inbuf := buf }
  | .mcPropertyRead obj propertyno start nrOfElem maxlen =>
      { type := MCRequest.propRead.type,
        args := [obj, propertyno] ++ uint16Bytes start ++ [nrOfElem], maxlen }
  | .mcPropertyWrite obj propertyno start nrOfElem buf maxlen =>
      { type := MCRequest.propWrite.type,
        args := [obj, propertyno] ++ uint16Bytes start ++ [nrOfElem], inbuf := buf, maxlen }
  | .mcAuthorize key => { type := MCRequest.authorize.type, args := keyBytes key }
  | .mcSetKey key level => { type := MCRequest.keyWrite.type, args := keyBytes key ++ [level] }
  | .mcPropertyDesc obj propertyno => { type := MCRequest.propDesc.type, args := [obj, propertyno] }
  | .mcPropertyScan maxlen => { type := MCRequest.propScan.type, maxlen }
  | .mcRestart => { type := MCRequest.restart.type }

/-- `errno` behind a result of -1. -/
inductive Errno where
  | einval
  | econnreset
  | eperm
  | eio
  | ebusy
  | eaddrinuse
  | etimedout
  | eaddrnotavail
  | enodev
  | enoent
  deriving DecidableEq, Repr

namespace Request

variable (r : Request)

/-- The message. -/
def bytes : CArray := typed r.type (r.args ++ r.inbuf)

/-- `EIBC_READ_BUF`, and `_EIB_SendRequest`, which takes 2 to 0xffff bytes. -/
def send : Except Errno Message :=
  if r.maxlen < 0 then .error .einval
  else if h : 2 ≤ r.bytes.length ∧ r.bytes.length ≤ 65535 then .ok ⟨r.bytes, h.1, h.2⟩
  else .error .einval

end Request

/-! ## Completions -/

/-- What a call returns if it does not return -1, and what it stores for its caller: in the buffer
    and through the pointers `req.ptr1` to `req.ptr5`. -/
structure Answer where
  value : Int := 0
  buf : CArray := []
  ptr1 : Option Word16 := none
  ptr2 : Option Byte := none
  ptr3 : Option Byte := none
  ptr4 : Option Word16 := none
  ptr5 : Option EibAddr := none
  deriving DecidableEq, Repr

/-- What a call comes to. -/
abbrev CallOutcome := Except Errno Answer

/-- `EIBC_RETURN_OK`. -/
def returnOk (_ : CArray) : Checked CallOutcome := .ok (.ok {})

/-- `EIBC_RETURN_UINT8`. -/
def returnUInt8 (offset : Nat) (con : CArray) : Checked CallOutcome := do
  let b ← readByte con offset
  return .ok { value := b.toNat }

/-- The word at an offset. -/
def readWord (con : CArray) (offset : Nat) : Checked Word16 := do
  return word16 (← readByte con offset) (← readByte con (offset + 1))

/-- `EIBC_RETURN_UINT16`. -/
def returnUInt16 (offset : Nat) (con : CArray) : Checked CallOutcome := do
  return .ok { value := (← readWord con offset).toNat }

/-- `EIBC_RETURN_BUF`, behind the macros that have stored `a`. -/
def returnBuf (maxlen : Int) (offset : Nat) (a : Answer) (con : CArray) : Checked CallOutcome := do
  -- `con->size - offset` would be stored as a negative `int`
  check (offset ≤ con.length)
  let i := min (con.length - offset) maxlen.toNat
  return .ok { a with value := i, buf := (con.drop offset).take i }

/-- What `EIBC_COMPLETE` does: the types of `EIBC_RETURNERROR`, those of `EIBC_CHECKRESULT`, and the
    rest. -/
structure Completion where
  errors : List (Word16 × Errno) := []
  type : Word16
  size : Nat
  finish : CArray → Checked CallOutcome

/-- The macros behind `EIBC_GETREQUEST`, on the message `con`; each one has a type. -/
def Completion.complete (k : Completion) (con : CArray) : Checked CallOutcome :=
  match k.errors.find? (·.1 = reqWord con 0) with
  | some (_, errno) => .ok (.error errno)
  | none =>
      if reqWord con 0 ≠ k.type ∨ con.length < k.size then .ok (.error .econnreset)
      else k.finish con

/-- The rest of `EIB_Cache_Read` and `EIB_Cache_Read_Sync`. -/
def finishCacheRead (maxlen : Int) (con : CArray) : Checked CallOutcome := do
  let dst ← readWord con 4
  if dst = 0 then return .error .enodev
  else if con.length ≤ 6 then return .error .enoent
  else returnBuf maxlen 6 { ptr5 := some (← readWord con 2) } con

/-- The `_complete` functions. -/
def EIBCall.completion : EIBCall → Completion
  | .mReadIndividualAddresses maxlen =>
      { type := eibMIndividualAddressRead, size := 2, finish := returnBuf maxlen 2 {} }
  | .mProgmode _ _ => { type := eibProgMode, size := 2, finish := returnOk }
  | .mProgmodeStatus _ => { type := eibProgMode, size := 3, finish := returnUInt8 2 }
  | .mGetMaskVersion _ => { type := eibMaskVersion, size := 4, finish := returnUInt16 2 }
  | .mWriteIndividualAddress _ =>
      { errors := [(eibErrorAddrExists, .eaddrinuse), (eibErrorTimeout, .etimedout),
          (eibErrorMoreDevice, .eaddrnotavail)],
        type := eibMIndividualAddressWrite, size := 2, finish := returnOk }
  | .loadImage _ => { type := eibLoadImage, size := 4, finish := returnUInt16 2 }
  | .cacheEnable =>
      { errors := [(eibConnectionInuse, .ebusy)], type := eibCacheEnable, size := 2,
        finish := returnOk }
  | .cacheDisable => { type := eibCacheDisable, size := 2, finish := returnOk }
  | .cacheClear => { type := eibCacheClear, size := 2, finish := returnOk }
  | .cacheRemove _ => { type := eibCacheRemove, size := 2, finish := returnOk }
  | .cacheRead _ maxlen =>
      { type := eibCacheReadNowait, size := 2, finish := finishCacheRead maxlen }
  | .cacheReadSync _ maxlen _ =>
      { type := eibCacheRead, size := 2, finish := finishCacheRead maxlen }
  | .cacheLastUpdates _ _ maxlen =>
      { type := eibCacheLastUpdates, size := 2,
        finish := fun con => do returnBuf maxlen 4 { ptr4 := some (← readWord con 2) } con }
  | .reset => { type := eibResetConnection, size := 2, finish := returnOk }
  | .mcConnect _ => { type := eibMCConnection, size := 2, finish := returnOk }
  | .mcIndividualOpen _ => { type := eibMCIndividual, size := 2, finish := returnOk }
  | .mcProgmode _ => { type := MCRequest.progMode.type, size := 2, finish := returnOk }
  | .mcProgmodeStatus => { type := MCRequest.progMode.type, size := 3, finish := returnUInt8 2 }
  | .mcGetMaskVersion => { type := MCRequest.maskVersion.type, size := 4, finish := returnUInt16 2 }
  | .mcGetPEIType => { type := MCRequest.peiType.type, size := 4, finish := returnUInt16 2 }
  | .mcReadADC _ _ =>
      { type := MCRequest.adcRead.type, size := 4,
        finish := fun con => do return .ok { ptr1 := some (← readWord con 2) } }
  | .mcRead _ maxlen => { type := MCRequest.read.type, size := 2, finish := returnBuf maxlen 2 {} }
  | .mcWrite _ buf =>
      { errors := [(eibErrorVerify, .eio)], type := MCRequest.write.type, size := 2,
        finish := fun _ => .ok (.ok { value := buf.length }) }
  | .mcWritePlain _ buf =>
      { type := MCRequest.writeNoVerify.type, size := 2,
        finish := fun _ => .ok (.ok { value := buf.length }) }
  | .mcPropertyRead _ _ _ _ maxlen =>
      { type := MCRequest.propRead.type, size := 2, finish := returnBuf maxlen 2 {} }
  | .mcPropertyWrite _ _ _ _ _ maxlen =>
      { type := MCRequest.propWrite.type, size := 2, finish := returnBuf maxlen 2 {} }
  | .mcAuthorize _ => { type := MCRequest.authorize.type, size := 3, finish := returnUInt8 2 }
  | .mcSetKey _ _ =>
      { errors := [(eibProcessingError, .eperm)], type := MCRequest.keyWrite.type, size := 2,
        finish := returnOk }
  | .mcPropertyDesc _ _ =>
      { type := MCRequest.propDesc.type, size := 6,
        finish := fun con => do
          return .ok { ptr2 := some (← readByte con 2), ptr4 := some (← readWord con 3),
                       ptr3 := some (← readByte con 5) } }
  | .mcPropertyScan maxlen =>
      { type := MCRequest.propScan.type, size := 2, finish := returnBuf maxlen 2 {} }
  | .mcRestart => { type := MCRequest.restart.type, size := 2, finish := returnOk }

end BcuSdk.Eibd
