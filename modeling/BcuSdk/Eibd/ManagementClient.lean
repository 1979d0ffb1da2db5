/-
  BcuSdk.Eibd.ManagementClient

  `LoadImage` (eibd/libserver/managementclient.cpp): the download of an image
  that a client has submitted.

  The device at the other end is arbitrary.  Each call to it may fail, which
  ends the download with the result that `r` holds at this point; each copy
  out of the code is a checked read.
-/
import BcuSdk.Common.LoadImage
import BcuSdk.Eibd.Connection

namespace BcuSdk.Eibd

open BcuSdk.Lib BcuSdk.Common

/-- The image in a message. -/
def Message.image (m : Message) : CArray := m.bytes.drop 2

/-- The calls of a `Management_Connection` that `LoadImage` makes, to a device with states `σ`;
    `none` and `false` are failures. -/
structure ManagementConnection (σ : Type) where
  init : σ → Bool × σ
  deviceDescriptorRead : σ → Option Word16 × σ
  memoryWriteBlock : Word16 → CArray → σ → Bool × σ
  authorize : Word32 → σ → Option Byte × σ
  keyWrite : Word32 → Byte → σ → Option Byte × σ
  propertyWrite : Byte → Byte → Word16 → Byte → CArray → σ → Option CArray × σ
  restart : σ → Unit × σ

/-- A part of the download, which may `goto out` with a result. -/
abbrev Download (σ : Type) := ExceptT BCULoadResult (StateT σ Checked)

namespace Download

variable {σ α : Type}

/-- A call of the device. -/
def call (f : σ → α × σ) : Download σ α := fun s => .ok (.ok (f s).1, (f s).2)

/-- A read of the code. -/
def copy (x : Checked α) : Download σ α := fun s => x.map fun a => (.ok a, s)

end Download

namespace ManagementConnection

variable {σ : Type} (m : ManagementConnection σ)

/-- `if (m.X_Memory_Write_Block (addr, data) != 0) goto out;` -/
def writeBlock (r : BCULoadResult) (addr : Word16) (data : CArray) : Download σ Unit := do
  unless ← .call (m.memoryWriteBlock addr data) do throw r

/-- `CArray (i->code.array () + start, len)`, written to the device. -/
def writeCode (r : BCULoadResult) (addr : Word16) (code : CArray) (start len : Nat) :
    Download σ Unit := do
  m.writeBlock r addr (← .copy (readSlice code start len))

/-- The download to a BCU 1. -/
def loadBCU1 (maskver : Word16) (i : BCUImage) : Download σ Unit := do
  if maskver ≠ 0x0012#16 then throw .wrongMaskVersion
  m.writeBlock .clearError 0x010d#16 [0x00#8]
  m.writeBlock .resetAddrTab 0x0116#16 [0x01#8]
  m.writeBlock .loadHeader 0x0100#16 [0xff#8]
  m.writeCode .loadHeader 0x0103#16 i.code 0x03 10
  m.writeCode .loadHeader 0x010e#16 i.code 0x0e 8
  -- the difference is an `unsigned`
  m.writeCode .loadMain 0x0119#16 i.code 0x19 (BitVec.ofNat 32 i.code.length - 0x19#32).toNat
  m.writeCode .loadMain 0x0100#16 i.code 0x00 1
  m.writeBlock .zeroRam 0x00ce#16 (List.replicate 18 0#8)
  m.writeCode .finalizeAddrTab 0x0116#16 i.code 0x16 1
  m.writeBlock .prepareRun 0x010d#16 [0xff#8]
  .call m.restart

/-- One round of the loop that writes the keys. -/
def writeKey (keys : List Word32) (j : Nat) : Download σ Unit := do
  let key ← .copy (match keys[j]? with
    | some key => .ok key
    | none => .error .outOfBounds)
  let some level ← .call (m.keyWrite key (BitVec.ofNat 8 j)) | throw .keyWrite
  if j ≠ level.toNat then throw .keyWrite

/-- `i->code.array () + memaddr - 0x100`, `len` bytes from there on. -/
def codeAt (code : CArray) (memaddr len : Word16) : Checked CArray :=
  if memaddr.toNat < 0x100 then .error .outOfBounds
  else readSlice code (memaddr.toNat - 0x100) len.toNat

/-- The write of a property that belongs to a load request; object 0xff has none. -/
def loadProperty (e : EIBLoadRequest) : Download σ Unit := do
  if e.obj = 0xff#8 then return
  let some erg ← .call (m.propertyWrite e.obj e.prop e.start 1#8 e.req) | throw e.error
  if erg ≠ e.result then throw e.error

/-- The write to memory that belongs to a load request; the address 0xffff stands for none. -/
def loadMemory (code : CArray) (e : EIBLoadRequest) : Download σ Unit := do
  if e.memaddr = 0xffff#16 then return
  m.writeBlock e.error e.memaddr (← .copy (codeAt code e.memaddr e.len))

/-- One round of the loop over the load requests. -/
def loadRequest (code : CArray) (e : EIBLoadRequest) : Download σ Unit := do
  m.loadProperty e
  m.loadMemory code e

/-- The download to a BCU 2 with the given mask version. -/
def loadBCU2 (expected maskver : Word16) (i : BCUImage) : Download σ Unit := do
  if maskver ≠ expected then throw .wrongMaskVersion
  let some level ← .call (m.authorize i.installkey) | throw .authorizationFailed
  if level ≠ 0#8 then throw .authorizationFailed
  [0, 1, 2].forM (m.writeKey i.keys)
  i.load.forM (m.loadRequest i.code)
  .call m.restart

/-- `LoadImage` behind `PrepareLoadImage`. -/
def load (i : BCUImage) : Download σ Unit := do
  unless ← .call m.init do throw .noDeviceConnection
  let some maskver ← .call m.deviceDescriptorRead | throw .maskReadFailed
  match i.bcuType with
  | .bcu1 => m.loadBCU1 maskver i
  | .bcu20 => m.loadBCU2 0x0020#16 maskver i
  | .bcu21 => m.loadBCU2 0x0021#16 maskver i

/-- The result that `LoadImage` reports to the client. -/
def loadImage (i : BCUImage) (s : σ) : Checked (BCULoadResult × σ) := do
  let (r, s) ← m.load i s
  match r with
  | .ok () => return (.loaded, s)
  | .error r => return (r, s)

end ManagementConnection

end BcuSdk.Eibd
