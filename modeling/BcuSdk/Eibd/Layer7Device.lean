/-
  BcuSdk.Eibd.Layer7Device

  A `Layer7_Connection` (eibd/libserver/layer7.cpp) with the device at its
  other end, which keeps a state of its own and answers as it likes.

  The connection notes the calls that waited for an answer, with their results,
  and the services sent without waiting for one.
-/
import BcuSdk.Eibd.Layer7
import BcuSdk.Lib.Memory

namespace BcuSdk.Eibd

open BcuSdk.Lib

/-- What is at the other end, Layer 4 included. -/
structure Device (σ : Type) where
  /-- What `l4->Get` returns behind a packet before the timer has run out, if something. -/
  answer : σ → CArray → σ × Option CArray
  /-- A packet is sent for whose answer nobody waits. -/
  receive : σ → CArray → σ

/-- A use of the connection. -/
inductive Service where
  | call (k : Layer7Call) (result : Option Layer7Result)
  | send (r : APDU)
  deriving DecidableEq, Repr

/-- `Layer7_Connection`. -/
structure Layer7Connection (σ : Type) where
  device : σ
  services : List Service := []

/-- Without an answer a call fails. -/
theorem Layer7Call.perform_none (unset : Byte × Byte) (k : Layer7Call) :
    k.perform unset none = .ok (k.request.bytes unset, none) := by
  have hsent : k.request.toPacket unset = .ok (k.request.bytes unset) :=
    APDU.toPacket_eq_ok.mpr ⟨k.request_asserts, rfl⟩
  rw [perform, requestResponse, hsent]
  rfl

namespace Layer7Connection

variable {σ : Type} (d : Device σ) (unset : Byte × Byte)

/-- A call that waits for its answer; `none` is the result -1. -/
def call (l : Layer7Connection σ) (k : Layer7Call) :
    Checked (Layer7Connection σ × Option Layer7Result) := do
  let (device, c) := d.answer l.device (← k.request.toPacket unset)
  let (_, result) ← k.perform unset c
  return ({ device, services := l.services ++ [.call k result] }, result)

/-- `l4->Send`. -/
def send (l : Layer7Connection σ) (r : APDU) : Checked (Layer7Connection σ) := do
  let device := d.receive l.device (← r.toPacket unset)
  return { device, services := l.services ++ [.send r] }

/-- What a call stores in `erg` or `data`. -/
def ergOf : Option Layer7Result → Option CArray
  | some (.erg data) => some data
  | _ => none

/-- What `A_Property_Desc` stores: type, number of elements, access and property. -/
def descriptionOf : Option Layer7Result → Option (Byte × Word16 × Byte × Byte)
  | some (.description type count access property) => some (type, count, access, property)
  | _ => none

theorem ergOf_eq_some {result : Option Layer7Result} {data : CArray} :
    ergOf result = some data ↔ result = some (.erg data) := by
  rcases result with _ | r
  · simp [ergOf]
  · cases r <;> simp [ergOf]

/-- What `A_Device_Descriptor_Read` stores in `maskver`. -/
def maskverOf : Option Layer7Result → Option Word16
  | some (.maskver v) => some v
  | _ => none

/-- What `A_ADC_Read` stores in `value`. -/
def valueOf : Option Layer7Result → Option Word16
  | some (.value v) => some v
  | _ => none

/-- What `A_Authorize` and `A_KeyWrite` store in `level`. -/
def levelOf : Option Layer7Result → Option Byte
  | some (.level v) => some v
  | _ => none

/-- `A_Memory_Read`. -/
def aMemoryRead (l : Layer7Connection σ) (addr : MemAddr) (len : Byte) :
    Checked (Layer7Connection σ × Option CArray) := do
  let (l, result) ← l.call d unset (.aMemoryRead addr len)
  return (l, ergOf result)

/-- `A_Property_Read`. -/
def aPropertyRead (l : Layer7Connection σ) (obj propertyid : Byte) (start : Word16)
    (count : Byte) : Checked (Layer7Connection σ × Option CArray) := do
  let (l, result) ← l.call d unset (.aPropertyRead obj propertyid start count)
  return (l, ergOf result)

/-- `A_Property_Desc`. -/
def aPropertyDesc (l : Layer7Connection σ) (obj property propertyIndex : Byte) :
    Checked (Layer7Connection σ × Option (Byte × Word16 × Byte × Byte)) := do
  let (l, result) ← l.call d unset (.aPropertyDesc obj property propertyIndex)
  return (l, descriptionOf result)

/-- `A_Memory_Write`, which always returns 0. -/
def aMemoryWrite (l : Layer7Connection σ) (addr : MemAddr) (data : CArray) :
    Checked (Layer7Connection σ) :=
  l.send d unset (.aMemoryWrite (BitVec.ofNat 8 data.length &&& 0x0f#8) addr
    (data.take (BitVec.ofNat 8 data.length &&& 0x0f#8).toNat))

/-- Every call returns: the device gets the request, and the result is that of `perform` on what
    comes back. -/
theorem call_eq (l : Layer7Connection σ) (k : Layer7Call) :
    ∃ sent result, k.perform unset (d.answer l.device (k.request.bytes unset)).2 =
        .ok (sent, result) ∧
      l.call d unset k = .ok ({
        device := (d.answer l.device (k.request.bytes unset)).1
        services := l.services ++ [.call k result] }, result) := by
  have hsent : k.request.toPacket unset = .ok (k.request.bytes unset) :=
    APDU.toPacket_eq_ok.mpr ⟨k.request_asserts, rfl⟩
  rcases hanswer : d.answer l.device (k.request.bytes unset) with ⟨device, c⟩
  obtain ⟨⟨sent, result⟩, hperform⟩ := k.perform_returns unset c
  refine ⟨sent, result, hperform, ?_⟩
  simp only [call, hsent, Checked.ok_bind, hanswer, hperform, Checked.pure_eq_ok]

/-! ## Calls that return -/

/-- The result of an operation that reaches its end, and the connection afterwards. -/
def total {α : Type} (x : Checked (Layer7Connection σ × α)) (hx : x.Returns) :
    α × Layer7Connection σ :=
  (x.get hx).swap

theorem total_of_ok {α : Type} {x : Checked (Layer7Connection σ × α)} {l : Layer7Connection σ}
    {a : α} (h : x = .ok (l, a)) (hx : x.Returns) : total x hx = (a, l) := by
  rw [total, Checked.get_eq_of_ok h]
  rfl

theorem call_returns (l : Layer7Connection σ) (k : Layer7Call) : (l.call d unset k).Returns := by
  obtain ⟨sent, result, -, hcall⟩ := call_eq d unset l k
  exact ⟨_, hcall⟩

/-- A call that waits for its answer; `read` takes out of the result what it stores. -/
def ask {α : Type} (read : Option Layer7Result → Option α) (k : Layer7Call)
    (l : Layer7Connection σ) : Option α × Layer7Connection σ :=
  let r := total (l.call d unset k) (call_returns d unset l k)
  (read r.1, r.2)

/-- A call gets what `perform` makes of the device's answer. -/
theorem ask_eq {α : Type} (read : Option Layer7Result → Option α) (k : Layer7Call)
    (l : Layer7Connection σ) :
    ∃ sent result, k.perform unset (d.answer l.device (k.request.bytes unset)).2 =
        .ok (sent, result) ∧
      ask d unset read k l = (read result, {
        device := (d.answer l.device (k.request.bytes unset)).1
        services := l.services ++ [.call k result] }) := by
  obtain ⟨sent, result, hperform, hcall⟩ := call_eq d unset l k
  exact ⟨sent, result, hperform, by rw [ask, total_of_ok hcall]⟩

/-- `A_Restart`. -/
def aRestart (l : Layer7Connection σ) : Layer7Connection σ :=
  (l.send d unset .aRestart).get ⟨_, rfl⟩

/-! ## The calls with their requests -/

theorem aMemoryRead_eq (l : Layer7Connection σ) (addr : MemAddr) (len : Byte) :
    ∃ sent result,
      (Layer7Call.aMemoryRead addr len).perform unset
        (d.answer l.device ((Layer7Call.aMemoryRead addr len).request.bytes unset)).2 =
          .ok (sent, result) ∧
      l.aMemoryRead d unset addr len = .ok ({
        device := (d.answer l.device ((Layer7Call.aMemoryRead addr len).request.bytes unset)).1
        services := l.services ++ [.call (.aMemoryRead addr len) result] }, ergOf result) := by
  obtain ⟨sent, result, hperform, hcall⟩ := call_eq d unset l (.aMemoryRead addr len)
  exact ⟨sent, result, hperform, by rw [aMemoryRead, hcall]; rfl⟩

theorem aPropertyRead_eq (l : Layer7Connection σ) (obj propertyid : Byte) (start : Word16)
    (count : Byte) :
    ∃ device result, l.aPropertyRead d unset obj propertyid start count = .ok ({
      device, services := l.services ++ [.call (.aPropertyRead obj propertyid start count) result] },
      ergOf result) := by
  obtain ⟨sent, result, -, hcall⟩ :=
    call_eq d unset l (.aPropertyRead obj propertyid start count)
  exact ⟨_, result, by rw [aPropertyRead, hcall]; rfl⟩

theorem aPropertyDesc_eq (l : Layer7Connection σ) (obj property propertyIndex : Byte) :
    ∃ sent result,
      (Layer7Call.aPropertyDesc obj property propertyIndex).perform unset
        (d.answer l.device
          ((Layer7Call.aPropertyDesc obj property propertyIndex).request.bytes unset)).2 =
          .ok (sent, result) ∧
      l.aPropertyDesc d unset obj property propertyIndex = .ok ({
        device := (d.answer l.device
          ((Layer7Call.aPropertyDesc obj property propertyIndex).request.bytes unset)).1
        services := l.services ++ [.call (.aPropertyDesc obj property propertyIndex) result] },
        descriptionOf result) := by
  obtain ⟨sent, result, hperform, hcall⟩ :=
    call_eq d unset l (.aPropertyDesc obj property propertyIndex)
  exact ⟨sent, result, hperform, by rw [aPropertyDesc, hcall]; rfl⟩

/-- Up to 15 bytes are written as they are. -/
theorem aMemoryWrite_eq (l : Layer7Connection σ) (addr : MemAddr) {data : CArray}
    (h : data.length ≤ 15) :
    l.aMemoryWrite d unset addr data = .ok {
      device := d.receive l.device
        ((APDU.aMemoryWrite (BitVec.ofNat 8 data.length) addr data).bytes unset)
      services := l.services ++ [.send (.aMemoryWrite (BitVec.ofNat 8 data.length) addr data)] } := by
  have hmask : ∀ n ≤ 15, BitVec.ofNat 8 n &&& 0x0f#8 = BitVec.ofNat 8 n ∧
      BitVec.ofNat 8 n &&& 0xf0#8 = 0#8 ∧ (BitVec.ofNat 8 n).toNat = n := by decide
  obtain ⟨hlow, hhigh, hnat⟩ := hmask data.length h
  have hsent : (APDU.aMemoryWrite (BitVec.ofNat 8 data.length) addr data).toPacket unset =
      .ok ((APDU.aMemoryWrite (BitVec.ofNat 8 data.length) addr data).bytes unset) :=
    APDU.toPacket_eq_ok.mpr ⟨by simp [APDU.asserts, hhigh, hnat], rfl⟩
  rw [aMemoryWrite, hlow, hnat, List.take_length, send, hsent]
  rfl

end Layer7Connection

end BcuSdk.Eibd
