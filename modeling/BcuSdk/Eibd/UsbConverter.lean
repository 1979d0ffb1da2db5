/-
  BcuSdk.Eibd.UsbConverter

  EMI frames in the 64-byte reports of a USB interface
  (eibd/libserver/eibusb.h, eibusb.cpp).

  A report is a report header of three bytes, a transfer header of eight and
  the body.  Sender and receiver count differently: `Send_Packet` fills the
  body up to 53 bytes, `Get_Packet` compares the report length, which includes
  the transfer header, with 64 - 8.
-/
import BcuSdk.Eibd.Lpdu

namespace BcuSdk.Eibd

open BcuSdk.Lib

/-! ## The interface -/

/-- `LowLevelDriverInterface::EMIVer`. -/
inductive EMIVer where
  | vEMI1
  | vEMI2
  | vCEMI
  | vRaw
  deriving DecidableEq, Repr

/-- `USBConverterInterface`.  `initUSBDriver` creates none for raw frames. -/
structure USBConverterInterface where
  v : EMIVer
  supported : v ≠ .vRaw

/-- The choice of `initUSBDriver` by `r1[13]`, the versions the interface announces; `none` if it
    gives up. -/
def USBConverterInterface.ofFeatures (features : Byte) : Option USBConverterInterface :=
  if features &&& 0x2#8 ≠ 0#8 then some ⟨.vEMI2, by decide⟩
  else if features &&& 0x1#8 ≠ 0#8 then some ⟨.vEMI1, by decide⟩
  else if features &&& 0x4#8 ≠ 0#8 then some ⟨.vCEMI, by decide⟩
  else none

/-- Every version but raw frames is negotiated with some interface. -/
theorem USBConverterInterface.ofFeatures_surjective (s : USBConverterInterface) :
    ∃ features, ofFeatures features = some s := by
  obtain ⟨v, hv⟩ := s
  match v, hv with
  | .vEMI1, _ => exact ⟨0x1#8, rfl⟩
  | .vEMI2, _ => exact ⟨0x2#8, rfl⟩
  | .vCEMI, _ => exact ⟨0x4#8, rfl⟩

namespace USBConverterInterface

variable (s : USBConverterInterface)

/-! ## Sending -/

/-- `out[8]` of `Send_Packet`. -/
def versionByte : Checked Byte :=
  match s.v with
  | .vEMI1 => .ok 0x01#8
  | .vEMI2 => .ok 0x02#8
  | .vCEMI => .ok 0x03#8
  | .vRaw => .error .assertion

/-- `l1` of `Send_Packet`: a longer frame is cut to what fits the report. -/
def bodyLength (l : CArray) : Nat := if l.length + 11 > 64 then 64 - 11 else l.length

/-- `USBConverterInterface::Send_Packet`: the report passed to the driver. -/
def sendPacket (l : CArray) : Checked CArray := do
  let l1 := bodyLength l
  let version ← s.versionByte
  -- the report header, the transfer header, and the body filled up with zeros
  return [0x01#8, 0x13#8, BitVec.ofNat 8 (l1 + 8), 0x00#8, 0x08#8, 0x00#8, BitVec.ofNat 8 l1,
    0x01#8, version, 0x00#8, 0x00#8] ++ l.take l1 ++ List.replicate (64 - 11 - l1) 0x00#8

/-! ## Receiving -/

/-- The `switch (v)` of `Get_Packet`. -/
def acceptsVersion (b : Byte) : Bool :=
  match s.v with
  | .vEMI1 => b = 1#8
  | .vEMI2 => b = 2#8
  | .vCEMI => b = 3#8
  | .vRaw => false

/-- `USBConverterInterface::Get_Packet` on a report the driver received; `none` is the null
    pointer. -/
def getPacket (res : CArray) : Checked (Option CArray) := do
  if res.length ≠ 64 then
    return none
  else if (← readByte res 0) ≠ 0x01#8 then
    return none
  else if (← readByte res 1) &&& 0x0f#8 ≠ 3#8 then
    return none
  -- `out[2]` of the sender is the length of the body and the transfer header
  else if (← readByte res 2).toNat > 64 - 8 then
    return none
  else if (← readByte res 3) ≠ 0#8 then
    return none
  else if (← readByte res 4) ≠ 8#8 then
    return none
  else if (← readByte res 5) ≠ 0#8 then
    return none
  else if (← readByte res 6).toNat + 11 > 64 then
    return none
  else if (← readByte res 7) ≠ 1#8 then
    return none
  else if !s.acceptsVersion (← readByte res 8) then
    return none
  else
    return some (← readSlice res 11 (← readByte res 6).toNat)

/-! ## A sent report at the receiver -/

theorem versionByte_accepted :
    ∃ version, s.versionByte = .ok version ∧ s.acceptsVersion version = true := by
  obtain ⟨v, hv⟩ := s
  match v, hv with
  | .vEMI1, _ => exact ⟨0x01#8, rfl, rfl⟩
  | .vEMI2, _ => exact ⟨0x02#8, rfl, rfl⟩
  | .vCEMI, _ => exact ⟨0x03#8, rfl, rfl⟩

theorem bodyLength_le (l : CArray) : bodyLength l ≤ 53 ∧ bodyLength l ≤ l.length := by
  unfold bodyLength
  split <;> omega

/-- Every frame gives a report, and the receiver drops the report if the body has more than
    48 bytes. -/
theorem getPacket_sendPacket (l : CArray) :
    ∃ report, s.sendPacket l = .ok report ∧
      s.getPacket report = .ok (if l.length ≤ 48 then some l else none) := by
  obtain ⟨version, hversion, haccepts⟩ := s.versionByte_accepted
  obtain ⟨h53, hle⟩ := bodyLength_le l
  refine ⟨_, by rw [sendPacket, hversion]; rfl, ?_⟩
  rw [List.append_assoc]
  generalize hbody : l.take (bodyLength l) ++ List.replicate (64 - 11 - bodyLength l) 0x00#8 = body
  have hlen : body.length = 53 := by
    rw [← hbody, List.length_append, List.length_take, List.length_replicate]
    omega
  have htake : body.take (bodyLength l) = l.take (bodyLength l) := by
    rw [← hbody, List.take_left' (by rw [List.length_take]; omega)]
  have h2 : (BitVec.ofNat 8 (bodyLength l + 8)).toNat = bodyLength l + 8 :=
    toNat_ofNat_byte (by omega)
  have h6 : (BitVec.ofNat 8 (bodyLength l)).toNat = bodyLength l := toNat_ofNat_byte (by omega)
  by_cases h48 : l.length ≤ 48
  · have hall : bodyLength l = l.length := if_neg (by omega)
    rw [hall] at h2 h6 htake ⊢
    have h56 : ¬ l.length + 8 > 64 - 8 := by omega
    have h64 : ¬ l.length + 11 > 64 := by omega
    have hfits : 11 + l.length ≤ 64 := by omega
    simp [getPacket, haccepts, hlen, htake, h2, h6, h48, h56, h64, readSlice, hfits]
  · -- the length byte counts the transfer header, too
    have h56 : bodyLength l + 8 > 64 - 8 := by
      unfold bodyLength
      split <;> omega
    simp [getPacket, hlen, h2, h48]
    omega

/-! ## The round trip -/

/-- The receiver gets back the frame that was sent. -/
def RoundTrip (l : CArray) : Prop :=
  ∃ report, s.sendPacket l = .ok report ∧ s.getPacket report = .ok (some l)

/-- The round trip works up to 48 bytes, although 53 fit the report. -/
theorem roundTrip_iff (l : CArray) : s.RoundTrip l ↔ l.length ≤ 48 := by
  obtain ⟨report, hsend, hget⟩ := s.getPacket_sendPacket l
  constructor
  · rintro ⟨report', hsend', hget'⟩
    obtain rfl : report = report' := Except.ok.inj (hsend.symm.trans hsend')
    by_contra h48
    rw [if_neg h48, hget'] at hget
    cases hget
  · intro h48
    rw [if_pos h48] at hget
    exact ⟨report, hsend, hget⟩

/-- 49 bytes are sent with report length 57, which the receiver refuses. -/
theorem roundTrip_fails_49 :
    let s : USBConverterInterface := ⟨.vEMI1, by decide⟩
    let l : CArray := List.replicate 49 0x00#8
    l.length ≤ 53 ∧ (∃ report, s.sendPacket l = .ok report ∧ s.getPacket report = .ok none) ∧
      ¬ s.RoundTrip l := by
  intro s l
  have hsend : s.sendPacket l = .ok ([0x01#8, 0x13#8, 0x39#8, 0x00#8, 0x08#8, 0x00#8, 0x31#8,
    0x01#8, 0x01#8, 0x00#8, 0x00#8] ++ List.replicate 53 0x00#8) := by decide
  have hdrop : s.getPacket ([0x01#8, 0x13#8, 0x39#8, 0x00#8, 0x08#8, 0x00#8, 0x31#8,
    0x01#8, 0x01#8, 0x00#8, 0x00#8] ++ List.replicate 53 0x00#8) = .ok none := by decide
  refine ⟨by decide, ⟨_, hsend, hdrop⟩, ?_⟩
  rintro ⟨report, hreport, hget⟩
  rw [hsend] at hreport
  cases hreport
  rw [hdrop] at hget
  cases hget

end USBConverterInterface

end BcuSdk.Eibd
