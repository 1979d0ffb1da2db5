/-
  BcuSdk.Eibd.Emi

  The external message interface (eibd/libserver/emi.h, emi.cpp): cEMI and
  EMI1/2 frames to and from `L_Data_PDU` and `L_Busmonitor_PDU`.

  A cEMI frame is a message code, a length byte, that many bytes of additional
  information, two control bytes, source, destination, a length byte and one
  more payload byte than it says.
-/
import BcuSdk.Eibd.Lpdu

namespace BcuSdk.Eibd

open BcuSdk.Lib

/-! ## cEMI -/

/-- The assertions at the head of `L_Data_ToCEMI`. -/
def LDataPDU.checkCEMI (l : LDataPDU) : Checked Unit := do
  check (l.data.length ≥ 1)
  check (l.data.length < 0xff)
  check (l.hopcount &&& 0xf8#8 = 0#8)

/-- The bytes `L_Data_ToCEMI` writes. -/
def LDataPDU.cemiBytes (code : Byte) (l : LDataPDU) : CArray :=
  [code, 0x00#8,
    (0x10#8 ||| (l.prio.code <<< 2) ||| (if l.data.length - 1 ≤ 0x0f then 0x80#8 else 0x00#8)) |||
      (if code = 0x29#8 then repeatFlag l.repeated else 0x20#8),
    l.addrType.flag ||| ((l.hopcount &&& 0x07#8) <<< 4) ||| 0x0#8,
    hiByte l.source, loByte l.source, hiByte l.dest, loByte l.dest,
    BitVec.ofNat 8 (l.data.length - 1)] ++ l.data

/-- `L_Data_ToCEMI`. -/
def lDataToCEMI (code : Byte) (l : LDataPDU) : Checked CArray := do
  l.checkCEMI
  return l.cemiBytes code

/-- `!data[start] & 0x80 && data[start + 1] & 0x0f`.  The `!` binds tighter than the
    `&`, so the left operand is `0` or `1` masked with `0x80`. -/
def cemiRejectsControl (c1 c2 : Byte) : Bool :=
  (if c1 = 0#8 then 1#8 else 0#8) &&& 0x80#8 ≠ 0#8 ∧ c2 &&& 0x0f#8 ≠ 0#8

/-- `CEMI_to_L_Data`; `none` is the null pointer. -/
def cemiToLData (data : CArray) : Checked (Option LDataPDU) := do
  if data.length < 2 then
    return none
  else
    -- behind the additional information, of which `data[1]` is the length
    let start := (← readByte data 1).toNat + 2
    if data.length < 7 + start then
      return none
    else if data.length < 7 + start + (← readByte data (6 + start)).toNat + 1 then
      return none
    else
      let source := word16 (← readByte data (start + 2)) (← readByte data (start + 3))
      let dest := word16 (← readByte data (start + 4)) (← readByte data (start + 5))
      let payload ← readSlice data (start + 7) ((← readByte data (6 + start)).toNat + 1)
      let code ← readByte data 0
      let c1 ← readByte data start
      let c2 ← readByte data (start + 1)
      if cemiRejectsControl c1 c2 then
        return none
      else
        return some
          { source, dest, data := payload
            -- only an indication says whether it is a repetition
            repeated := code = 0x29#8 ∧ c1 &&& 0x20#8 = 0#8
            prio := .ofControl c1
            hopcount := (c2 >>> 4) &&& 0x07#8
            addrType := .ofFlag c2 }

/-- `CEMI_to_Busmonitor`. -/
def cemiToBusmonitor (data : CArray) : Checked (Option LBusmonitorPDU) := do
  if data.length < 2 then
    return none
  else
    let start := (← readByte data 1).toNat + 2
    if data.length < 1 + start then
      return none
    else
      let pdu ← readSlice data start (data.length - start)
      return some { pdu }

/-- `Busmonitor_to_CEMI`; `no` is the running frame number. -/
def busmonitorToCEMI (code : Byte) (p : LBusmonitorPDU) (no : Nat) : CArray :=
  [code, 4#8, 3#8, 1#8, 1#8, BitVec.ofNat 8 no &&& 0x7#8] ++ p.pdu

/-! ## EMI1 and EMI2 -/

/-- `L_Data_ToEMI`. -/
def lDataToEMI (code : Byte) (l : LDataPDU) : CArray :=
  [code, l.prio.code <<< 2, 0#8, 0#8, hiByte l.dest, loByte l.dest,
    ((l.hopcount &&& 0x07#8) <<< 4) ||| ((BitVec.ofNat 8 l.data.length - 1#8) &&& 0x0f#8) |||
      l.addrType.flag] ++ l.data

/-- `EMI_to_L_Data`.  A length nibble that runs past the end is cut to what is there. -/
def emiToLData (data : CArray) : Checked (Option LDataPDU) := do
  if data.length < 8 then
    return none
  else
    let source := word16 (← readByte data 2) (← readByte data 3)
    let dest := word16 (← readByte data 4) (← readByte data 5)
    let c1 ← readByte data 1
    let c6 ← readByte data 6
    -- the nibble does not count the byte with the TPCI
    let len := (c6 &&& 0x0f#8).toNat + 1
    let payload ← readSlice data 7 (if len > data.length - 7 then data.length - 7 else len)
    return some
      { source, dest, data := payload
        prio := .ofControl c1
        addrType := .ofFlag c6
        hopcount := (c6 >>> 4) &&& 0x07#8 }

/-! ## When the encoder returns -/

/-- What the assertions at the head of `L_Data_ToCEMI` ask for. -/
structure LDataPDU.CEMIEncodable (l : LDataPDU) : Prop where
  nonempty : 1 ≤ l.data.length
  fits : l.data.length < 0xff
  hops : l.hopcount &&& 0xf8#8 = 0#8

theorem LDataPDU.checkCEMI_eq_ok {l : LDataPDU} {u : Unit} :
    l.checkCEMI = .ok u ↔ l.CEMIEncodable := by
  simp only [checkCEMI, Checked.bind_eq_ok, check_eq_ok, exists_const]
  exact ⟨fun ⟨h1, h2, h3⟩ => ⟨h1, h2, h3⟩, fun h => ⟨h.nonempty, h.fits, h.hops⟩⟩

theorem lDataToCEMI_eq_ok {code : Byte} {l : LDataPDU} {c : CArray} :
    lDataToCEMI code l = .ok c ↔ l.CEMIEncodable ∧ l.cemiBytes code = c := by
  simp [lDataToCEMI, Checked.bind_eq_ok, LDataPDU.checkCEMI_eq_ok]

/-- `L_Data_ToCEMI` returns exactly on the frames its assertions admit. -/
theorem lDataToCEMI_returns_iff {code : Byte} {l : LDataPDU} :
    (lDataToCEMI code l).Returns ↔ l.CEMIEncodable := by
  simp [Checked.Returns, lDataToCEMI_eq_ok]

/-- What goes into a cEMI frame also goes into a TP1 frame. -/
theorem LDataPDU.CEMIEncodable.encodable {l : LDataPDU} (h : l.CEMIEncodable) : l.Encodable :=
  ⟨h.nonempty, Nat.le_of_lt h.fits, h.hops⟩

/-- The precedence slip: the control byte test never rejects. -/
@[simp] theorem cemiRejectsControl_eq_false (c1 c2 : Byte) : cemiRejectsControl c1 c2 = false := by
  have hmask : (if c1 = 0#8 then 1#8 else 0#8) &&& 0x80#8 = 0#8 := by split <;> decide
  simp [cemiRejectsControl, hmask]

end BcuSdk.Eibd
