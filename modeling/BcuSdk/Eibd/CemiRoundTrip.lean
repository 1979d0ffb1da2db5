/-
  BcuSdk.Eibd.CemiRoundTrip

  cEMI frames through the decoder and back: what a forwarded frame keeps, and
  how the frames `CEMI_to_L_Data` accepts compare with those of
  `L_Data_PDU::init`.

  `cemiFields` reads the fields of a frame by position.  `cemiFields_cemiBytes`
  and `cemiFields_of_decoded` say what the encoder and the decoder do to each
  of them; forwarding is the two put together.
-/
import BcuSdk.Eibd.CemiDecode

namespace BcuSdk.Eibd

open BcuSdk.Lib

/-! ## The fields of a cEMI frame -/

/-- The fields as they stand in the frame, not yet interpreted. -/
structure CEMIFields where
  repeatBit : Byte
  priority : Byte
  addrBit : Byte
  hops : Byte
  source : Word16
  dest : Word16
  payload : CArray
  deriving DecidableEq

def cemiFields (data : CArray) : CEMIFields where
  repeatBit := cemiControl1 data &&& 0x20#8
  priority := cemiPriorityBits data
  addrBit := cemiControl2 data &&& 0x80#8
  hops := (cemiControl2 data >>> 4) &&& 0x07#8
  source := word16 (data.getD (cemiStart data + 2) 0#8) (data.getD (cemiStart data + 3) 0#8)
  dest := word16 (data.getD (cemiStart data + 4) 0#8) (data.getD (cemiStart data + 5) 0#8)
  payload := cemiPayload data

/-! ## Single fields -/

theorem flag_ofFlag (c : Byte) : (EIBAddrType.ofFlag c).flag = c &&& 0x80#8 := by
  have hbit : c &&& 0x80#8 = 0#8 ∨ c &&& 0x80#8 = 0x80#8 := and_twoPow_cases c 7
  rcases hbit with h | h
  · rw [EIBAddrType.ofFlag, if_neg (not_not.mpr h), h, EIBAddrType.flag]
  · have hne : c &&& 0x80#8 ≠ 0#8 := fun h0 => absurd (h.symm.trans h0) (by decide)
    rw [EIBAddrType.ofFlag, if_pos hne, h, EIBAddrType.flag]

theorem repeatFlag_and_20 (c : Byte) : repeatFlag (c &&& 0x20#8 = 0#8) = c &&& 0x20#8 := by
  have hbit : c &&& 0x20#8 = 0#8 ∨ c &&& 0x20#8 = 0x20#8 := and_twoPow_cases c 5
  rcases hbit with h | h
  · rw [h]
    rfl
  · rw [h]
    rfl

theorem shift_and_f8 (c : Byte) : ((c >>> 4) &&& 0x07#8) &&& 0xf8#8 = 0#8 := by
  rw [BitVec.and_assoc]
  exact BitVec.and_zero

/-- The encoder's table undoes the decoder's on the codes 0 and 3 only. -/
theorem EIBPriority.code_ofControl_iff (c : Byte) :
    (EIBPriority.ofControl c).code = (c >>> 2) &&& 0x3#8 ↔
      (c >>> 2) &&& 0x3#8 = 0#8 ∨ (c >>> 2) &&& 0x3#8 = 3#8 := by
  unfold ofControl
  have hsmall : ((c >>> 2) &&& 0x3#8).toNat < 4 := Nat.lt_succ_of_le (toNat_and_le _ 0x3#8)
  generalize (c >>> 2) &&& 0x3#8 = x at hsmall
  have hcodes : x = 0#8 ∨ x = 1#8 ∨ x = 2#8 ∨ x = 3#8 :=
    of_toNat_lt (p := fun x => x = 0#8 ∨ x = 1#8 ∨ x = 2#8 ∨ x = 3#8) (n := 4) (by decide) hsmall
  rcases hcodes with rfl | rfl | rfl | rfl
  · decide
  · decide
  · decide
  · decide

/-- First control byte of an encoded `L_Data.ind`. -/
def cemiControlByte (fmt : Byte) (p : EIBPriority) (repeated : Bool) : Byte :=
  (0x10#8 ||| (p.code <<< 2) ||| fmt) ||| repeatFlag repeated

section ControlByte

variable {fmt : Byte} (hfmt : fmt = 0x80#8 ∨ fmt = 0x00#8) (p : EIBPriority) (r : Bool)
include hfmt

theorem cemiControlByte_and_20 : cemiControlByte fmt p r &&& 0x20#8 = repeatFlag r := by
  rcases hfmt with rfl | rfl <;> cases p <;> cases r <;> decide

theorem cemiControlByte_priority : (cemiControlByte fmt p r >>> 2) &&& 0x3#8 = p.code := by
  rcases hfmt with rfl | rfl <;> cases p <;> cases r <;> decide

theorem ofControl_cemiControlByte :
    EIBPriority.ofControl (cemiControlByte fmt p r) = p.recoded := by
  rcases hfmt with rfl | rfl <;> cases p <;> cases r <;> decide

end ControlByte

theorem repeatFlag_eq_zero_iff (r : Bool) : repeatFlag r = 0#8 ↔ r = true := by
  cases r <;> decide

/-! ## Encoding -/

/-- `cemiBytes 0x29` with its two control bytes named. -/
theorem LDataPDU.cemiBytes_ind (l : LDataPDU) :
    ∃ fmt, (fmt = 0x80#8 ∨ fmt = 0x00#8) ∧
      l.cemiBytes 0x29#8 = [0x29#8, 0x00#8, cemiControlByte fmt l.prio l.repeated,
        hopByte l.hopcount 0#8 l.addrType, hiByte l.source, loByte l.source, hiByte l.dest,
        loByte l.dest, BitVec.ofNat 8 (l.data.length - 1)] ++ l.data := by
  refine ⟨if l.data.length - 1 ≤ 0x0f then 0x80#8 else 0x00#8, ?_, ?_⟩
  · split
    · exact .inl rfl
    · exact .inr rfl
  · have hhop : l.addrType.flag ||| ((l.hopcount &&& 0x07#8) <<< 4) ||| 0x0#8
        = hopByte l.hopcount 0#8 l.addrType := by
      simp [hopByte, BitVec.or_comm]
    simp only [cemiBytes, hhop, if_true, cemiControlByte]

theorem LDataPDU.CEMIEncodable.length_byte {l : LDataPDU} (h : l.CEMIEncodable) :
    (BitVec.ofNat 8 (l.data.length - 1)).toNat + 1 = l.data.length := by
  have h1 := h.nonempty
  have h255 := h.fits
  rw [toNat_ofNat_byte (by omega)]
  omega

/-- Where the decoder finds the parts of an encoded `L_Data.ind`. -/
theorem LDataPDU.CEMIEncodable.cemiBytes_parts {l : LDataPDU} (h : l.CEMIEncodable) :
    ∃ fmt, (fmt = 0x80#8 ∨ fmt = 0x00#8) ∧ cemiStart (l.cemiBytes 0x29#8) = 2 ∧
      cemiControl1 (l.cemiBytes 0x29#8) = cemiControlByte fmt l.prio l.repeated ∧
      cemiControl2 (l.cemiBytes 0x29#8) = hopByte l.hopcount 0#8 l.addrType ∧
      cemiLength (l.cemiBytes 0x29#8) = l.data.length := by
  obtain ⟨fmt, hfmt, hbytes⟩ := l.cemiBytes_ind
  -- the byte of the additional information is 0, so the control bytes follow at once
  have hstart : cemiStart (l.cemiBytes 0x29#8) = 2 := by simp [hbytes, cemiStart]
  refine ⟨fmt, hfmt, hstart, ?_, ?_, ?_⟩
  · rw [cemiControl1, hstart, hbytes]
    rfl
  · rw [cemiControl2, hstart, hbytes]
    rfl
  · rw [cemiLength, hstart, hbytes]
    exact h.length_byte

/-- An encoded frame is complete. -/
theorem LDataPDU.CEMIEncodable.complete {l : LDataPDU} (h : l.CEMIEncodable) :
    CEMIComplete (l.cemiBytes 0x29#8) := by
  obtain ⟨fmt, -, hstart, -, -, hn⟩ := h.cemiBytes_parts
  have htotal : (l.cemiBytes 0x29#8).length = 9 + l.data.length := by
    obtain ⟨fmt, -, hbytes⟩ := l.cemiBytes_ind
    simp [hbytes]
    omega
  exact ⟨by omega, by omega, by omega⟩

/-- The fields the encoder writes. -/
theorem LDataPDU.CEMIEncodable.cemiFields_cemiBytes {l : LDataPDU} (h : l.CEMIEncodable) :
    cemiFields (l.cemiBytes 0x29#8) =
      { repeatBit := repeatFlag l.repeated, priority := l.prio.code, addrBit := l.addrType.flag
        hops := l.hopcount, source := l.source, dest := l.dest, payload := l.data } := by
  obtain ⟨fmt, hfmt, hstart, hc1, hc2, hn⟩ := h.cemiBytes_parts
  obtain ⟨fmt', -, hbytes⟩ := l.cemiBytes_ind
  have hpay : cemiPayload (l.cemiBytes 0x29#8) = l.data := by
    rw [cemiPayload, hn, hstart, hbytes]
    simp
  simp only [cemiFields, cemiPriorityBits, hc1, hc2, hpay, hstart, cemiControlByte_and_20 hfmt,
    cemiControlByte_priority hfmt, hopByte_and_80, hopByte_shift, and_7_of_and_f8 h.hops]
  simp [hbytes]

/-- What the decoder makes of an encoded frame: the priority goes through both tables. -/
theorem LDataPDU.CEMIEncodable.cemiDecoded_cemiBytes {l : LDataPDU} (h : l.CEMIEncodable) :
    cemiDecoded (l.cemiBytes 0x29#8) =
      { l with prio := l.prio.recoded, validChecksum := true, validLength := true
               object := 0 } := by
  obtain ⟨fmt, hfmt, -, hc1, hc2, -⟩ := h.cemiBytes_parts
  have hf := h.cemiFields_cemiBytes
  simp only [cemiFields, CEMIFields.mk.injEq] at hf
  obtain ⟨hrep, -, -, hhops, hsrc, hdest, hpay⟩ := hf
  have hcode : (l.cemiBytes 0x29#8).getD 0 0#8 = 0x29#8 := by
    obtain ⟨fmt, -, hbytes⟩ := l.cemiBytes_ind
    simp [hbytes]
  -- the decoder keeps the repeat bit because the message code is `L_Data.ind`
  rw [hc1] at hrep
  rw [hc2] at hhops
  simp only [cemiDecoded, hsrc, hdest, hpay, hcode, hc1, hc2, hrep, hhops,
    ofControl_cemiControlByte hfmt, ofFlag_hopByte, repeatFlag_eq_zero_iff, true_and,
    Bool.decide_eq_true]

/-! ## Forwarding an `L_Data.ind` -/

/-- The fields of a decoded `L_Data.ind`, as the decoder read them. -/
theorem cemiFields_of_decoded {c : CArray} (hcode : c.getD 0 0#8 = 0x29#8) :
    cemiFields c =
      { repeatBit := repeatFlag (cemiDecoded c).repeated, priority := cemiPriorityBits c
        addrBit := (cemiDecoded c).addrType.flag, hops := (cemiDecoded c).hopcount
        source := (cemiDecoded c).source, dest := (cemiDecoded c).dest
        payload := (cemiDecoded c).data } := by
  have hrep := repeatFlag_and_20 (cemiControl1 c)
  simp only [cemiFields, cemiDecoded, flag_ofFlag, hcode, true_and, hrep]

/-- Re-encoding the decoded `l` keeps every field of `c`, and decodes to the same frame again. -/
def CEMITransparent (c : CArray) (l : LDataPDU) : Prop :=
  ∃ c' l', lDataToCEMI 0x29#8 l = .ok c' ∧ cemiFields c' = cemiFields c ∧
    cemiToLData c' = .ok (some l') ∧ l.SameFrame l'

/-- Forwarding keeps a frame exactly when its priority bits are 0 (system) or 3 (low). -/
theorem cemiTransparent_iff_priorityBits (c : CArray) (l : LDataPDU)
    (hcode : c.getD 0 0#8 = 0x29#8) (hdec : cemiToLData c = .ok (some l))
    (hlen : l.data.length < 255) :
    CEMITransparent c l ↔ cemiPriorityBits c = 0#8 ∨ cemiPriorityBits c = 3#8 := by
  obtain ⟨hcomplete, rfl⟩ := cemiToLData_eq_some.mp hdec
  have hpos : 1 ≤ (cemiDecoded c).data.length := by
    have h := hcomplete.payload_length
    simp only [cemiDecoded, h, cemiLength]
    omega
  have henc : (cemiDecoded c).CEMIEncodable := ⟨hpos, hlen, shift_and_f8 _⟩
  have hbytes : lDataToCEMI 0x29#8 (cemiDecoded c) = .ok ((cemiDecoded c).cemiBytes 0x29#8) :=
    lDataToCEMI_eq_ok.mpr ⟨henc, rfl⟩
  have hfields : cemiFields ((cemiDecoded c).cemiBytes 0x29#8) = cemiFields c ↔
      (cemiDecoded c).prio.code = cemiPriorityBits c := by
    -- every other field is copied by the decoder and written back by the encoder
    rw [henc.cemiFields_cemiBytes, cemiFields_of_decoded hcode]
    simp
  have hiff : (cemiDecoded c).prio.code = cemiPriorityBits c ↔
      cemiPriorityBits c = 0#8 ∨ cemiPriorityBits c = 3#8 :=
    EIBPriority.code_ofControl_iff (cemiControl1 c)
  rw [← hiff, ← hfields]
  constructor
  · rintro ⟨c', l', hc', hkeep, -, -⟩
    rw [hbytes] at hc'
    cases hc'
    exact hkeep
  · intro hkeep
    refine ⟨_, _, hbytes, hkeep, cemiToLData_eq_some.mpr ⟨henc.complete, rfl⟩, ?_⟩
    rw [henc.cemiDecoded_cemiBytes]
    refine ⟨?_, rfl, rfl, rfl, rfl, rfl, rfl⟩
    -- a priority whose code is 0 or 3 also comes back from the decoder
    rw [EIBPriority.recoded_eq_self_iff]
    have hprio := hiff.mp (hfields.mp hkeep)
    rw [← hfields.mp hkeep] at hprio
    revert hprio
    cases (cemiDecoded c).prio <;> decide

theorem cemiTransparent_iff_priorityBits_low :
    CEMITransparent
        [0x29#8, 0x00#8, 0xbc#8, 0xe0#8, 0x11#8, 0x01#8, 0x08#8, 0x02#8, 0x00#8, 0x00#8]
        { source := 0x1101, dest := 0x0802, addrType := .groupAddress, hopcount := 6
          data := [0x00#8] } ↔
      cemiPriorityBits
          [0x29#8, 0x00#8, 0xbc#8, 0xe0#8, 0x11#8, 0x01#8, 0x08#8, 0x02#8, 0x00#8, 0x00#8] = 0#8 ∨
        cemiPriorityBits
          [0x29#8, 0x00#8, 0xbc#8, 0xe0#8, 0x11#8, 0x01#8, 0x08#8, 0x02#8, 0x00#8, 0x00#8] = 3#8 :=
  cemiTransparent_iff_priorityBits _ _ (by decide) (by decide) (by decide)

/-- A frame with priority bits 1 is forwarded with priority bits 2. -/
theorem cemiTransparent_fails_urgent :
    let c : CArray :=
      [0x29#8, 0x00#8, 0xb4#8, 0xe0#8, 0x11#8, 0x01#8, 0x08#8, 0x02#8, 0x00#8, 0x00#8]
    ∃ l, cemiToLData c = .ok (some l) ∧ l.data.length < 255 ∧ ¬ CEMITransparent c l := by
  refine ⟨_, rfl, by decide, ?_⟩
  rintro ⟨c', l', hc', hkeep, -, -⟩
  cases hc'
  exact absurd hkeep (by decide)

/-! ## Which frames are accepted -/

/-- The byte string is decoded to an `L_Data`. -/
def cemiAccepts (data : CArray) : Prop := ∃ l, cemiToLData data = .ok (some l)

/-- The byte string is decoded to an `L_Data` by `L_Data_PDU::init`. -/
def tp1Accepts (c : CArray) : Prop := ∃ l, LDataPDU.init c = .ok (some l)

/-- A frame marked extended, and with a non-zero extended-frame-format nibble. -/
def CEMIBadFormat (data : CArray) : Prop :=
  cemiControl1 data &&& 0x80#8 = 0#8 ∧ cemiControl2 data &&& 0x0f#8 ≠ 0#8

/-- The extended TP1 frame with the fields of `data`; its control byte keeps the repeat and
    priority bits. -/
def cemiToTP1 (data : CArray) (checksum : Byte) : CArray :=
  ((cemiControl1 data &&& 0xac#8) ||| 0x10#8) :: cemiControl2 data ::
    data.getD (cemiStart data + 2) 0#8 :: data.getD (cemiStart data + 3) 0#8 ::
    data.getD (cemiStart data + 4) 0#8 :: data.getD (cemiStart data + 5) 0#8 ::
    data.getD (cemiStart data + 6) 0#8 :: (cemiPayload data ++ [checksum])

/-- `CEMI_to_L_Data` accepts `data` exactly if it is well formed, and a complete frame marked
    extended exactly if `L_Data_PDU::init` accepts the same frame. -/
def CEMIExact (data : CArray) : Prop :=
  (cemiAccepts data ↔ CEMIWellFormed data) ∧
    (CEMIComplete data → cemiControl1 data &&& 0x80#8 = 0#8 →
      ∀ checksum, cemiAccepts data ↔ tp1Accepts (cemiToTP1 data checksum))

theorem cemiAccepts_iff (data : CArray) : cemiAccepts data ↔ CEMIComplete data := by
  simp [cemiAccepts, cemiToLData_eq_some]

theorem tp1Control_and_53 (c : Byte) : ((c &&& 0xac#8) ||| 0x10#8) &&& 0x53#8 = 0x10#8 := by
  rw [BitVec.and_or_distrib_right, BitVec.and_assoc]
  exact congrArg (· ||| 0x10#8) BitVec.and_zero

theorem tp1Control_and_80 (c : Byte) : ((c &&& 0xac#8) ||| 0x10#8) &&& 0x80#8 = c &&& 0x80#8 := by
  rw [BitVec.and_or_distrib_right, BitVec.and_assoc]
  exact BitVec.or_zero

/-- `init` accepts a complete extended frame exactly if its format nibble is zero. -/
theorem tp1Accepts_cemiToTP1 {data : CArray} (h : CEMIComplete data)
    (hext : cemiControl1 data &&& 0x80#8 = 0#8) (checksum : Byte) :
    tp1Accepts (cemiToTP1 data checksum) ↔ cemiControl2 data &&& 0x0f#8 = 0#8 := by
  have h53 := tp1Control_and_53 (cemiControl1 data)
  have h80 : ((cemiControl1 data &&& 0xac#8) ||| 0x10#8) &&& 0x80#8 = 0#8 := by
    rw [tp1Control_and_80, hext]
  have hlen : (data.getD (cemiStart data + 6) 0#8).toNat + 1 = (cemiPayload data).length := by
    rw [h.payload_length, cemiLength, Nat.add_comm 6]
  unfold cemiToTP1
  constructor
  · rintro ⟨l, hl⟩
    by_contra h0f
    -- `init` leaves at the test of the format nibble, before it looks at a length
    simp [LDataPDU.init, LDataPDU.initExtended, h53, h80, h0f] at hl
  · intro h0f
    obtain ⟨v, hv⟩ := validChecksumOf_cons _ _
    exact ⟨_, LDataPDU.init_extended h53 h80 h0f hlen hv⟩

/-- The decoder is exact except on complete frames with a bad format nibble, which it accepts. -/
theorem cemiExact_iff_not_badFormat (data : CArray) :
    CEMIExact data ↔ ¬ (CEMIComplete data ∧ CEMIBadFormat data) := by
  unfold CEMIExact CEMIWellFormed CEMIBadFormat
  rw [cemiAccepts_iff]
  constructor
  · rintro ⟨hexact, -⟩ ⟨hcomplete, hext, hnibble⟩
    exact hnibble ((hexact.mp hcomplete).2 hext)
  · intro hgood
    have hnibble : CEMIComplete data → cemiControl1 data &&& 0x80#8 = 0#8 →
        cemiControl2 data &&& 0x0f#8 = 0#8 := by
      intro hcomplete hext
      by_contra hbad
      exact hgood ⟨hcomplete, hext, hbad⟩
    refine ⟨⟨fun hc => ⟨hc, hnibble hc⟩, fun hw => hw.1⟩, fun hcomplete hext checksum => ?_⟩
    rw [tp1Accepts_cemiToTP1 hcomplete hext]
    exact ⟨fun _ => hnibble hcomplete hext, fun _ => hcomplete⟩

/-- An extended frame with format nibble 1 is accepted, and rejected on TP1. -/
theorem cemiExact_fails_format_1 :
    let c : CArray :=
      [0x29#8, 0x00#8, 0x3c#8, 0xe1#8, 0x11#8, 0x01#8, 0x08#8, 0x02#8, 0x00#8, 0x00#8]
    cemiAccepts c ∧ ¬ CEMIWellFormed c ∧ ¬ tp1Accepts (cemiToTP1 c 0x00#8) ∧ ¬ CEMIExact c := by
  intro c
  have haccepts : cemiAccepts c := ⟨_, rfl⟩
  have hmalformed : ¬ CEMIWellFormed c := fun h => absurd (h.2 (by decide)) (by decide)
  have htp1 : ¬ tp1Accepts (cemiToTP1 c 0x00#8) := by
    rw [tp1Accepts_cemiToTP1 (by decide) (by decide)]
    decide
  exact ⟨haccepts, hmalformed, htp1, fun h => hmalformed (h.1.mp haccepts)⟩

end BcuSdk.Eibd
