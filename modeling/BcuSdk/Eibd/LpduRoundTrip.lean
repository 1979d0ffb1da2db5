/-
  BcuSdk.Eibd.LpduRoundTrip

  What `LPDU::fromPacket` reads back from a frame `L_Data_PDU::ToPacket` wrote.

  `LDataPDU.init_toPacket` gives the decoded frame for either frame format:
  every field is kept except the priority, which goes through the encoder's
  table and then through the decoder's.  The two tables are not inverse: the
  encoder writes 1 for normal and 2 for urgent, the decoder reads 1 as urgent
  and 2 as normal.
-/
import BcuSdk.Eibd.Lpdu

namespace BcuSdk.Eibd

open BcuSdk.Lib

/-! ## The priority tables -/

/-- The priority a frame comes back with: the encoder's code read by the decoder. -/
def EIBPriority.recoded (p : EIBPriority) : EIBPriority := .ofControl (p.code <<< 2)

theorem EIBPriority.recoded_eq_self_iff (p : EIBPriority) :
    p.recoded = p ↔ p = .low ∨ p = .system := by
  cases p <;> decide

/-! ## The control byte -/

/-- Control byte of a frame: `fmt` is `0x90` (standard) or `0x10` (extended). -/
def controlByte (fmt : Byte) (p : EIBPriority) (repeated : Bool) : Byte :=
  fmt ||| (p.code <<< 2) ||| repeatFlag repeated

section ControlByte

variable {fmt : Byte} (hfmt : fmt = 0x90#8 ∨ fmt = 0x10#8) (p : EIBPriority) (r : Bool)
include hfmt

theorem controlByte_and_53 : controlByte fmt p r &&& 0x53#8 = 0x10#8 := by
  rcases hfmt with rfl | rfl <;> cases p <;> cases r <;> decide

theorem controlByte_and_20 : (controlByte fmt p r &&& 0x20#8 = 0#8) ↔ r = true := by
  rcases hfmt with rfl | rfl <;> cases p <;> cases r <;> decide

theorem controlByte_and_80 : (controlByte fmt p r &&& 0x80#8 ≠ 0#8) ↔ fmt = 0x90#8 := by
  rcases hfmt with rfl | rfl <;> cases p <;> cases r <;> decide

theorem ofControl_controlByte : EIBPriority.ofControl (controlByte fmt p r) = p.recoded := by
  rcases hfmt with rfl | rfl <;> cases p <;> cases r <;> decide

end ControlByte

/-! ## The byte of hop count, length nibble and address type -/

/-- `(hopcount & 7) << 4 | (n & 0x0f) | flag`, as both frame formats pack it. -/
def hopByte (hop n : Byte) (t : EIBAddrType) : Byte :=
  ((hop &&& 0x07#8) <<< 4) ||| (n &&& 0x0f#8) ||| t.flag

theorem hopByte_and_0f (hop n : Byte) (t : EIBAddrType) :
    hopByte hop n t &&& 0x0f#8 = n &&& 0x0f#8 := by
  cases t <;> (unfold hopByte EIBAddrType.flag; ext i hi; interval_cases i <;> simp)

theorem hopByte_shift (hop n : Byte) (t : EIBAddrType) :
    (hopByte hop n t >>> 4) &&& 0x07#8 = hop &&& 0x07#8 := by
  cases t <;> (unfold hopByte EIBAddrType.flag; ext i hi; interval_cases i <;> simp)

theorem hopByte_and_80 (hop n : Byte) (t : EIBAddrType) :
    hopByte hop n t &&& 0x80#8 = t.flag := by
  cases t <;> (unfold hopByte EIBAddrType.flag; ext i hi; interval_cases i <;> simp)

@[simp] theorem ofFlag_hopByte (hop n : Byte) (t : EIBAddrType) :
    EIBAddrType.ofFlag (hopByte hop n t) = t := by
  unfold EIBAddrType.ofFlag
  rw [hopByte_and_80]
  cases t <;> decide

/-! ## The check byte -/

/-- The check byte is only compared, never a reason to reject. -/
theorem validChecksumOf_returns {c : CArray} (h : 0 < c.length) : (validChecksumOf c).Returns := by
  have hbody : readSlice c 0 (c.length - 1) = .ok _ := readSlice_of_le (by omega)
  have hlast : readByte c (c.length - 1) = .ok _ := readByte_of_lt (by omega)
  exact ⟨_, by rw [validChecksumOf, hbody, Checked.ok_bind, hlast, Checked.ok_bind]; rfl⟩

theorem validChecksumOf_cons (b : Byte) (c : CArray) : (validChecksumOf (b :: c)).Returns :=
  validChecksumOf_returns (Nat.succ_pos _)

/-- The check byte `ToPacket` appends is the one `init` expects. -/
theorem validChecksumOf_append (body : CArray) :
    validChecksumOf (body ++ [~~~(xorBytes body)]) = .ok true := by
  have hbody : readSlice (body ++ [~~~(xorBytes body)]) 0 body.length = .ok body := by
    rw [readSlice_of_le (by simp)]
    simp
  have hlast : readByte (body ++ [~~~(xorBytes body)]) body.length
      = .ok (~~~(xorBytes body)) := by
    rw [readByte_of_lt (by simp)]
    simp
  simp [validChecksumOf, hbody, hlast]

/-! ## Decoding a frame of either format -/

/-- `init` on a standard frame whose length nibble fits. -/
theorem LDataPDU.init_standard {b0 b1 b2 b3 b4 b5 chk : Byte} {data : CArray} {v : Bool}
    (h53 : b0 &&& 0x53#8 = 0x10#8) (h80 : b0 &&& 0x80#8 ≠ 0#8)
    (hlen : (b5 &&& 0x0f#8).toNat + 1 = data.length)
    (hsum : validChecksumOf (b0 :: b1 :: b2 :: b3 :: b4 :: b5 :: (data ++ [chk])) = .ok v) :
    LDataPDU.init (b0 :: b1 :: b2 :: b3 :: b4 :: b5 :: (data ++ [chk])) = .ok (some
      { prio := .ofControl b0, repeated := b0 &&& 0x20#8 = 0#8, validChecksum := v
        addrType := .ofFlag b5, source := word16 b1 b2, dest := word16 b3 b4
        hopcount := (b5 >>> 4) &&& 0x07#8, data }) := by
  have hshort : ¬ (b0 :: b1 :: b2 :: b3 :: b4 :: b5 :: (data ++ [chk])).length < 6 := by simp
  have hfull : data.length + 7 = (b0 :: b1 :: b2 :: b3 :: b4 :: b5 :: (data ++ [chk])).length := by
    simp
  have hdata : readSlice (b0 :: b1 :: b2 :: b3 :: b4 :: b5 :: (data ++ [chk])) 6 data.length
      = .ok data := by
    rw [readSlice_of_le (by simp; omega)]
    simp
  rw [LDataPDU.init, if_neg hshort, readByte_cons_zero, Checked.ok_bind, if_neg (by simp [h53]),
    if_pos h80]
  simp only [initStandard, readByte_cons_succ, readByte_cons_zero, Checked.ok_bind, hlen, hfull,
    hdata, hsum, ne_eq, not_true_eq_false, if_false, Checked.pure_eq_ok]

/-- `init` on an extended frame whose length byte fits. -/
theorem LDataPDU.init_extended {b0 b1 b2 b3 b4 b5 b6 chk : Byte} {data : CArray} {v : Bool}
    (h53 : b0 &&& 0x53#8 = 0x10#8) (h80 : b0 &&& 0x80#8 = 0#8) (h0f : b1 &&& 0x0f#8 = 0#8)
    (hlen : b6.toNat + 1 = data.length)
    (hsum : validChecksumOf (b0 :: b1 :: b2 :: b3 :: b4 :: b5 :: b6 :: (data ++ [chk])) = .ok v) :
    LDataPDU.init (b0 :: b1 :: b2 :: b3 :: b4 :: b5 :: b6 :: (data ++ [chk])) = .ok (some
      { prio := .ofControl b0, repeated := b0 &&& 0x20#8 = 0#8, validChecksum := v
        addrType := .ofFlag b1, source := word16 b2 b3, dest := word16 b4 b5
        hopcount := (b1 >>> 4) &&& 0x07#8, data }) := by
  have hshort : ∀ n ≤ 8,
      ¬ (b0 :: b1 :: b2 :: b3 :: b4 :: b5 :: b6 :: (data ++ [chk])).length < n := by
    intro n hn
    simp
    omega
  have hfull : data.length + 8
      = (b0 :: b1 :: b2 :: b3 :: b4 :: b5 :: b6 :: (data ++ [chk])).length := by simp
  have hdata : readSlice (b0 :: b1 :: b2 :: b3 :: b4 :: b5 :: b6 :: (data ++ [chk])) 7 data.length
      = .ok data := by
    rw [readSlice_of_le (by simp; omega)]
    simp
  rw [LDataPDU.init, if_neg (hshort 6 (by omega)), readByte_cons_zero, Checked.ok_bind,
    if_neg (by simp [h53]), if_neg (by simp [h80])]
  simp only [initExtended, readByte_cons_succ, readByte_cons_zero, Checked.ok_bind, h0f, hlen,
    hfull, hshort 7 (by omega), hdata, hsum, ne_eq, not_true_eq_false, false_and, if_false,
    decide_true, if_true, Checked.pure_eq_ok]

/-! ## Decoding an encoded frame -/

/-- What the decoder makes of an encoded `l`. -/
def LDataPDU.received (l : LDataPDU) : LDataPDU :=
  { l with prio := l.prio.recoded, validChecksum := true, validLength := true, object := 0 }

theorem LDataPDU.standardBody_eq {l : LDataPDU} (h16 : l.data.length - 1 ≤ 0x0f) :
    l.standardBody = controlByte 0x90#8 l.prio l.repeated :: hiByte l.source :: loByte l.source ::
      hiByte l.dest :: loByte l.dest ::
      hopByte l.hopcount (BitVec.ofNat 8 (l.data.length - 1)) l.addrType :: l.data := by
  have hand : (l.data.length - 1) &&& 0x0f = l.data.length - 1 :=
    Nat.and_two_pow_sub_one_of_lt_two_pow (n := 4) (by omega)
  have htake : l.data.take (1 + (l.data.length - 1)) = l.data :=
    List.take_of_length_le (by omega)
  simp only [standardBody, hand, htake]
  rfl

theorem LDataPDU.extendedBody_eq {l : LDataPDU} (h255 : l.data.length ≤ 0xff) :
    l.extendedBody = controlByte 0x10#8 l.prio l.repeated :: hopByte l.hopcount 0#8 l.addrType ::
      hiByte l.source :: loByte l.source :: hiByte l.dest :: loByte l.dest ::
      BitVec.ofNat 8 (l.data.length - 1) :: l.data := by
  have hand : (l.data.length - 1) &&& 0xff = l.data.length - 1 :=
    Nat.and_two_pow_sub_one_of_lt_two_pow (n := 8) (by omega)
  have htake : l.data.take (1 + (l.data.length - 1)) = l.data :=
    List.take_of_length_le (by omega)
  have hhop : ((l.hopcount &&& 0x07#8) <<< 4) ||| l.addrType.flag
      = hopByte l.hopcount 0#8 l.addrType := by
    simp [hopByte]
  simp only [extendedBody, hand, htake, hhop]
  rfl

/-- An encoded frame comes back as `received`, in either format. -/
theorem LDataPDU.init_body {l : LDataPDU} (henc : l.Encodable) :
    LDataPDU.init (l.body ++ [~~~(xorBytes l.body)]) = .ok (some l.received) := by
  have hsum := validChecksumOf_append l.body
  have h1 := henc.nonempty
  have h255 := henc.fits
  generalize ~~~(xorBytes l.body) = chk at hsum ⊢
  unfold LDataPDU.body at hsum ⊢
  split at hsum
  · next h16 =>
    -- standard format: the length stands in the nibble of byte 5
    have hfmt : 0x90#8 = 0x90#8 ∨ 0x90#8 = 0x10#8 := .inl rfl
    have hlen : (hopByte l.hopcount (BitVec.ofNat 8 (l.data.length - 1)) l.addrType &&&
        0x0f#8).toNat + 1 = l.data.length := by
      rw [hopByte_and_0f, toNat_ofNat_and_0f (by omega)]
      omega
    rw [if_pos h16, standardBody_eq h16]
    rw [standardBody_eq h16] at hsum
    have h := init_standard (controlByte_and_53 hfmt _ _) ((controlByte_and_80 hfmt _ _).mpr rfl)
      hlen hsum
    simpa [hopByte_shift, and_7_of_and_f8 henc.hops, ofControl_controlByte hfmt,
      controlByte_and_20 hfmt, received] using h
  · next h16 =>
    -- extended format: the length has a byte of its own, and the format nibble is zero
    have hfmt : 0x10#8 = 0x90#8 ∨ 0x10#8 = 0x10#8 := .inr rfl
    have hlen : (BitVec.ofNat 8 (l.data.length - 1)).toNat + 1 = l.data.length := by
      rw [toNat_ofNat_byte (by omega)]
      omega
    rw [if_neg h16, extendedBody_eq h255]
    rw [extendedBody_eq h255] at hsum
    have h := init_extended (controlByte_and_53 hfmt _ _)
      (not_not.mp (mt (controlByte_and_80 hfmt _ _).mp (by decide)))
      (hopByte_and_0f _ _ _) hlen hsum
    simpa [hopByte_shift, and_7_of_and_f8 henc.hops, ofControl_controlByte hfmt,
      controlByte_and_20 hfmt, received] using h

/-- `LPDU::fromPacket` picks the class `L_Data` for every encoded frame. -/
theorem LPDU.fromPacket_body {l : LDataPDU} (henc : l.Encodable) :
    LPDU.fromPacket (l.body ++ [~~~(xorBytes l.body)]) = .ok (.lData l.received) := by
  have hinit := LDataPDU.init_body henc
  obtain ⟨b0, rest, hb0, h53⟩ :
      ∃ b0 rest, l.body ++ [~~~(xorBytes l.body)] = b0 :: rest ∧ b0 &&& 0x53#8 = 0x10#8 := by
    unfold LDataPDU.body
    split
    · next h16 =>
      rw [LDataPDU.standardBody_eq h16]
      exact ⟨_, _, rfl, controlByte_and_53 (.inl rfl) _ _⟩
    · rw [LDataPDU.extendedBody_eq henc.fits]
      exact ⟨_, _, rfl, controlByte_and_53 (.inr rfl) _ _⟩
  rw [hb0] at hinit ⊢
  simp [LPDU.fromPacket, LPDU.candidate, h53, hinit]

/-! ## The round trip -/

/-- `q` carries the fields of the frame `p`. -/
structure LDataPDU.SameFrame (p q : LDataPDU) : Prop where
  prio : q.prio = p.prio
  repeated : q.repeated = p.repeated
  addrType : q.addrType = p.addrType
  source : q.source = p.source
  dest : q.dest = p.dest
  hopcount : q.hopcount = p.hopcount
  data : q.data = p.data

/-- Encoding `p` for TP1 and decoding the bytes gives the same frame, marked as
    complete and with a good checksum. -/
def LDataPDU.TP1RoundTrip (p : LDataPDU) : Prop :=
  ∃ c q, p.toPacket = .ok c ∧ LPDU.fromPacket c = .ok (.lData q) ∧ p.SameFrame q ∧
    q.validChecksum = true ∧ q.validLength = true

theorem and_f8_of_le_7 {b : Byte} (h : b ≤ 7#8) : b &&& 0xf8#8 = 0#8 :=
  of_toNat_lt (p := fun b => b &&& 0xf8#8 = 0#8) (n := 8) (by decide) (Nat.lt_succ_of_le h)

/-- The frame comes back as `received`, so only the priority can differ. -/
theorem LDataPDU.tp1RoundTrip_iff_prio (p : LDataPDU) (h1 : 1 ≤ p.data.length)
    (h255 : p.data.length ≤ 255) (hhop : p.hopcount ≤ 7#8) :
    p.TP1RoundTrip ↔ p.prio = .low ∨ p.prio = .system := by
  have henc : p.Encodable := ⟨h1, h255, and_f8_of_le_7 hhop⟩
  have hpkt : p.toPacket = .ok (p.body ++ [~~~(xorBytes p.body)]) :=
    toPacket_eq_ok.mpr ⟨henc, rfl⟩
  have hback := LPDU.fromPacket_body henc
  rw [← EIBPriority.recoded_eq_self_iff]
  constructor
  · rintro ⟨c, q, hc, hq, hsame, -, -⟩
    -- encoder and decoder are functions, so `q` is the frame as received
    rw [hpkt] at hc
    cases hc
    rw [hback] at hq
    cases hq
    exact hsame.prio
  · intro hprio
    exact ⟨_, _, hpkt, hback, ⟨hprio, rfl, rfl, rfl, rfl, rfl, rfl⟩, rfl, rfl⟩

theorem LDataPDU.tp1RoundTrip_iff_prio_low :
    LDataPDU.TP1RoundTrip { data := [0x00#8, 0x81#8] } ↔
      EIBPriority.low = .low ∨ EIBPriority.low = .system :=
  tp1RoundTrip_iff_prio { data := [0x00#8, 0x81#8] } (by decide) (by decide) (by decide)

/-- An urgent frame comes back as a normal one. -/
theorem LDataPDU.tp1RoundTrip_fails_urgent :
    let p : LDataPDU := { prio := .urgent, data := [0x00#8, 0x81#8] }
    1 ≤ p.data.length ∧ p.data.length ≤ 255 ∧ p.hopcount ≤ 7#8 ∧ ¬ p.TP1RoundTrip := by
  refine ⟨by decide, by decide, by decide, ?_⟩
  rintro ⟨c, q, hc, hq, hsame, -, -⟩
  cases hc
  cases hq
  exact absurd hsame.prio (by decide)

/-! ## Frames with the same encoding -/

theorem LDataPDU.SameFrame.symm {p q : LDataPDU} (h : p.SameFrame q) : q.SameFrame p :=
  ⟨h.prio.symm, h.repeated.symm, h.addrType.symm, h.source.symm, h.dest.symm, h.hopcount.symm,
    h.data.symm⟩

theorem EIBPriority.recoded_injective : Function.Injective EIBPriority.recoded := by
  intro p q h
  cases p <;> cases q <;> first | rfl | exact absurd h (by decide)

/-- Two frames have the same bytes exactly if they carry the same fields. -/
theorem LDataPDU.toPacket_eq_iff {p l : LDataPDU} {c : CArray} (hp : p.toPacket = .ok c) :
    l.toPacket = .ok c ↔ p.SameFrame l := by
  constructor
  · intro hl
    obtain ⟨hencP, hbodyP⟩ := toPacket_eq_ok.mp hp
    obtain ⟨hencL, hbodyL⟩ := toPacket_eq_ok.mp hl
    -- the decoder reads both frames from the same bytes
    have hreadP := init_body hencP
    have hreadL := init_body hencL
    rw [hbodyP] at hreadP
    rw [hbodyL, hreadP] at hreadL
    have hsame : p.received = l.received := Option.some.inj (Except.ok.inj hreadL)
    simp only [received, mk.injEq] at hsame
    obtain ⟨hprio, hrepeated, -, -, haddr, hsource, hdest, hhop, hdata, -⟩ := hsame
    have hrecoded := EIBPriority.recoded_injective hprio
    exact SameFrame.symm ⟨hrecoded, hrepeated, haddr, hsource, hdest, hhop, hdata⟩
  · rintro ⟨hprio, hrepeated, haddr, hsource, hdest, hhop, hdata⟩
    -- the encoder reads no other field
    have hl : l = { p with
        validChecksum := l.validChecksum, validLength := l.validLength, object := l.object } := by
      cases l
      simp_all
    rw [hl]
    exact hp

end BcuSdk.Eibd
