/-
  BcuSdk.Eibd.FrameChecksum

  The check byte of a TP1 frame against a damaged byte.

  `L_Data_PDU::init` sets `valid_checksum` the same way in both frame formats:
  the xor of all bytes of the frame is `0xff`.  A damaged byte may switch the
  format or the length, and the frame may still be kept; but its xor is no
  longer `0xff`, whatever the decoder takes it for.
-/
import BcuSdk.Eibd.FrameSafety
import BcuSdk.Lib.CheckByte

namespace BcuSdk.Eibd

open BcuSdk.Lib

/-! ## What `valid_checksum` says -/

/-- The comparison with the last byte is a statement about the xor of the whole frame. -/
theorem validChecksumOf_eq {c : CArray} (h : c ≠ []) :
    validChecksumOf c = .ok (xorBytes c = 0xff#8) := by
  obtain ⟨body, last, rfl⟩ : ∃ body last, c = body ++ [last] :=
    ⟨c.dropLast, c.getLast h, (List.dropLast_append_getLast h).symm⟩
  have hbody : readSlice (body ++ [last]) 0 body.length = .ok body := by
    rw [readSlice_of_le (by simp)]
    simp
  have hlast : readByte (body ++ [last]) body.length = .ok last := by
    rw [readByte_of_lt (by simp)]
    simp
  simp [validChecksumOf, hbody, hlast, xorBytes_append_eq_ff]

section Init

variable {c : CArray} {l₀ l : LDataPDU}

theorem LDataPDU.validChecksum_of_initStandard (h : l₀.initStandard c = .ok (some l)) :
    validChecksumOf c = .ok l.validChecksum := by
  obtain ⟨c1, -, h⟩ := Checked.bind_eq_ok.mp h
  obtain ⟨c2, -, h⟩ := Checked.bind_eq_ok.mp h
  obtain ⟨c3, -, h⟩ := Checked.bind_eq_ok.mp h
  obtain ⟨c4, -, h⟩ := Checked.bind_eq_ok.mp h
  obtain ⟨c5, -, h⟩ := Checked.bind_eq_ok.mp h
  dsimp only at h
  split at h
  · cases h
  · obtain ⟨data, -, h⟩ := Checked.bind_eq_ok.mp h
    obtain ⟨v, hv, h⟩ := Checked.bind_eq_ok.mp h
    cases h
    exact hv

theorem LDataPDU.validChecksum_of_initExtended (h : l₀.initExtended c = .ok (some l)) :
    validChecksumOf c = .ok l.validChecksum := by
  obtain ⟨c1, -, h⟩ := Checked.bind_eq_ok.mp h
  split at h
  · cases h
  split at h
  · cases h
  obtain ⟨c2, -, h⟩ := Checked.bind_eq_ok.mp h
  obtain ⟨c3, -, h⟩ := Checked.bind_eq_ok.mp h
  obtain ⟨c4, -, h⟩ := Checked.bind_eq_ok.mp h
  obtain ⟨c5, -, h⟩ := Checked.bind_eq_ok.mp h
  obtain ⟨c6, -, h⟩ := Checked.bind_eq_ok.mp h
  dsimp only at h
  split at h
  · cases h
  · -- also a frame of 23 bytes whose length byte does not fit is compared as a whole
    obtain ⟨data, -, h⟩ := Checked.bind_eq_ok.mp h
    obtain ⟨v, hv, h⟩ := Checked.bind_eq_ok.mp h
    cases h
    exact hv

/-- In either format `valid_checksum` is set exactly if the xor of the frame is `0xff`. -/
theorem LDataPDU.validChecksum_of_init (h : LDataPDU.init c = .ok (some l)) :
    l.validChecksum = true ↔ xorBytes c = 0xff#8 := by
  have hne : c ≠ [] := by
    rintro rfl
    cases h
  have hsum : validChecksumOf c = .ok l.validChecksum := by
    rw [init] at h
    split at h
    · cases h
    obtain ⟨c0, -, h⟩ := Checked.bind_eq_ok.mp h
    split at h
    · cases h
    · dsimp only at h
      split at h
      · exact validChecksum_of_initStandard h
      · exact validChecksum_of_initExtended h
  rw [validChecksumOf_eq hne] at hsum
  rw [← Except.ok.inj hsum, decide_eq_true_eq]

end Init

/-! ## `LPDU::fromPacket` -/

/-- An `L_Data` comes from `L_Data_PDU::init`; the poll and acknowledge formats are other
    classes. -/
theorem LPDU.init_of_fromPacket {c : CArray} {l : LDataPDU}
    (h : LPDU.fromPacket c = .ok (.lData l)) : LDataPDU.init c = .ok (some l) := by
  obtain ⟨o, ho, h⟩ := Checked.bind_eq_ok.mp h
  have hclass : o.getD (.unknown c) = .lData l := Except.ok.inj h
  obtain rfl : o = some (.lData l) := by
    cases o with
    | none => cases hclass
    | some f => exact congrArg some hclass
  rw [candidate] at ho
  split at ho
  · cases ho
  obtain ⟨c0, -, ho⟩ := Checked.bind_eq_ok.mp ho
  split at ho
  · -- the only branch that makes an `L_Data`
    obtain ⟨o, hinit, ho⟩ := Checked.bind_eq_ok.mp ho
    obtain ⟨l', rfl, hl'⟩ := Option.map_eq_some_iff.mp (Except.ok.inj ho)
    cases hl'
    exact hinit
  -- poll and acknowledge frames, and what is no frame at all
  all_goals
    repeat' split at ho
    all_goals cases ho

/-! ## A damaged frame -/

/-- The xor of every frame `ToPacket` writes is `0xff`. -/
theorem LDataPDU.xorBytes_toPacket {p : LDataPDU} {c : CArray} (h : p.toPacket = .ok c) :
    xorBytes c = 0xff#8 := by
  obtain ⟨-, rfl⟩ := toPacket_eq_ok.mp h
  exact (xorBytes_append_eq_ff _ _).mpr rfl

/-- A frame with one damaged byte is never taken for an intact `L_Data`. -/
theorem LPDU.fromPacket_damaged {p : LDataPDU} {c q : CArray} (hp : p.toPacket = .ok c)
    (hq : DiffersInOneByte c q) :
    ∃ f, LPDU.fromPacket q = .ok f ∧
      ∀ l, f = .lData l → ¬ (l.validChecksum = true ∧ l.validLength = true) := by
  obtain ⟨f, hf⟩ := fromPacket_returns q
  refine ⟨f, hf, ?_⟩
  rintro l rfl ⟨hsum, -⟩
  have hdamaged : xorBytes q = 0xff#8 :=
    (LDataPDU.validChecksum_of_init (init_of_fromPacket hf)).mp hsum
  have hintact : xorBytes c = 0xff#8 := LDataPDU.xorBytes_toPacket hp
  exact hq.xorBytes_ne (hintact.trans hdamaged.symm)

/-- A group telegram whose length nibble is damaged. -/
theorem LPDU.fromPacket_damaged_length :
    ∃ f, LPDU.fromPacket
        [0xbc#8, 0x11#8, 0x01#8, 0x08#8, 0x02#8, 0xf2#8, 0x00#8, 0x81#8, 0x29#8] = .ok f ∧
      ∀ l, f = .lData l → ¬ (l.validChecksum = true ∧ l.validLength = true) := by
  have hp : LDataPDU.toPacket
      { source := 0x1101, dest := 0x0802, addrType := .groupAddress, data := [0x00#8, 0x81#8] } =
        .ok [0xbc#8, 0x11#8, 0x01#8, 0x08#8, 0x02#8, 0xf1#8, 0x00#8, 0x81#8, 0x29#8] := by
    decide
  exact LPDU.fromPacket_damaged hp
    ⟨[0xbc#8, 0x11#8, 0x01#8, 0x08#8, 0x02#8], 0xf1#8, 0xf2#8, [0x00#8, 0x81#8, 0x29#8],
      by decide, rfl, rfl⟩

end BcuSdk.Eibd
