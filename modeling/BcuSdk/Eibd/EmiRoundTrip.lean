/-
  BcuSdk.Eibd.EmiRoundTrip

  EMI1 and EMI2 frames through `L_Data_ToEMI` and `EMI_to_L_Data`.

  `emiToLData_lDataToEMI` gives the decoded frame for a payload of any length:
  the length nibble wraps at 16, the priority goes through the encoder's table
  and then the decoder's, the source is not transmitted.
-/
import BcuSdk.Eibd.Emi
import BcuSdk.Eibd.LpduRoundTrip

namespace BcuSdk.Eibd

open BcuSdk.Lib

/-! ## The length nibble -/

/-- `(data () - 1) & 0x0f`, on unsigned numbers. -/
theorem toNat_length_nibble {n : Nat} (h : 1 ≤ n) :
    ((BitVec.ofNat 8 n - 1#8) &&& 0x0f#8 : Byte).toNat = (n - 1) % 16 := by
  have hmask : ∀ b : Byte, (b &&& 0x0f#8).toNat = b.toNat % 16 := fun b => by
    rw [BitVec.toNat_and]
    exact Nat.and_two_pow_sub_one_eq_mod b.toNat 4
  rw [hmask, BitVec.toNat_sub, BitVec.toNat_ofNat]
  simp only [BitVec.toNat_ofNat]
  omega

/-! ## Decoding an encoded frame -/

/-- What the decoder makes of an encoded `l`: of a longer payload it keeps what the nibble says. -/
def LDataPDU.emiReceived (l : LDataPDU) : LDataPDU :=
  { prio := l.prio.recoded, addrType := l.addrType, dest := l.dest
    hopcount := l.hopcount &&& 0x07#8, data := l.data.take ((l.data.length - 1) % 16 + 1) }

theorem emiToLData_lDataToEMI (code : Byte) {l : LDataPDU} (h1 : 1 ≤ l.data.length) :
    emiToLData (lDataToEMI code l) = .ok (some l.emiReceived) := by
  have hshort : ¬ (lDataToEMI code l).length < 8 := by
    simp [lDataToEMI]
    omega
  have hlong : (lDataToEMI code l).length = l.data.length + 7 := by simp [lDataToEMI]
  have hnibble : (hopByte l.hopcount (BitVec.ofNat 8 l.data.length - 1#8) l.addrType &&&
      0x0f#8).toNat = (l.data.length - 1) % 16 := by
    rw [hopByte_and_0f, toNat_length_nibble h1]
  have hprio : EIBPriority.ofControl (l.prio.code <<< 2) = l.prio.recoded := rfl
  -- the nibble never runs past the end
  have hfits : ¬ (l.data.length - 1) % 16 + 1 > l.data.length := by omega
  have hslice : readSlice (lDataToEMI code l) 7 ((l.data.length - 1) % 16 + 1) =
      .ok (l.data.take ((l.data.length - 1) % 16 + 1)) := by
    rw [readSlice_of_le (by omega)]
    simp [lDataToEMI]
  have hbytes : lDataToEMI code l = code :: l.prio.code <<< 2 :: 0#8 :: 0#8 :: hiByte l.dest ::
      loByte l.dest :: hopByte l.hopcount (BitVec.ofNat 8 l.data.length - 1#8) l.addrType ::
      l.data := rfl
  rw [emiToLData, if_neg hshort, hlong, Nat.add_sub_cancel]
  rw [hbytes] at hslice ⊢
  simp only [readByte_cons_succ, readByte_cons_zero, Checked.ok_bind, hnibble, if_neg hfits,
    hslice, hprio, hopByte_shift, ofFlag_hopByte, word16_hiByte_loByte]
  rfl

/-! ## The round trip -/

/-- `q` has the fields of `p` that an EMI frame carries. -/
structure LDataPDU.SameTelegram (p q : LDataPDU) : Prop where
  prio : q.prio = p.prio
  addrType : q.addrType = p.addrType
  dest : q.dest = p.dest
  hopcount : q.hopcount = p.hopcount
  data : q.data = p.data

/-- `EMI_to_L_Data` gives back the telegram `L_Data_ToEMI` wrote. -/
def LDataPDU.EMIRoundTrip (code : Byte) (l : LDataPDU) : Prop :=
  ∃ q, emiToLData (lDataToEMI code l) = .ok (some q) ∧ l.SameTelegram q

/-- Up to 16 bytes the length nibble is exact, so only the priority can differ. -/
theorem LDataPDU.emiRoundTrip_iff_prio (code : Byte) (l : LDataPDU) (h1 : 1 ≤ l.data.length)
    (h16 : l.data.length ≤ 16) (hhop : l.hopcount ≤ 7#8) :
    l.EMIRoundTrip code ↔ l.prio = .low ∨ l.prio = .system := by
  have hback := emiToLData_lDataToEMI code h1
  have hhops : l.hopcount &&& 0x07#8 = l.hopcount := and_7_of_and_f8 (and_f8_of_le_7 hhop)
  have hdata : l.data.take ((l.data.length - 1) % 16 + 1) = l.data :=
    List.take_of_length_le (by omega)
  rw [← EIBPriority.recoded_eq_self_iff]
  constructor
  · rintro ⟨q, hq, hsame⟩
    rw [hback] at hq
    cases hq
    exact hsame.prio
  · intro hprio
    exact ⟨_, hback, hprio, rfl, rfl, hhops, hdata⟩

theorem LDataPDU.emiRoundTrip_iff_prio_low :
    LDataPDU.EMIRoundTrip 0x11#8 { data := [0x00#8, 0x81#8] } ↔
      EIBPriority.low = .low ∨ EIBPriority.low = .system :=
  emiRoundTrip_iff_prio 0x11#8 { data := [0x00#8, 0x81#8] } (by decide) (by decide) (by decide)

/-- An urgent telegram comes back as a normal one. -/
theorem LDataPDU.emiRoundTrip_fails_urgent :
    let l : LDataPDU := { prio := .urgent, data := [0x00#8, 0x81#8] }
    1 ≤ l.data.length ∧ l.data.length ≤ 16 ∧ l.hopcount ≤ 7#8 ∧ ¬ l.EMIRoundTrip 0x11#8 := by
  refine ⟨by decide, by decide, by decide, ?_⟩
  rintro ⟨q, hq, hsame⟩
  cases hq
  exact absurd hsame.prio (by decide)

end BcuSdk.Eibd
