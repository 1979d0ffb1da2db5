/-
  BcuSdk.Eibd.FrameSafety

  Received frames against the assertions of Layer 3 and its listeners.

  None of the three decoders reads outside its input.  What they return can be
  longer than what Layer 3 and the server that forwards the frame can encode:
  `Layer3.onLPDU_returns_iff` says which frames Layer 3 survives in every
  configuration, and `frameSafe_iff` which byte strings lead to such a frame.
-/
import BcuSdk.Eibd.Layer3
import BcuSdk.Eibd.CemiRoundTrip
import BcuSdk.Lib.Parser

namespace BcuSdk.Eibd

open BcuSdk.Lib

/-! ## What Layer 3 and its listeners ask of a frame -/

/-- The frame can be encoded for TP1, and for cEMI if a server may forward it. -/
structure LDataPDU.Forwardable (l : LDataPDU) : Prop where
  encodable : l.Encodable
  cemi : l.hopcount ≠ 0#8 → l.data.length < 0xff

theorem LDataPDU.decode_returns {l : LDataPDU} (h : l.Encodable) : l.decode.Returns := by
  have hcheck : l.checkEncodable = .ok () := checkEncodable_eq_ok.mpr h
  simp [decode, hcheck, TPDU.decode_fromPacket]

theorem tracePrintf_decode {l : LDataPDU} (h : l.Encodable) (showPrint : Bool) :
    tracePrintf showPrint l.decode = .ok () := by
  obtain ⟨u, hu⟩ := l.decode_returns h
  cases showPrint with
  | true => exact hu
  | false => rfl

theorem hopcount_pred_and_f8 {h : Byte} (h7 : h &&& 0xf8#8 = 0#8) (h0 : h ≠ 0#8) :
    (h - 1#8) &&& 0xf8#8 = 0#8 := by
  have hsmall : h.toNat < 8 := by
    rw [← and_7_of_and_f8 h7]
    exact Nat.lt_succ_of_le (toNat_and_le h 0x07#8)
  revert h0
  exact of_toNat_lt (p := fun h => h ≠ 0#8 → (h - 1#8) &&& 0xf8#8 = 0#8) (by decide) hsmall

/-- What is left of a forwardable frame after a hop goes into a cEMI frame. -/
theorem LDataPDU.Forwardable.decHopcount {l : LDataPDU} (h : l.Forwardable)
    (h0 : l.hopcount ≠ 0#8) : l.decHopcount.CEMIEncodable :=
  ⟨h.encodable.nonempty, h.cemi h0, hopcount_pred_and_f8 h.encodable.hops h0⟩

section Listeners

variable {l : LDataPDU}

theorem groupCacheGet_returns (enable : Bool) : (groupCacheGet enable l).Returns := by
  unfold groupCacheGet
  split
  · split
    · split
      · next data hlen =>
        rw [readByte_of_lt (by omega), readByte_of_lt (by omega)]
        simp only [Checked.ok_bind]
        split <;> simp
      · simp
    · simp
  · simp

theorem ServerListener.routeFrame_returns (s : ServerListener) (h : l.CEMIEncodable) :
    (s.routeFrame l).Returns := by
  have hcemi : ∀ d, ∃ c, lDataToCEMI 0x29#8 { l with dest := d } = .ok c := fun d =>
    lDataToCEMI_returns_iff.mpr ⟨h.nonempty, h.fits, h.hops⟩
  have hsend : ∃ c, lDataToCEMI 0x29#8 l = .ok c := lDataToCEMI_returns_iff.mpr h
  unfold routeFrame
  split
  · rw [tracePrintf_decode h.encodable, Checked.ok_bind]
    dsimp only
    split
    -- one frame for every peer in the NAT table, or one for the routing group
    · refine Checked.returns_mapM fun n _ => ?_
      obtain ⟨c, hc⟩ := hcemi n.src
      simp [hc]
    · obtain ⟨c, hc⟩ := hsend
      simp [hc]
  · simp

theorem ServerListener.getLData_returns (s : ServerListener) (h : l.Forwardable) :
    (s.getLData l).Returns := by
  unfold getLData
  split
  · simp
  split
  · simp
  · next h0 _ =>
    -- what is encoded, for the routing group and for the tunnels, has one hop less
    have henc := h.decHopcount h0
    obtain ⟨routed, hrouted⟩ := s.routeFrame_returns henc
    have hsend : (lDataToCEMI 0x29#8 l.decHopcount).Returns := lDataToCEMI_returns_iff.mpr henc
    obtain ⟨c, hc⟩ := hsend
    have hqueue : Checked.Returns ((s.connTypes.filter (· = 0)).mapM fun _ => do
        return Passed.queued (← lDataToCEMI 0x29#8 l.decHopcount)) :=
      Checked.returns_mapM fun _ _ => by simp [hc]
    obtain ⟨queued, hqueued⟩ := hqueue
    rw [hrouted, Checked.ok_bind, hqueued]
    exact ⟨_, rfl⟩

/-- No listener faults on a forwardable frame. -/
theorem Listener.getLData_returns (cb : Listener) (h : l.Forwardable) :
    (cb.getLData l).Returns := by
  cases cb with
  | dataXXX =>
      simp only [getLData]
      split <;> exact ⟨_, rfl⟩
  | tTPDU => exact ⟨_, rfl⟩
  | tConnection => exact ⟨_, rfl⟩
  | groupCache enable => exact groupCacheGet_returns enable
  | server s => exact s.getLData_returns h

end Listeners

/-! ## `Layer3::Run` on one frame -/

namespace Layer3

theorem deliver_returns {l : LDataPDU} (s : Layer3) (h : l.Forwardable) :
    (s.deliver l).Returns := by
  -- the copy kept in `ignore` is encoded with the repeat bit set
  have hseen : ({ l with repeated := true } : LDataPDU).toPacket.Returns :=
    LDataPDU.toPacket_returns_iff.mpr ⟨h.encodable.nonempty, h.encodable.fits, h.encodable.hops⟩
  obtain ⟨seen, hseen⟩ := hseen
  have hfirst : ({ l with repeated := false } : LDataPDU).Forwardable :=
    ⟨⟨h.encodable.nonempty, h.encodable.fits, h.encodable.hops⟩, h.cemi⟩
  unfold deliver
  rw [hseen, Checked.ok_bind]
  dsimp only
  -- a frame to the own address reaches the listeners with destination 0
  generalize hl : (if l.addrType = .individualAddress ∧ l.dest = s.defaultAddr then
    ({ l with repeated := false, dest := 0 } : LDataPDU) else { l with repeated := false }) = l'
  have hl' : l'.Forwardable := by
    rw [← hl]
    split
    · exact ⟨⟨h.encodable.nonempty, h.encodable.fits, h.encodable.hops⟩, h.cemi⟩
    · exact hfirst
  rw [tracePrintf_decode hl'.encodable, Checked.ok_bind]
  obtain ⟨passed, hpassed⟩ :=
    Checked.returns_mapM (f := (·.getLData l')) (l := listenersFor _ l') fun cb _ =>
      cb.getLData_returns hl'
  rw [hpassed]
  exact ⟨_, rfl⟩

theorem onLData_returns {l : LDataPDU} (s : Layer3) (h : l.Forwardable) :
    (s.onLData l).Returns := by
  obtain ⟨⟨s', passed⟩, hdeliver⟩ := s.deliver_returns h
  obtain ⟨d1, hd1⟩ := LDataPDU.toPacket_returns_iff.mpr h.encodable
  unfold onLData
  split
  · rw [hd1, Checked.ok_bind]
    split
    · exact ⟨_, rfl⟩
    · rw [hdeliver]
      exact ⟨_, rfl⟩
  · rw [hdeliver]
    exact ⟨_, rfl⟩

/-- A server that routes and has no clients. -/
def router (object : Nat) : Listener :=
  .server { object, route := true, natstate := [], connTypes := [], showPrint := false }

/-- A daemon that runs only `cb`, registered for everything, and owns the address `addr`. -/
def only (cb : Listener) (addr : EibAddr) : Layer3 where
  broadcast := [cb]
  group := [(cb, 0)]
  individual := [⟨cb, 0, 0⟩]
  ignore := []
  defaultAddr := addr
  now := 0
  showPrint := false

theorem encodable_of_deliver {l : LDataPDU} {s : Layer3} (h : (s.deliver l).Returns) :
    l.Encodable := by
  obtain ⟨seen, hseen, -⟩ := Checked.returns_bind.mp h
  have henc := LDataPDU.toPacket_returns_iff.mp ⟨seen, hseen⟩
  exact ⟨henc.nonempty, henc.fits, henc.hops⟩

theorem deliver_of_onLData {l : LDataPDU} {s : Layer3} (hignore : s.ignore = [])
    (h : (s.onLData l).Returns) : (s.deliver l).Returns := by
  unfold onLData at h
  split at h
  · -- nothing has been received before, so the frame is no repetition
    obtain ⟨d1, -, h⟩ := Checked.returns_bind.mp h
    simp only [hignore, List.any_nil, Bool.false_eq_true, if_false] at h
    obtain ⟨r, hr, -⟩ := Checked.returns_bind.mp h
    exact ⟨r, hr⟩
  · obtain ⟨r, hr, -⟩ := Checked.returns_bind.mp h
    exact ⟨r, hr⟩

/-- The frame as the listeners of `only cb l.dest` get it. -/
def asReceived (l : LDataPDU) : LDataPDU :=
  if l.addrType = .individualAddress then { l with repeated := false, dest := 0 }
  else { l with repeated := false }

theorem listenersFor_only {s : Layer3} {l : LDataPDU} {cb : Listener} (hb : s.broadcast = [cb])
    (hg : s.group = [(cb, 0)]) (hi : s.individual = [⟨cb, 0, 0⟩]) :
    s.listenersFor (asReceived l) = [cb] := by
  cases htype : l.addrType with
  | groupAddress =>
      by_cases hdest : l.dest = 0 <;> simp [listenersFor, asReceived, htype, hdest, hb, hg]
  | individualAddress => simp [listenersFor, asReceived, htype, hi]

theorem getLData_of_deliver {l : LDataPDU} {cb : Listener}
    (h : ((only cb l.dest).deliver l).Returns) : (cb.getLData (asReceived l)).Returns := by
  have hl : (if l.addrType = .individualAddress ∧ l.dest = (only cb l.dest).defaultAddr then
      ({ l with repeated := false, dest := 0 } : LDataPDU) else { l with repeated := false })
      = asReceived l := by
    simp [asReceived, only]
  -- the copy for `ignore`, the trace, and the listeners
  obtain ⟨seen, -, h⟩ := Checked.returns_bind.mp h
  obtain ⟨u, -, h⟩ := Checked.returns_bind.mp h
  obtain ⟨passed, hpassed, -⟩ := Checked.returns_bind.mp h
  simp only [hl] at hpassed
  rw [listenersFor_only rfl rfl rfl, List.mapM_cons] at hpassed
  obtain ⟨r, hr, -⟩ := Checked.bind_eq_ok.mp hpassed
  exact ⟨r, hr⟩

/-- A frame of 255 bytes that has a hop left cannot be forwarded. -/
theorem fits_of_router {l : LDataPDU} (h0 : l.hopcount ≠ 0#8)
    (h : ((router (l.object + 1)).getLData (asReceived l)).Returns) : l.data.length < 0xff := by
  have hhop : (asReceived l).hopcount = l.hopcount := by unfold asReceived; split <;> rfl
  have hobj : (asReceived l).object = l.object := by unfold asReceived; split <;> rfl
  have hdata : (asReceived l).data = l.data := by unfold asReceived; split <;> rfl
  simp only [router, Listener.getLData, ServerListener.getLData, hhop, h0, hobj, if_false] at h
  -- the identity differs, so the server does not take the frame for its own
  rw [if_neg (by omega)] at h
  obtain ⟨routed, hrouted, -⟩ := Checked.returns_bind.mp h
  simp only [ServerListener.routeFrame, tracePrintf, Bool.false_eq_true, if_true, if_false,
    Checked.ok_bind, List.filter_nil, ne_eq, not_true_eq_false, and_false] at hrouted
  obtain ⟨c, hc, -⟩ := Checked.bind_eq_ok.mp hrouted
  have hfits := (lDataToCEMI_eq_ok.mp hc).1.fits
  rwa [LDataPDU.decHopcount, hdata] at hfits

/-- Layer 3 survives a frame in every configuration exactly if the frame is forwardable. -/
theorem onLPDU_returns_iff {l : LDataPDU} (hvalid : l.validLength = true) :
    (∀ s : Layer3, (s.onLPDU (.lData l)).Returns) ↔ l.Forwardable := by
  simp only [onLPDU, hvalid, if_true]
  constructor
  · intro h
    -- a daemon that only routes makes every check there is
    have hdeliver := deliver_of_onLData rfl (h (only (router (l.object + 1)) l.dest))
    exact ⟨encodable_of_deliver hdeliver,
      fun h0 => fits_of_router h0 (getLData_of_deliver hdeliver)⟩
  · exact fun h s => s.onLData_returns h

end Layer3

/-! ## The decoders -/

/-- Where a frame comes from. -/
inductive FrameSource where
  /-- A TP1 frame from a bus driver, through `LPDU::fromPacket`. -/
  | bus
  /-- A cEMI frame, through `CEMI_to_L_Data`. -/
  | cemi
  /-- An EMI1 or EMI2 frame, through `EMI_to_L_Data`. -/
  | emi
  deriving DecidableEq, Repr

/-- The frame made of a received byte string, if there is one. -/
def FrameSource.decode : FrameSource → CArray → Checked (Option LPDU)
  | .bus, c => do return some (← LPDU.fromPacket c)
  | .cemi, c => do return (← cemiToLData c).map .lData
  | .emi, c => do return (← emiToLData c).map .lData

/-- Receiving `c` faults neither in the decoder nor in Layer 3, however that is set up. -/
def FrameSafe (src : FrameSource) (c : CArray) : Prop :=
  ∃ r, src.decode c = .ok r ∧ ∀ l, r = some l → ∀ s : Layer3, (s.onLPDU l).Returns

/-- `c` is an extended TP1 frame whose length byte fits. -/
structure TP1Extended (c : CArray) : Prop where
  header : 7 ≤ c.length
  control : c.getD 0 0#8 &&& 0xd3#8 = 0x10#8
  format : c.getD 1 0#8 &&& 0x0f#8 = 0#8
  fits : (c.getD 6 0#8).toNat + 9 = c.length

/-- A payload of `n` bytes with `hops` hops left is too long for Layer 3 or for the server. -/
def TooLong (n : Nat) (hops : Byte) : Prop := 255 < n ∨ n = 255 ∧ hops ≠ 0#8

/-- The byte string announces a payload that is too long. -/
def Oversized : FrameSource → CArray → Prop
  | .bus, c => TP1Extended c ∧
      TooLong ((c.getD 6 0#8).toNat + 1) ((c.getD 1 0#8 >>> 4) &&& 0x07#8)
  | .cemi, c => CEMIComplete c ∧ TooLong (cemiLength c) ((cemiControl2 c >>> 4) &&& 0x07#8)
  | .emi, _ => False

theorem forwardable_iff {l : LDataPDU} (h1 : 1 ≤ l.data.length)
    (hhops : l.hopcount &&& 0xf8#8 = 0#8) :
    l.Forwardable ↔ ¬ TooLong l.data.length l.hopcount := by
  unfold TooLong
  constructor
  · rintro ⟨henc, hcemi⟩ (hlong | ⟨h255, h0⟩)
    · exact absurd henc.fits (by omega)
    · exact absurd (hcemi h0) (by omega)
  · intro h
    rw [not_or, not_and, not_lt] at h
    exact ⟨⟨h1, h.1, hhops⟩, fun h0 => by have := h.1; have := mt (h.2 ·) (not_not.mpr h0); omega⟩

theorem and_d3_of_and_53 {b : Byte} (h53 : b &&& 0x53#8 = 0x10#8) (h80 : b &&& 0x80#8 = 0#8) :
    b &&& 0xd3#8 = 0x10#8 := by
  calc b &&& 0xd3#8 = b &&& (0x53#8 ||| 0x80#8) := rfl
    _ = (b &&& 0x53#8) ||| (b &&& 0x80#8) := BitVec.and_or_distrib_left
    _ = 0x10#8 := by rw [h53, h80]; rfl

theorem and_53_of_and_d3 {b : Byte} (h : b &&& 0xd3#8 = 0x10#8) :
    b &&& 0x53#8 = 0x10#8 ∧ b &&& 0x80#8 = 0#8 := by
  constructor
  · calc b &&& 0x53#8 = (b &&& 0xd3#8) &&& 0x53#8 := (BitVec.and_assoc b 0xd3#8 0x53#8).symm
      _ = 0x10#8 := by rw [h]; rfl
  · calc b &&& 0x80#8 = (b &&& 0xd3#8) &&& 0x80#8 := (BitVec.and_assoc b 0xd3#8 0x80#8).symm
      _ = 0#8 := by rw [h]; rfl

/-- What a decoder promises of a frame it accepts, other than a long extended one. -/
structure LDataPDU.Short (l : LDataPDU) : Prop where
  nonempty : 1 ≤ l.data.length
  fits : l.data.length ≤ 16
  hops : l.hopcount &&& 0xf8#8 = 0#8

theorem LDataPDU.Short.forwardable {l : LDataPDU} (h : l.Short) : l.Forwardable :=
  ⟨⟨h.nonempty, Nat.le_trans h.fits (by decide), h.hops⟩,
    fun _ => Nat.lt_of_le_of_lt h.fits (by decide)⟩

theorem nibble_succ_le (b : Byte) : (b &&& 0x0f#8).toNat + 1 ≤ 16 :=
  Nat.succ_le_succ (toNat_and_le b 0x0f#8)

/-- `EMI_to_L_Data` reads inside its input and returns short frames only. -/
theorem emiToLData_answers (c : CArray) :
    Answers (emiToLData c) fun l => l.Short ∧ l.validLength = true := by
  rw [emiToLData]
  apply Answers.guard
  intro h8
  have hc6 := nibble_succ_le (c.getD 6 0#8)
  -- a nibble that runs past the end is cut to what is there
  have hlen : 7 + (if (c.getD 6 0#8 &&& 0x0f#8).toNat + 1 > c.length - 7 then c.length - 7
      else (c.getD 6 0#8 &&& 0x0f#8).toNat + 1) ≤ c.length := by
    split <;> omega
  rw [readByte_getD (by omega), readByte_getD (by omega), readByte_getD (by omega),
    readByte_getD (by omega), readByte_getD (by omega), readByte_getD (by omega)]
  simp only [Checked.ok_bind, readSlice_of_le hlen]
  apply Answers.accept
  refine ⟨⟨?_, ?_, shift_and_f8 _⟩, rfl⟩
  · simp only [List.length_take, List.length_drop]
    split <;> omega
  · simp only [List.length_take, List.length_drop]
    split <;> omega

/-- A standard frame is short. -/
theorem LDataPDU.initStandard_answers (l0 : LDataPDU) {c : CArray} (h6 : 6 ≤ c.length) :
    Answers (l0.initStandard c) LDataPDU.Short := by
  rw [initStandard, readByte_getD (by omega), readByte_getD (by omega), readByte_getD (by omega),
    readByte_getD (by omega), readByte_getD (by omega)]
  simp only [Checked.ok_bind]
  apply Answers.guard
  intro hlen
  rw [not_not] at hlen
  rw [readSlice_of_le (by omega), Checked.ok_bind]
  apply Answers.step (validChecksumOf_returns (by omega))
  intro v _
  apply Answers.accept
  have hc5 := nibble_succ_le (c.getD 5 0#8)
  refine ⟨?_, ?_, shift_and_f8 _⟩ <;> (simp only [List.length_take, List.length_drop]; omega)

/-- An extended frame that is kept with a valid length is one of `TP1Extended`. -/
theorem LDataPDU.initExtended_answers (l0 : LDataPDU) {c : CArray} (h6 : 6 ≤ c.length) :
    Answers (l0.initExtended c) fun l => l.validLength = true →
      7 ≤ c.length ∧ c.getD 1 0#8 &&& 0x0f#8 = 0#8 ∧ (c.getD 6 0#8).toNat + 9 = c.length := by
  rw [initExtended, readByte_getD (by omega), Checked.ok_bind]
  apply Answers.guard
  intro hfmt
  apply Answers.guard
  intro h7
  rw [readByte_getD (by omega), readByte_getD (by omega), readByte_getD (by omega),
    readByte_getD (by omega), readByte_getD (by omega)]
  simp only [Checked.ok_bind]
  apply Answers.guard
  intro hlen
  -- with a length byte that does not fit the frame has 23 bytes, and 8 of them are read
  have hslice : 7 + (if decide ((c.getD 6 0#8).toNat + 1 + 8 = c.length) = true then
      (c.getD 6 0#8).toNat + 1 else 8) ≤ c.length := by
    split
    · next hfit => rw [decide_eq_true_eq] at hfit; omega
    · next hfit => rw [decide_eq_true_eq] at hfit; omega
  rw [readSlice_of_le hslice, Checked.ok_bind]
  apply Answers.step (validChecksumOf_returns (by omega))
  intro v _
  apply Answers.accept
  intro hvalid
  have hfit : (c.getD 6 0#8).toNat + 1 + 8 = c.length := of_decide_eq_true hvalid
  exact ⟨by omega, not_not.mp hfmt, by omega⟩

/-- `L_Data_PDU::init` reads inside its input; what it keeps with a valid length is short or
    extended. -/
theorem LDataPDU.init_answers (c : CArray) :
    Answers (init c) fun l => l.validLength = true → l.Short ∨ TP1Extended c := by
  rw [init]
  apply Answers.guard
  intro h6
  rw [readByte_getD (by omega), Checked.ok_bind]
  apply Answers.guard
  intro h53
  apply Answers.branch
  · intro _
    exact (initStandard_answers _ (by omega)).mono fun l hshort _ => .inl hshort
  · intro h80
    refine (initExtended_answers _ (by omega)).mono fun l hext hvalid => .inr ?_
    obtain ⟨h7, hfmt, hfits⟩ := hext hvalid
    exact ⟨h7, and_d3_of_and_53 (not_not.mp h53) (not_not.mp h80), hfmt, hfits⟩

/-- A frame that is decoded to `l` is safe exactly if Layer 3 survives `l`. -/
theorem frameSafe_of_lData {src : FrameSource} {c : CArray} {l : LDataPDU}
    (hdec : src.decode c = .ok (some (.lData l))) (hvalid : l.validLength = true)
    (h1 : 1 ≤ l.data.length) (hhops : l.hopcount &&& 0xf8#8 = 0#8) :
    FrameSafe src c ↔ ¬ TooLong l.data.length l.hopcount := by
  rw [← forwardable_iff h1 hhops, ← Layer3.onLPDU_returns_iff hvalid]
  constructor
  · rintro ⟨r, hr, hsafe⟩
    rw [hdec] at hr
    cases hr
    exact hsafe _ rfl
  · intro h
    refine ⟨_, hdec, fun l' hl' => ?_⟩
    cases hl'
    exact h

/-- An extended frame whose length byte fits is decoded with the payload it announces. -/
theorem TP1Extended.fromPacket {c : CArray} (h : TP1Extended c) :
    ∃ l, LPDU.fromPacket c = .ok (.lData l) ∧ l.validLength = true ∧
      l.data.length = (c.getD 6 0#8).toNat + 1 ∧ l.hopcount = (c.getD 1 0#8 >>> 4) &&& 0x07#8 := by
  obtain ⟨header, control, format, fits⟩ := h
  match c, header with
  | b0 :: b1 :: b2 :: b3 :: b4 :: b5 :: b6 :: rest, _ =>
    simp only [List.getD_cons_zero, List.getD_cons_succ, List.length_cons] at control format fits ⊢
    -- the header is followed by the payload and the check byte
    have hrest : rest ≠ [] := by
      rintro rfl
      simp only [List.length_nil] at fits
      omega
    obtain ⟨data, chk, rfl⟩ : ∃ data chk, rest = data ++ [chk] :=
      ⟨_, _, (List.dropLast_append_getLast hrest).symm⟩
    have hlen : b6.toNat + 1 = data.length := by
      simp only [List.length_append, List.length_singleton] at fits
      omega
    obtain ⟨h53, h80⟩ := and_53_of_and_d3 control
    obtain ⟨v, hv⟩ := validChecksumOf_cons b0 (b1 :: b2 :: b3 :: b4 :: b5 :: b6 :: (data ++ [chk]))
    have hinit := LDataPDU.init_extended h53 h80 format hlen hv
    exact ⟨_, by simp [LPDU.fromPacket, LPDU.candidate, h53, hinit]; rfl, rfl, hlen.symm, rfl⟩

/-- `LPDU::fromPacket` reads inside its input, and Layer 3 survives every frame it returns that
    is not extended. -/
theorem fromPacket_safe {c : CArray} (h : ¬ TP1Extended c) :
    ∃ p, LPDU.fromPacket c = .ok p ∧ ∀ s : Layer3, (s.onLPDU p).Returns := by
  obtain ⟨r, hr, hspec⟩ := LDataPDU.init_answers c
  have hcandidate : ∃ p, LPDU.fromPacket c = .ok p ∧
      ((∃ l, r = some l ∧ p = .lData l) ∨ p ∈ [.unknown c, .ack, .nack, .busy]) := by
    unfold LPDU.fromPacket LPDU.candidate
    split
    · exact ⟨_, rfl, .inr (by simp)⟩
    · rw [readByte_getD (by omega), Checked.ok_bind]
      split
      · rw [hr]
        cases r with
        | none => exact ⟨_, rfl, .inr (by simp)⟩
        | some l => exact ⟨_, rfl, .inl ⟨l, rfl, rfl⟩⟩
      · split
        · split <;> exact ⟨_, rfl, .inr (by simp)⟩
        split
        · split <;> exact ⟨_, rfl, .inr (by simp)⟩
        split
        · split <;> exact ⟨_, rfl, .inr (by simp)⟩
        · exact ⟨_, rfl, .inr (by simp)⟩
  obtain ⟨p, hp, hcase⟩ := hcandidate
  refine ⟨p, hp, fun s => ?_⟩
  rcases hcase with ⟨l, rfl, rfl⟩ | hmem
  -- a frame whose length byte does not fit is an `L_Data_Part`, which Layer 3 leaves alone
  · by_cases hvalid : l.validLength = true
    · have hshort := (hspec l rfl hvalid).resolve_right h
      exact (Layer3.onLPDU_returns_iff hvalid).mpr hshort.forwardable s
    · simp [Layer3.onLPDU, hvalid]
  · simp only [List.mem_cons, List.not_mem_nil, or_false] at hmem
    rcases hmem with rfl | rfl | rfl | rfl <;> exact ⟨_, rfl⟩

/-- `LPDU::fromPacket` answers every byte string. -/
theorem LPDU.fromPacket_returns (c : CArray) : ∃ f, LPDU.fromPacket c = .ok f := by
  by_cases h : TP1Extended c
  · obtain ⟨l, hl, -⟩ := h.fromPacket
    exact ⟨_, hl⟩
  · obtain ⟨f, hf, -⟩ := fromPacket_safe h
    exact ⟨f, hf⟩

/-! ## The result -/

theorem frameSafe_bus_iff (c : CArray) : FrameSafe .bus c ↔ ¬ Oversized .bus c := by
  by_cases hext : TP1Extended c
  · obtain ⟨l, hl, hvalid, hlen, hhops⟩ := hext.fromPacket
    have hdec : FrameSource.bus.decode c = .ok (some (.lData l)) := by
      simp [FrameSource.decode, hl]
    rw [frameSafe_of_lData hdec hvalid (by omega) (by rw [hhops]; exact shift_and_f8 _), hlen,
      hhops]
    simp [Oversized, hext]
  · obtain ⟨p, hp, hsafe⟩ := fromPacket_safe hext
    have hdec : FrameSource.bus.decode c = .ok (some p) := by simp [FrameSource.decode, hp]
    have hsafe' : FrameSafe .bus c := ⟨_, hdec, fun l hl => by cases hl; exact hsafe⟩
    simp [Oversized, hext, hsafe']

theorem frameSafe_cemi_iff (c : CArray) : FrameSafe .cemi c ↔ ¬ Oversized .cemi c := by
  by_cases hcomplete : CEMIComplete c
  · have hdec : FrameSource.cemi.decode c = .ok (some (.lData (cemiDecoded c))) := by
      simp [FrameSource.decode, cemiToLData_complete hcomplete]
    have hlen : (cemiDecoded c).data.length = cemiLength c := hcomplete.payload_length
    have hpos : 1 ≤ cemiLength c := Nat.le_add_left ..
    rw [frameSafe_of_lData hdec rfl (by omega) (shift_and_f8 _), hlen]
    simp only [Oversized, hcomplete, true_and]
    rfl
  · have hdec : FrameSource.cemi.decode c = .ok none := by
      simp [FrameSource.decode, cemiToLData_incomplete hcomplete]
    have hsafe : FrameSafe .cemi c :=
      ⟨_, hdec, fun _ hp => absurd hp.symm (Option.some_ne_none _)⟩
    simp [Oversized, hcomplete, hsafe]

/-- EMI frames are always short enough. -/
theorem frameSafe_emi (c : CArray) : FrameSafe .emi c := by
  obtain ⟨r, hr, hspec⟩ := emiToLData_answers c
  refine ⟨r.map .lData, by simp [FrameSource.decode, hr], fun p hp s => ?_⟩
  obtain ⟨l, rfl, rfl⟩ := Option.map_eq_some_iff.mp hp
  obtain ⟨hshort, hvalid⟩ := hspec l rfl
  exact (Layer3.onLPDU_returns_iff hvalid).mpr hshort.forwardable s

/-- Receiving a byte string is safe exactly if the payload it announces is not too long. -/
theorem frameSafe_iff (src : FrameSource) (c : CArray) : FrameSafe src c ↔ ¬ Oversized src c := by
  cases src with
  | bus => exact frameSafe_bus_iff c
  | cemi => exact frameSafe_cemi_iff c
  | emi => exact ⟨fun _ h => h, fun _ => frameSafe_emi c⟩

/-- An extended TP1 frame with length byte `0xff`: a payload of 256 bytes and a good checksum. -/
def longFrame : CArray :=
  [0x3c#8, 0xe0#8, 0x11#8, 0x01#8, 0x08#8, 0x01#8, 0xff#8] ++ List.replicate 256 0#8 ++ [0xc5#8]

/-- It is decoded, and Layer 3 stops at an assertion of `ToPacket`. -/
theorem frameSafe_fails_longFrame : ¬ FrameSafe .bus longFrame := by
  rw [frameSafe_bus_iff, not_not]
  have hlen : longFrame.length = 264 := by
    rw [longFrame, List.length_append, List.length_append, List.length_replicate]
    rfl
  have hext : TP1Extended longFrame := ⟨by omega, by decide, by decide, by rw [hlen]; rfl⟩
  exact ⟨hext, .inl (by decide)⟩

end BcuSdk.Eibd
