/-
  BcuSdk.Eibd.TpuartSerialSafety

  The acknowledgements of `TPUARTSerialLayer2Driver`.

  `Sound` says what `acked` is worth: that the frame at the front of `in` has
  its own acknowledgement.  A timeout behind the acknowledgement removes the
  first byte of the frame and leaves `acked` set; until a frame or an unknown
  byte is removed the flag then belongs to nothing.
-/
import BcuSdk.Eibd.TpuartSerial
import BcuSdk.Eibd.FrameSafety

namespace BcuSdk.Eibd

open BcuSdk.Lib

/-! ## The right acknowledgement -/

/-- The byte was computed from the address type and the destination of this frame. -/
def Acknowledgement.For (a : Acknowledgement) (f : FrameFormat) (c : CArray) : Prop :=
  a.byte = ackInformation (a.table.addressed (f.addrType c) (f.dest c))

/-- Exactly one acknowledgement, its own. -/
def ReceivedFrame.AckedOnce (r : ReceivedFrame) : Prop :=
  ∃ a, r.acks = [a] ∧ a.For r.format r.frame

namespace FrameFormat

variable {c : CArray} {n : Nat}

/-- Type and destination stand in the header. -/
theorem addrType_take (f : FrameFormat) (h : f.header ≤ n) :
    f.addrType (c.take n) = f.addrType c := by
  cases f with
  | standard =>
      have h : 6 ≤ n := h
      simp only [addrType, List.getD_eq_getElem?_getD,
        List.getElem?_take_of_lt (show 5 < n by omega)]
  | extended =>
      have h : 7 ≤ n := h
      simp only [addrType, List.getD_eq_getElem?_getD,
        List.getElem?_take_of_lt (show 1 < n by omega)]

theorem dest_take (f : FrameFormat) (h : f.header ≤ n) : f.dest (c.take n) = f.dest c := by
  cases f with
  | standard =>
      have h : 6 ≤ n := h
      simp only [dest, List.getD_eq_getElem?_getD, List.getElem?_take_of_lt (show 3 < n by omega),
        List.getElem?_take_of_lt (show 4 < n by omega)]
  | extended =>
      have h : 7 ≤ n := h
      simp only [dest, List.getD_eq_getElem?_getD, List.getElem?_take_of_lt (show 4 < n by omega),
        List.getElem?_take_of_lt (show 5 < n by omega)]

end FrameFormat

/-- The two kinds differ in the first bit. -/
theorem FrontByte.format_eq {b : Byte} {f : FrameFormat} (h : FrontByte.of b = .frame f) :
    f = if b &&& 0x80#8 ≠ 0#8 then .standard else .extended := by
  have hbit : b &&& 0x80#8 = (b &&& 0xD0#8) &&& 0x80#8 := (BitVec.and_assoc b 0xD0#8 0x80#8).symm
  unfold FrontByte.of at h
  split_ifs at h with _ _ _ _ hstandard hextended
  · cases h
    rw [hbit, hstandard]
    rfl
  · cases h
    rw [hbit, hextended]
    rfl

theorem LDataPDU.initStandard_dest (l0 : LDataPDU) {c : CArray} (h6 : 6 ≤ c.length) :
    Answers (l0.initStandard c) fun l =>
      l.addrType = FrameFormat.standard.addrType c ∧ l.dest = FrameFormat.standard.dest c := by
  rw [initStandard, readByte_getD (by omega), readByte_getD (by omega), readByte_getD (by omega),
    readByte_getD (by omega), readByte_getD (by omega)]
  simp only [Checked.ok_bind]
  apply Answers.guard
  intro hlen
  rw [not_not] at hlen
  rw [readSlice_of_le (by omega), Checked.ok_bind]
  apply Answers.step (validChecksumOf_returns (by omega))
  intro v _
  exact Answers.accept ⟨rfl, rfl⟩

theorem LDataPDU.initExtended_dest (l0 : LDataPDU) {c : CArray} (h6 : 6 ≤ c.length) :
    Answers (l0.initExtended c) fun l =>
      l.addrType = FrameFormat.extended.addrType c ∧ l.dest = FrameFormat.extended.dest c := by
  rw [initExtended, readByte_getD (by omega), Checked.ok_bind]
  apply Answers.guard
  intro _
  apply Answers.guard
  intro h7
  rw [readByte_getD (by omega), readByte_getD (by omega), readByte_getD (by omega),
    readByte_getD (by omega), readByte_getD (by omega)]
  simp only [Checked.ok_bind]
  apply Answers.guard
  intro hlen
  have hslice : 7 + (if decide ((c.getD 6 0#8).toNat + 1 + 8 = c.length) = true then
      (c.getD 6 0#8).toNat + 1 else 8) ≤ c.length := by
    split
    · next hfit => rw [decide_eq_true_eq] at hfit; omega
    · next hfit => rw [decide_eq_true_eq] at hfit; omega
  rw [readSlice_of_le hslice, Checked.ok_bind]
  apply Answers.step (validChecksumOf_returns (by omega))
  intro v _
  exact Answers.accept ⟨rfl, rfl⟩

/-- `L_Data_PDU::init` finds type and destination in the same place. -/
theorem LDataPDU.init_dest {c : CArray} {f : FrameFormat}
    (hf : FrontByte.of (c.getD 0 0#8) = .frame f) :
    Answers (init c) fun l => l.addrType = f.addrType c ∧ l.dest = f.dest c := by
  rw [init]
  apply Answers.guard
  intro h6
  rw [readByte_getD (by omega), Checked.ok_bind]
  apply Answers.guard
  intro _
  apply Answers.branch
  · intro h80
    obtain rfl : f = .standard := (FrontByte.format_eq hf).trans (if_pos h80)
    exact initStandard_dest _ (by omega)
  · intro h80
    obtain rfl : f = .extended := (FrontByte.format_eq hf).trans (if_neg h80)
    exact initExtended_dest _ (by omega)

theorem Acknowledgement.for_take {a : Acknowledgement} {f : FrameFormat} {c : CArray} {n : Nat}
    (h : f.header ≤ n) : a.For f (c.take n) ↔ a.For f c := by
  rw [For, For, f.addrType_take h, f.dest_take h]

namespace TPUARTSerialLayer2Driver

variable {s s' : TPUARTSerialLayer2Driver} {b : Byte} {rest : CArray} {f : FrameFormat}

/-- The byte at the front of `in` is `b`. -/
def Front (s : TPUARTSerialLayer2Driver) (x : FrontByte) : Prop :=
  ∃ b rest, s.input = b :: rest ∧ FrontByte.of b = x

/-- A data frame is at the front, as a whole. -/
def Completes (s : TPUARTSerialLayer2Driver) : Prop :=
  ∃ f, s.Front (.frame f) ∧ f.length s.input ≤ s.input.length

/-- The frame at the front has its acknowledgement. -/
def FrontAcked (s : TPUARTSerialLayer2Driver) : Prop :=
  ∃ f a, s.Front (.frame f) ∧ f.header ≤ s.input.length ∧ s.acks = [a] ∧ a.For f s.input

/-- A frame that waits for its confirmation is still in `inqueue`. -/
structure SendSound (s : TPUARTSerialLayer2Driver) : Prop where
  signal : s.inSignal = s.inqueue.length
  pending : s.waitconfirm = true → s.inqueue ≠ []

/-- What `acked` says about the frame at the front, as long as no frame has been abandoned. -/
structure Sound (s : TPUARTSerialLayer2Driver) : Prop where
  sends : s.SendSound
  fresh : s.acked = false → s.acks = [] ∧ s.abandoned = false
  own : s.acked = true → s.abandoned = false → s.FrontAcked
  stale : s.abandoned = true → s.acks = []

theorem Front.unique {x y : FrontByte} (hx : s.Front x) (hy : s.Front y) : x = y := by
  obtain ⟨b, rest, hb, rfl⟩ := hx
  obtain ⟨b', rest', hb', rfl⟩ := hy
  obtain ⟨rfl, -⟩ := List.cons.inj (hb.symm.trans hb')
  rfl

theorem Front.of_input {x : FrontByte} (h : s.Front x) (heq : s'.input = s.input) : s'.Front x := by
  obtain ⟨b, rest, hb, hx⟩ := h
  exact ⟨b, rest, heq.trans hb, hx⟩

/-! ## What does not concern the reception -/

/-- `in` and the acknowledgements are left alone. -/
structure Quiet (s s' : TPUARTSerialLayer2Driver) : Prop where
  input : s'.input = s.input
  acked : s'.acked = s.acked
  acks : s'.acks = s.acks
  received : s'.received = s.received
  abandoned : s'.abandoned = s.abandoned
  sends : s.SendSound → s'.SendSound

theorem Quiet.refl (s : TPUARTSerialLayer2Driver) : s.Quiet s := ⟨rfl, rfl, rfl, rfl, rfl, id⟩

theorem Quiet.trans {s₁ s₂ s₃ : TPUARTSerialLayer2Driver} (h : s₁.Quiet s₂) (h' : s₂.Quiet s₃) :
    s₁.Quiet s₃ where
  input := h'.input.trans h.input
  acked := h'.acked.trans h.acked
  acks := h'.acks.trans h.acks
  received := h'.received.trans h.received
  abandoned := h'.abandoned.trans h.abandoned
  sends := fun hs => h'.sends (h.sends hs)

theorem Sound.quiet (h : s.Sound) (hq : s.Quiet s') : s'.Sound where
  sends := hq.sends h.sends
  fresh := by
    rw [hq.acked, hq.acks, hq.abandoned]
    exact h.fresh
  own hacked habandoned := by
    obtain ⟨f, a, hf, hlen, hacks, hfor⟩ :=
      h.own (hq.acked.symm.trans hacked) (hq.abandoned.symm.trans habandoned)
    refine ⟨f, a, hf.of_input hq.input, ?_, hq.acks.trans hacks, ?_⟩
    · rwa [hq.input]
    · rwa [hq.input]
  stale := by
    rw [hq.abandoned, hq.acks]
    exact h.stale

/-- The driver's queues and its tables. -/
theorem quiet_of_sends (hinput : s'.input = s.input) (hacked : s'.acked = s.acked)
    (hacks : s'.acks = s.acks) (hreceived : s'.received = s.received)
    (habandoned : s'.abandoned = s.abandoned) (hwait : s'.waitconfirm = s.waitconfirm)
    (hqueue : s'.inqueue = s.inqueue) (hsignal : s'.inSignal = s.inSignal) : s.Quiet s' where
  input := hinput
  acked := hacked
  acks := hacks
  received := hreceived
  abandoned := habandoned
  sends h := ⟨by rw [hsignal, hqueue, h.signal], by rw [hwait, hqueue]; exact h.pending⟩

theorem call_quiet {c : Call} (h : s.call c = .ok s') : s.Quiet s' := by
  cases c with
  | «open» | enterBusmonitor | leaveBusmonitor | openVBusmonitor | closeVBusmonitor =>
      cases h
      exact quiet_of_sends rfl rfl rfl rfl rfl rfl rfl rfl
  | addAddress | addGroupAddress | removeAddress | removeGroupAddress =>
      cases h
      exact quiet_of_sends rfl rfl rfl rfl rfl rfl rfl rfl
  | sendLData l =>
      cases h
      refine ⟨rfl, rfl, rfl, rfl, rfl, fun hs => ⟨?_, fun _ => ?_⟩⟩
      · show s.inSignal + 1 = (s.inqueue ++ [l]).length
        rw [List.length_append, List.length_singleton, hs.signal]
      · exact List.append_ne_nil_of_right_ne_nil _ (List.cons_ne_nil _ _)
  | getLData =>
      obtain ⟨outSignal, -, h⟩ := Checked.bind_eq_ok.mp h
      obtain ⟨⟨l, outqueue⟩, -, h⟩ := Checked.bind_eq_ok.mp h
      cases h
      exact quiet_of_sends rfl rfl rfl rfl rfl rfl rfl rfl

theorem calls_quiet {others : List Call} (h : s.calls others = .ok s') : s.Quiet s' :=
  run_invariant (fun _ _ _ hq _ hcall => hq.trans (call_quiet hcall)) (.refl s)
    (StepsMeet.of_events fun _ _ => trivial) h

theorem put_quiet (s : TPUARTSerialLayer2Driver) (l : LPDU) : s.Quiet (s.put l) :=
  quiet_of_sends rfl rfl rfl rfl rfl rfl rfl rfl

/-- `RecvLPDU` returns on every input. -/
theorem recvLPDU_spec (s : TPUARTSerialLayer2Driver) (data : CArray) :
    ∃ s', s.recvLPDU data = .ok s' ∧ s.Quiet s' := by
  have hbus : s.Quiet (if s.mode ∨ s.vmode then s.put (.busmonitor { pdu := data }) else s) := by
    split
    · exact s.put_quiet _
    · exact .refl s
  obtain ⟨l, hl⟩ := LPDU.fromPacket_returns data
  rw [recvLPDU]
  generalize (if s.mode ∨ s.vmode then s.put (.busmonitor { pdu := data }) else s) = s₁ at hbus
  split
  · exact ⟨s₁, rfl, hbus⟩
  · rw [hl, Checked.ok_bind]
    split
    · split
      · exact ⟨_, rfl, hbus.trans (s₁.put_quiet _)⟩
      · exact ⟨s₁, rfl, hbus⟩
    · exact ⟨s₁, rfl, hbus⟩

/-- A frame that waited for its confirmation can be dropped. -/
theorem dropSend_spec (hs : s.SendSound) (hne : s.inqueue ≠ []) (hwait : s.waitconfirm = false) :
    ∃ s', s.dropSend = .ok s' ∧ s.Quiet s' := by
  obtain ⟨l, inqueue, hqueue⟩ := List.exists_cons_of_ne_nil hne
  have hsignal : s.inSignal = inqueue.length + 1 := by
    rw [hs.signal, hqueue, List.length_cons]
  rw [dropSend, hqueue, hsignal]
  refine ⟨_, rfl, rfl, rfl, rfl, rfl, rfl, fun _ => ⟨rfl, fun h => ?_⟩⟩
  rw [hwait] at h
  cases h

theorem quiet_unwait (s : TPUARTSerialLayer2Driver) (retry : Nat) :
    s.Quiet { s with waitconfirm := false, retry } :=
  ⟨rfl, rfl, rfl, rfl, rfl, fun hs => ⟨hs.signal, nofun⟩⟩

theorem quiet_retry (s : TPUARTSerialLayer2Driver) (retry : Nat) : s.Quiet { s with retry } :=
  quiet_of_sends rfl rfl rfl rfl rfl rfl rfl rfl

theorem showConfirm_spec (s : TPUARTSerialLayer2Driver) (b : Byte) :
    ∃ s', s.showConfirm b = .ok s' ∧ s.Quiet s' := by
  rw [showConfirm]
  split
  · exact s.recvLPDU_spec [b]
  · exact ⟨s, rfl, .refl s⟩

theorem onConfirm_spec (hs : s.SendSound) : ∃ s', s.onConfirm = .ok s' ∧ s.Quiet s' := by
  obtain ⟨s₁, h₁, hq⟩ := s.showConfirm_spec 0xCC#8
  rw [onConfirm, h₁, Checked.ok_bind]
  split
  · next hwait =>
    have hunwait := s₁.quiet_unwait s₁.retry
    have hs₁ := hq.sends hs
    obtain ⟨s₂, h₂, hq₂⟩ := dropSend_spec (hunwait.sends hs₁) (hs₁.pending hwait) rfl
    rw [h₂]
    exact ⟨_, rfl, hq.trans (hunwait.trans (hq₂.trans (s₂.quiet_retry 0)))⟩
  · exact ⟨s₁, rfl, hq⟩

theorem onNoConfirm_spec (hs : s.SendSound) : ∃ s', s.onNoConfirm = .ok s' ∧ s.Quiet s' := by
  obtain ⟨s₁, h₁, hq⟩ := s.showConfirm_spec 0x0C#8
  rw [onNoConfirm, h₁, Checked.ok_bind]
  split
  · next hwait =>
    have hunwait := s₁.quiet_unwait (s₁.retry + 1)
    have hs₁ := hq.sends hs
    dsimp only
    split
    · obtain ⟨s₂, h₂, hq₂⟩ := dropSend_spec (hunwait.sends hs₁) (hs₁.pending hwait) rfl
      rw [h₂]
      exact ⟨_, rfl, hq.trans (hunwait.trans (hq₂.trans (s₂.quiet_retry 0)))⟩
    · exact ⟨_, rfl, hq.trans hunwait⟩
  · exact ⟨s₁, rfl, hq⟩

/-! ### Behind the loop -/

theorem onSendTimeout_quiet {occurred : Bool} (hs : s.SendSound)
    (h : s.onSendTimeout occurred = .ok s') : s.Quiet s' := by
  rw [onSendTimeout] at h
  split at h
  · next hwait =>
    have hunwait := s.quiet_unwait (s.retry + 1)
    dsimp only at h
    split at h
    · obtain ⟨s₂, h₂, hq₂⟩ := dropSend_spec (hunwait.sends hs) (hs.pending hwait.1) rfl
      cases h₂.symm.trans h
      exact hunwait.trans hq₂
    · cases h
      exact hunwait
  · cases h
    exact .refl s

theorem onWatchdog_quiet (s : TPUARTSerialLayer2Driver) (occurred : Bool) :
    s.Quiet (s.onWatchdog occurred) := by
  have hwatch : ∀ (s : TPUARTSerialLayer2Driver) (written : List CArray) (watch : Nat),
      s.Quiet { s with written, watch } :=
    fun s written watch => quiet_of_sends rfl rfl rfl rfl rfl rfl rfl rfl
  have hite : ∀ (s : TPUARTSerialLayer2Driver) (p : Prop) [Decidable p] (written : List CArray)
      (watch : Nat), s.Quiet (if p then { s with written, watch } else s) := by
    intro s p _ written watch
    split
    · exact hwatch s written watch
    · exact .refl s
  exact (hite s _ _ _).trans ((hite _ _ _ _).trans (hite _ _ _ _))

theorem sendNext_quiet (h : s.sendNext = .ok s') : s.Quiet s' := by
  rw [sendNext] at h
  split at h
  · next hsend =>
    obtain ⟨l, -, h⟩ := Checked.bind_eq_ok.mp h
    obtain ⟨d, -, h⟩ := Checked.bind_eq_ok.mp h
    obtain ⟨w, -, h⟩ := Checked.bind_eq_ok.mp h
    cases h
    exact ⟨rfl, rfl, rfl, rfl, rfl, fun hs => ⟨hs.signal, fun _ => hsend.2.1⟩⟩
  · split at h
    · cases h
      exact quiet_of_sends rfl rfl rfl rfl rfl rfl rfl rfl
    · cases h
      exact .refl s

theorem afterLoop_quiet {sendtimeout watchdog : Bool} (hs : s.SendSound)
    (h : s.afterLoop sendtimeout watchdog = .ok s') : s.Quiet s' := by
  obtain ⟨s₁, h₁, h₂⟩ := Checked.bind_eq_ok.mp h
  exact (onSendTimeout_quiet hs h₁).trans ((s₁.onWatchdog_quiet _).trans (sendNext_quiet h₂))

/-! ## A pass -/

/-- What a pass does. -/
structure PassSpec (s : TPUARTSerialLayer2Driver) (n : Next) : Prop where
  sound : n.state.Sound
  progress : (∃ s', n = .wait s') ∨ n.state.input.length < s.input.length
  received : ¬ s.Completes ∧ n.state.received = s.received ∨
    s.Completes ∧ ∃ r, n.state.received = s.received ++ [r] ∧ (r.AckedOnce ↔ s.abandoned = false)

theorem not_completes_of_front {x : FrontByte} (hfront : s.Front x)
    (hx : ∀ f, x ≠ .frame f) : ¬ s.Completes := by
  rintro ⟨f, hf, -⟩
  exact hx f (hfront.unique hf)

theorem not_frontAcked_of_front {x : FrontByte} (hfront : s.Front x)
    (hx : ∀ f, x ≠ .frame f) : ¬ s.FrontAcked := by
  rintro ⟨f, -, hf, -⟩
  exact hx f (hfront.unique hf)

/-- The byte at the front is removed. -/
theorem PassSpec.removed (h : s.Sound) (hin : s.input = b :: rest) (hnot : ¬ s.Completes)
    (hinput : s'.input = rest) (hacks : s'.acks = []) (hreceived : s'.received = s.received)
    (hsends : s'.SendSound)
    (hflags : (s'.acked = s.acked ∧ s'.abandoned = s.abandoned ∧ ¬ s.FrontAcked) ∨
      (s'.acked = false ∧ s'.abandoned = false) ∨ (s'.acked = true ∧ s'.abandoned = true)) :
    s.PassSpec (.again s') where
  sound := by
    refine ⟨hsends, fun hacked => ⟨hacks, ?_⟩, fun hacked habandoned => ?_, fun _ => hacks⟩
    · rcases hflags with ⟨hsame, habandoned, -⟩ | ⟨-, habandoned⟩ | ⟨hset, -⟩
      · exact habandoned.trans (h.fresh (hsame.symm.trans hacked)).2
      · exact habandoned
      · cases hacked.symm.trans hset
    · rcases hflags with ⟨hsame, hsame', hno⟩ | ⟨hclear, -⟩ | ⟨-, hset⟩
      · exact absurd (h.own (hsame.symm.trans hacked) (hsame'.symm.trans habandoned)) hno
      · cases hacked.symm.trans hclear
      · cases habandoned.symm.trans hset
  progress := .inr (by
    show s'.input.length < s.input.length
    rw [hinput, hin, List.length_cons]
    exact Nat.lt_succ_self _)
  received := .inl ⟨hnot, hreceived⟩

/-- The loop is left. -/
theorem PassSpec.waits (hnot : ¬ s.Completes) (hsound : s'.Sound)
    (hreceived : s'.received = s.received) : s.PassSpec (.wait s') :=
  ⟨hsound, .inl ⟨s', rfl⟩, .inl ⟨hnot, hreceived⟩⟩

theorem quiet_timer (s : TPUARTSerialLayer2Driver) (timer : Bool) : s.Quiet { s with timer } :=
  quiet_of_sends rfl rfl rfl rfl rfl rfl rfl rfl

theorem input_remove (hin : s.input = b :: rest) : (s.remove 1).input = rest := by
  show deletepart s.input 0 1 = rest
  rw [hin, deletepart_zero]
  rfl

/-- A byte that has nothing to do with frames. -/
theorem PassSpec.control {x : FrontByte} {s₁ : TPUARTSerialLayer2Driver} (h : s.Sound)
    (hin : s.input = b :: rest) (hb : FrontByte.of b = x) (hx : ∀ f, x ≠ .frame f)
    (hq : s.Quiet s₁) (watch : Nat) :
    s.PassSpec (.again { s₁.remove 1 with watch, timer := false }) := by
  have hfront : s.Front x := ⟨b, rest, hin, hb⟩
  exact .removed h hin (not_completes_of_front hfront hx) (input_remove (hq.input.trans hin)) rfl
    hq.received
    ⟨(hq.sends h.sends).signal, (hq.sends h.sends).pending⟩
    (.inl ⟨hq.acked, hq.abandoned, not_frontAcked_of_front hfront hx⟩)

/-- The acknowledgement of the frame at the front, which is written here or has been. -/
theorem sendAck_spec {others : List Call} (h : s.Sound) (hfront : s.Front (.frame f))
    (hheader : f.header ≤ s.input.length) (hack : s.sendAck f others = .ok s') :
    s'.Sound ∧ s'.acked = true ∧ s'.input = s.input ∧ s'.received = s.received ∧
      s'.abandoned = s.abandoned := by
  rw [sendAck] at hack
  split at hack
  · next hacked =>
    cases hack
    exact ⟨h, hacked, rfl, rfl, rfl⟩
  -- the acknowledgement depends on the table as it is now
  · next hacked =>
    obtain ⟨hacks, habandoned⟩ := h.fresh (Bool.eq_false_iff.mpr hacked)
    obtain ⟨s₁, hcalls, hack⟩ := Checked.bind_eq_ok.mp hack
    cases hack
    have hq := calls_quiet hcalls
    have hinput : s₁.input = s.input := hq.input
    have habandoned₁ : s₁.abandoned = s.abandoned := hq.abandoned
    have hsends : s₁.SendSound := hq.sends ⟨h.sends.signal, h.sends.pending⟩
    have hacks₁ : s₁.acks = [⟨ackInformation (s.table.addressed (f.addrType s.input)
        (f.dest s.input)), s.table⟩] := by
      rw [hq.acks, hacks]
      rfl
    refine ⟨⟨⟨hsends.signal, hsends.pending⟩, nofun, fun _ _ => ?_, fun hset => ?_⟩, rfl, hinput,
      hq.received, habandoned₁⟩
    · refine ⟨f, _, hfront.of_input hinput, ?_, hacks₁, ?_⟩
      · rwa [hinput]
      · rw [Acknowledgement.For, hinput]
    · cases hset.symm.trans (habandoned₁.trans habandoned)

/-- The frame at the front is passed on. -/
theorem PassSpec.passedOn {s₁ s₂ : TPUARTSerialLayer2Driver}
    (hfront : s.Front (.frame f)) (hlen : f.length s₁.input ≤ s₁.input.length)
    (hinput : s₁.input = s.input) (hacked : s₁.acked = true) (hsound : s₁.Sound)
    (hreceived : s₁.received = s.received) (habandoned : s₁.abandoned = s.abandoned)
    (hq : Quiet { s₁ with
      acked := false
      abandoned := false
      received := s₁.received ++ [⟨f, s₁.input.take (f.length s₁.input), s₁.acks⟩] } s₂) :
    s.PassSpec (.again { s₂.remove (f.length s₁.input) with timer := false }) where
  sound := by
    have hsends := hq.sends ⟨hsound.sends.signal, hsound.sends.pending⟩
    refine ⟨⟨hsends.signal, hsends.pending⟩, fun _ => ⟨rfl, hq.abandoned⟩, ?_, fun _ => rfl⟩
    intro hset
    cases hset.symm.trans hq.acked
  progress := .inr (by
    have hrest : s₂.input = s.input := hq.input.trans hinput
    have hpos := f.header_lt_length s₁.input
    show (deletepart s₂.input 0 (f.length s₁.input)).length < s.input.length
    rw [hrest, deletepart_zero, List.length_drop, ← hinput]
    omega)
  received := by
    refine .inr ⟨⟨f, hfront, by rwa [← hinput]⟩,
      ⟨f, s₁.input.take (f.length s₁.input), s₁.acks⟩, ?_, ?_⟩
    · rw [← hreceived]
      exact hq.received
    · constructor
      -- an acknowledgement of an abandoned frame is never about this one
      · rintro ⟨a, hacks, -⟩
        rw [Bool.eq_false_iff]
        intro hset
        rw [hsound.stale (habandoned.trans hset)] at hacks
        cases hacks
      -- otherwise it was sent for the frame at the front
      · intro hclear
        obtain ⟨f', a, hf', hheader, hacks, hfor⟩ :=
          hsound.own hacked (habandoned.trans hclear)
        obtain rfl := FrontByte.frame.inj ((hf'.of_input hinput.symm).unique hfront)
        refine ⟨a, hacks, (Acknowledgement.for_take ?_).mpr ?_⟩
        · exact Nat.le_of_lt (f'.header_lt_length _)
        · exact hfor

theorem onFrame_spec {occurred : Bool} {others : List Call} {n : Next} (h : s.Sound)
    (hin : s.input = b :: rest) (hb : FrontByte.of b = .frame f)
    (hpass : s.onFrame f occurred others = .ok n) : s.PassSpec n := by
  have hfront : s.Front (.frame f) := ⟨b, rest, hin, hb⟩
  rw [onFrame] at hpass
  -- less than the header is there
  split at hpass
  case isTrue hshort =>
    cases hpass
    have hnot : ¬ s.Completes := by
      rintro ⟨f', hf', hlen⟩
      obtain rfl := FrontByte.frame.inj (hf'.unique hfront)
      have := f'.header_lt_length s.input
      omega
    rw [awaitRest]
    split
    · -- "Remove1": the frame has not been acknowledged
      refine .removed h hin hnot (input_remove hin) rfl rfl ⟨h.sends.signal, h.sends.pending⟩
        (.inl ⟨rfl, rfl, ?_⟩)
      rintro ⟨f', a, hf', hheader, -⟩
      obtain rfl := FrontByte.frame.inj (hf'.unique hfront)
      omega
    · exact .waits hnot (h.quiet (s.quiet_timer true)) rfl
  case isFalse hheader =>
    obtain ⟨s₁, hack, hpass⟩ := Checked.bind_eq_ok.mp hpass
    obtain ⟨hsound, hacked, hinput, hreceived, habandoned⟩ :=
      sendAck_spec h hfront (not_lt.mp hheader) hack
    dsimp only at hpass
    split at hpass
    -- acknowledged, but the rest is still missing
    · next hshort =>
      cases hpass
      rw [hinput] at hshort
      have hnot : ¬ s.Completes := by
        rintro ⟨f', hf', hlen⟩
        obtain rfl := FrontByte.frame.inj (hf'.unique hfront)
        omega
      rw [awaitRest]
      split
      · -- "Remove2": `acked` stays set
        next hoccurred =>
        refine .removed h hin hnot ?_ rfl hreceived ⟨hsound.sends.signal, hsound.sends.pending⟩
          (.inr (.inr ⟨hacked, ?_⟩))
        · exact input_remove (hinput.trans hin)
        · show (s₁.abandoned || (s₁.timer && occurred)) = true
          rw [show (s₁.timer && occurred) = true from hoccurred, Bool.or_true]
      · next hoccurred =>
        have hq : s₁.Quiet { s₁ with
            abandoned := s₁.abandoned || (s₁.timer && occurred)
            timer := true } := by
          refine quiet_of_sends rfl rfl rfl rfl ?_ rfl rfl rfl
          show (s₁.abandoned || (s₁.timer && occurred)) = s₁.abandoned
          rw [Bool.eq_false_iff.mpr hoccurred, Bool.or_false]
        exact .waits hnot (hsound.quiet hq) hreceived
    -- the whole frame is there
    · next hlen =>
      obtain ⟨s₂, hrecv, hpass⟩ := Checked.bind_eq_ok.mp hpass
      cases hpass
      obtain ⟨s₂', hrecv', hq⟩ := recvLPDU_spec _ _
      cases hrecv.symm.trans hrecv'
      exact .passedOn hfront (not_lt.mp hlen) hinput hacked hsound hreceived habandoned hq

theorem pass_spec {occurred : Bool} {others : List Call} {n : Next} (h : s.Sound)
    (hpass : s.pass occurred others = .ok n) : s.PassSpec n := by
  rw [pass] at hpass
  split at hpass
  case h_1 hin =>
    cases hpass
    refine .waits ?_ h rfl
    rintro ⟨f, ⟨b, rest, hb, -⟩, -⟩
    cases hin.symm.trans hb
  case h_2 b rest hin =>
    -- one case for each byte the chip may send in front
    split at hpass
    case h_1 hb =>
      obtain ⟨s₁, hs₁, hq⟩ := onConfirm_spec h.sends
      rw [hs₁] at hpass
      cases hpass
      exact .control h hin hb nofun hq s₁.watch
    case h_2 hb =>
      obtain ⟨s₁, hs₁, hq⟩ := onNoConfirm_spec h.sends
      rw [hs₁] at hpass
      cases hpass
      exact .control h hin hb nofun hq s₁.watch
    case h_3 hb =>
      cases hpass
      exact .control h hin hb nofun (.refl s) 2
    case h_4 hb =>
      obtain ⟨s₁, hs₁, hq⟩ := s.recvLPDU_spec [b]
      rw [hs₁] at hpass
      cases hpass
      exact .control h hin hb nofun hq s₁.watch
    case h_5 f hb => exact onFrame_spec h hin hb hpass
    case h_6 hb =>
      cases hpass
      have hnot := not_completes_of_front ⟨b, rest, hin, hb⟩ nofun
      exact .removed h hin hnot (input_remove hin) rfl rfl ⟨h.sends.signal, h.sends.pending⟩
        (.inr (.inl ⟨rfl, rfl⟩))

/-- As long as no other thread faults, a pass does not. -/
theorem pass_returns (h : s.Sound) (occurred : Bool) : (s.pass occurred []).Returns := by
  -- these two return unless another thread calls in between
  have hack : ∀ (s : TPUARTSerialLayer2Driver) (f : FrameFormat), (s.sendAck f []).Returns := by
    intro s f
    rw [sendAck]
    split
    · exact ⟨s, rfl⟩
    · exact ⟨_, rfl⟩
  have hrecv : ∀ (s : TPUARTSerialLayer2Driver) (c : CArray), (s.recvLPDU c).Returns := by
    intro s c
    obtain ⟨s', hs', -⟩ := s.recvLPDU_spec c
    exact ⟨s', hs'⟩
  rw [pass]
  split
  · exact ⟨_, rfl⟩
  · split
    · obtain ⟨s₁, hs₁, -⟩ := onConfirm_spec h.sends
      rw [hs₁]
      exact ⟨_, rfl⟩
    · obtain ⟨s₁, hs₁, -⟩ := onNoConfirm_spec h.sends
      rw [hs₁]
      exact ⟨_, rfl⟩
    · exact ⟨_, rfl⟩
    · obtain ⟨s₁, hs₁⟩ := hrecv s _
      rw [hs₁]
      exact ⟨_, rfl⟩
    · next f _ =>
      rw [onFrame]
      split
      · exact ⟨_, rfl⟩
      · obtain ⟨s₁, hs₁⟩ := hack s f
        rw [hs₁, Checked.ok_bind]
        dsimp only
        split
        · exact ⟨_, rfl⟩
        · obtain ⟨s₂, hs₂⟩ := hrecv _ _
          rw [hs₂]
          exact ⟨_, rfl⟩
    · exact ⟨_, rfl⟩

/-! ## Runs -/

theorem Front.append {x : FrontByte} (h : s.Front x) {buf : CArray}
    (heq : s'.input = s.input ++ buf) : s'.Front x := by
  obtain ⟨b, rest, hb, hx⟩ := h
  exact ⟨b, rest ++ buf, by rw [heq, hb, List.cons_append], hx⟩

/-- What is received goes behind what is there. -/
theorem Sound.read (h : s.Sound) (buf : CArray) :
    Sound { s with input := s.input ++ buf } where
  sends := ⟨h.sends.signal, h.sends.pending⟩
  fresh := h.fresh
  own hacked habandoned := by
    obtain ⟨f, a, hf, hheader, hacks, hfor⟩ := h.own hacked habandoned
    refine ⟨f, a, hf.append rfl, ?_, hacks, ?_⟩
    · show f.header ≤ (s.input ++ buf).length
      rw [List.length_append]
      omega
    · -- the header is in what was there
      show a.For f (s.input ++ buf)
      rw [← Acknowledgement.for_take hheader, List.take_left' rfl]
      exact hfor
  stale := h.stale

theorem Sound.step {e : Event} (h : s.Sound) (hstep : s.step e = .ok s') : s'.Sound := by
  cases e with
  | read buf =>
      cases hstep
      rw [setpart_end buf rfl]
      exact h.read buf
  | pass occurred others =>
      obtain ⟨n, hpass, hstep⟩ := Checked.bind_eq_ok.mp hstep
      cases hstep
      exact (pass_spec h hpass).sound
  | afterLoop sendtimeout watchdog => exact h.quiet (afterLoop_quiet h.sends hstep)
  | call c => exact h.quiet (call_quiet hstep)

/-- Every data frame passed on so far had been acknowledged once. -/
def AckedOnce (s : TPUARTSerialLayer2Driver) : Prop := ∀ r ∈ s.received, r.AckedOnce

/-- No frame is passed on behind one that has been abandoned. -/
def NotAbandoned (s : TPUARTSerialLayer2Driver) (e : Event) : Prop :=
  ∀ occurred others, e = .pass occurred others → s.Completes → s.abandoned = false

theorem ackedOnce_step {e : Event} (h : s.Sound) (hs : s.AckedOnce) (hstep : s.step e = .ok s') :
    s'.AckedOnce ↔ s.NotAbandoned e := by
  have hkeep : s'.received = s.received → s'.AckedOnce := by
    intro heq
    rw [AckedOnce, heq]
    exact hs
  cases e with
  | read buf =>
      cases hstep
      exact iff_of_true hs nofun
  | pass occurred others =>
      obtain ⟨n, hpass, hstep⟩ := Checked.bind_eq_ok.mp hstep
      cases hstep
      rcases (pass_spec h hpass).received with ⟨hnot, hreceived⟩ | ⟨hcomplete, r, hreceived, hr⟩
      · exact iff_of_true (hkeep hreceived) fun _ _ _ hcomplete => absurd hcomplete hnot
      -- the frame that is passed on now is the only one in question
      · have hlast : n.state.AckedOnce ↔ r.AckedOnce := by
          rw [AckedOnce, hreceived, List.forall_mem_append, List.forall_mem_singleton]
          exact and_iff_right hs
        rw [hlast, hr]
        exact ⟨fun hclear _ _ _ _ => hclear, fun hcond => hcond occurred others rfl hcomplete⟩
  | afterLoop sendtimeout watchdog =>
      exact iff_of_true (hkeep (afterLoop_quiet h.sends hstep).received) nofun
  | call c => exact iff_of_true (hkeep (call_quiet hstep).received) nofun

/-- A pass over a complete frame behind an abandoned one returns. -/
theorem notAbandoned_of_fault {e : Event} (h : s.Sound) (hfault : ∀ s', s.step e ≠ .ok s') :
    s.NotAbandoned e := by
  rintro occurred others rfl ⟨f, ⟨b, rest, hin, hb⟩, hlen⟩
  by_contra habandoned
  -- an abandoned frame leaves `acked` set, so that no acknowledgement is sent here
  have hacked : s.acked = true := by
    by_contra hno
    exact habandoned (h.fresh (Bool.eq_false_iff.mpr hno)).2
  have hheader := f.header_lt_length s.input
  obtain ⟨s₂, hrecv, -⟩ := recvLPDU_spec { s with
    acked := false
    abandoned := false
    received := s.received ++ [⟨f, s.input.take (f.length s.input), s.acks⟩] }
      (s.input.take (f.length s.input))
  have hpass : s.pass occurred others =
      .ok (.again { s₂.remove (f.length s.input) with timer := false }) := by
    have hfront : s.pass occurred others = s.onFrame f occurred others := by
      rw [pass, hin]
      dsimp only
      rw [hb]
    have hack : s.sendAck f others = .ok s := if_pos hacked
    rw [hfront, onFrame, if_neg (by omega), hack, Checked.ok_bind]
    dsimp only
    rw [if_neg (not_lt.mpr hlen), hrecv]
    rfl
  refine hfault { s₂.remove (f.length s.input) with timer := false } ?_
  rw [step, hpass]
  rfl

theorem sound_start (a : EibAddr) (ackallgroup ackallindividual : Bool) :
    (start a ackallgroup ackallindividual).Sound where
  sends := ⟨rfl, nofun⟩
  fresh _ := ⟨rfl, rfl⟩
  own := nofun
  stale _ := rfl

/-- Whatever arrives, however it is split, and whenever the timers run out: every data frame passed
    on had been acknowledged exactly once, by its own acknowledgement, if and only if no frame is
    passed on behind an abandoned one; and a pass removes something or leaves the loop. -/
theorem ackedOnce_iff_notAbandoned (a : EibAddr) (ackallgroup ackallindividual : Bool)
    (es : List Event) :
    (HoldsAlong step AckedOnce (start a ackallgroup ackallindividual) es ↔
      StepsMeet step NotAbandoned (start a ackallgroup ackallindividual) es) ∧
    ∀ s occurred, run step (start a ackallgroup ackallindividual) es = .ok s →
      (s.pass occurred []).Returns ∧
      ∀ others n, s.pass occurred others = .ok n →
        (∃ s', n = .wait s') ∨ n.state.input.length < s.input.length := by
  have hinit := sound_start a ackallgroup ackallindividual
  constructor
  · have hstart : AckedOnce (start a ackallgroup ackallindividual) := nofun
    have hinv : ∀ (s : TPUARTSerialLayer2Driver) e s', s.Sound → True → s.step e = .ok s' →
        s'.Sound := fun s e s' h _ hstep => h.step hstep
    exact holdsAlong_iff hinv (fun s e h _ _ hfault => notAbandoned_of_fault h hfault)
      (fun s e s' h hs _ hstep => ackedOnce_step h hs hstep) (fun _ _ => trivial) hinit hstart
  · intro s occurred hrun
    have hsound : s.Sound := run_invariant (fun s e s' h _ hstep => h.step hstep) hinit
      (StepsMeet.of_events fun _ _ => trivial) hrun
    exact ⟨pass_returns hsound occurred, fun others n hpass => (pass_spec hsound hpass).progress⟩

/-- A header that never becomes a frame. -/
def abandonedFrame : List Event :=
  [.read [0xB0#8, 0x17#8, 0x27#8, 0x37#8, 0x47#8, 0xE7#8], .pass false [], .read [],
    .pass true [], .pass false [], .pass false [], .pass false [], .pass false [], .pass false []]

/-- Its first byte is removed after the acknowledgement, the others are taken for state
    indications; the frame behind them, which is for the driver, gets no acknowledgement. -/
theorem abandonedFrame_silences_next :
    ¬ HoldsAlong step AckedOnce (start 0x1101#16 false false)
      (abandonedFrame ++
        [.read [0xB0#8, 0x11#8, 0x02#8, 0x11#8, 0x01#8, 0x61#8, 0x00#8, 0x80#8, 0xAD#8],
          .pass false []]) := by
  intro h
  have hend : ∃ s, run step (start 0x1101#16 false false)
      (abandonedFrame ++
        [.read [0xB0#8, 0x11#8, 0x02#8, 0x11#8, 0x01#8, 0x61#8, 0x00#8, 0x80#8, 0xAD#8],
          .pass false []]) = .ok s ∧ ∃ r ∈ s.received, r.acks = [] := by
    decide +kernel
  obtain ⟨s, hrun, r, hr, hnone⟩ := hend
  obtain ⟨a, hacks, -⟩ := h _ [] s (List.append_nil _).symm hrun r hr
  cases hnone.symm.trans hacks

/-- The same frame, alone. -/
theorem ackedOnce_iff_notAbandoned_single :
    ∃ s, run step (start 0x1101#16 false false)
      [.read [0xB0#8, 0x11#8, 0x02#8, 0x11#8, 0x01#8, 0x61#8, 0x00#8, 0x80#8, 0xAD#8]] = .ok s ∧
      ∃ n, s.pass false [] = .ok n ∧
        ((∃ s', n = .wait s') ∨ n.state.input.length < s.input.length) := by
  obtain ⟨s, hrun⟩ : ∃ s, run step (start 0x1101#16 false false)
      [.read [0xB0#8, 0x11#8, 0x02#8, 0x11#8, 0x01#8, 0x61#8, 0x00#8, 0x80#8, 0xAD#8]] = .ok s :=
    ⟨_, rfl⟩
  obtain ⟨⟨n, hn⟩, hprogress⟩ := (ackedOnce_iff_notAbandoned _ _ _ _).2 s false hrun
  exact ⟨s, hrun, n, hn, hprogress [] n hn⟩

end TPUARTSerialLayer2Driver

end BcuSdk.Eibd
