/-
  BcuSdk.Eibd.EibNetTunnelWindow

  The window of `EIBNetIPTunnel` on the numbers of the frames it receives
  (eibd/backend/eibnettunnel.cpp).

  How far a `TUNNEL_REQUEST` is ahead of the expected one, modulo 256, says what
  is to become of it.  The code compares without the wrap around, since
  `treq.seqno += 0x100` leaves a `uchar` as it is.
-/
import BcuSdk.Eibd.EibNetServerSafety
import BcuSdk.Eibd.EibNetTunnelRunSafety

namespace BcuSdk.Eibd

open BcuSdk.Lib
open EIBnetServer (FitsSocket cemiDecoded_encodable parse_cemi_length)

/-! ## What becomes of a frame -/

namespace EIBNetIPTunnel

variable {s s' : EIBNetIPTunnel} {cemi : CArray} {outs : List TunnelAction}

/-- An `L_Data.ind` as Layer 3 gets it: the own address is given as 0. -/
def received (s : EIBNetIPTunnel) (c : LDataPDU) : LDataPDU :=
  if c.addrType = .individualAddress ∧ c.dest = s.myaddr then { c with dest := 0 } else c

/-- What the frame carries is put into `outqueue`, and nothing else is done. -/
structure Delivers (s : EIBNetIPTunnel) (cemi : CArray) (outs : List TunnelAction) : Prop where
  queued : ∀ x ∈ outs, ∃ l, x = .out l
  busmonitor : cemi[0]? = some 0x2B#8 → ∀ l, cemiToBusmonitor cemi = .ok l →
    .out (l.map .busmonitor) ∈ outs
  lData : cemi[0]? = some 0x29#8 → CEMIComplete cemi → s.mode = false →
    .out (some (.lData (s.received (cemiDecoded cemi)))) ∈ outs
  -- in busmonitor mode, and beside the frame with a virtual busmonitor
  raw : cemi[0]? = some 0x29#8 → CEMIComplete cemi → s.mode = true ∨ s.vmode = true →
    ∃ pdu, (cemiDecoded cemi).toPacket = .ok pdu ∧ .out (some (.busmonitor { pdu })) ∈ outs

theorem onLData_returns (s : EIBNetIPTunnel) {c : LDataPDU} (hc : c.Encodable) :
    ∃ outs, s.onLData c = .ok outs ∧ (∀ x ∈ outs, ∃ l, x = .out l) ∧
      (s.mode = false → .out (some (.lData (s.received c))) ∈ outs) ∧
      (s.mode = true ∨ s.vmode = true →
        ∃ pdu, c.toPacket = .ok pdu ∧ .out (some (.busmonitor { pdu })) ∈ outs) := by
  obtain ⟨pdu, hpdu⟩ := LDataPDU.toPacket_returns_iff.mpr hc
  rw [onLData, tracePrintf_decode hc, Checked.ok_bind, hpdu]
  by_cases hmode : s.mode = true
  · rw [if_pos hmode]
    refine ⟨[.out (some (.busmonitor { pdu }))], rfl, ?_, fun h => ?_, fun _ => ?_⟩
    · intro x hx
      exact ⟨_, List.mem_singleton.mp hx⟩
    · exact absurd (hmode.symm.trans h) Bool.noConfusion
    · exact ⟨pdu, rfl, List.mem_singleton_self _⟩
  · rw [if_neg hmode]
    dsimp only
    -- with a virtual busmonitor the frame goes out twice
    by_cases hvmode : s.vmode = true
    · rw [if_pos hvmode]
      refine ⟨[.out (some (.busmonitor { pdu })), .out (some (.lData (s.received c)))], rfl, ?_,
        fun _ => ?_, fun _ => ?_⟩
      · intro x hx
        rcases List.mem_pair.mp hx with rfl | rfl
        · exact ⟨_, rfl⟩
        · exact ⟨_, rfl⟩
      · exact List.mem_cons_of_mem _ (List.mem_singleton_self _)
      · exact ⟨pdu, rfl, List.mem_cons_self ..⟩
    · rw [if_neg hvmode]
      refine ⟨[.out (some (.lData (s.received c)))], rfl, ?_, fun _ => ?_, fun h => ?_⟩
      · intro x hx
        exact ⟨_, List.mem_singleton.mp hx⟩
      · exact List.mem_singleton_self _
      · exact (h.elim hmode hvmode).elim

/-- A frame from the socket is delivered, whatever it is. -/
theorem indication_delivers (s : EIBNetIPTunnel) (hmin : 2 ≤ cemi.length)
    (hmax : cemi.length ≤ 249) :
    ∃ s' outs, s.indication cemi = .ok (s', outs) ∧ s.Delivers cemi outs := by
  have hcode : cemi[0]? = some cemi[0] := List.getElem?_eq_getElem _
  have hnone : ∀ {x : Byte} {p : Prop}, cemi[0] ≠ x → cemi[0]? = some x → p :=
    fun hne hx => absurd (Option.some.inj (hcode.symm.trans hx)) hne
  rw [indication, readByte_of_lt (by omega), Checked.ok_bind]
  -- a confirmation is dropped
  by_cases hcon : cemi[0] = 0x2E#8
  · rw [if_pos hcon]
    refine ⟨_, [], rfl, List.forall_mem_nil _, hnone ?_, hnone ?_, hnone ?_⟩ <;>
      rw [hcon] <;> decide
  rw [if_neg hcon]
  -- a frame of the bus monitor is queued as it is
  by_cases hbus : cemi[0] = 0x2B#8
  · rw [if_pos hbus]
    obtain ⟨l, hl⟩ : (cemiToBusmonitor cemi).Returns := by
      rw [cemiToBusmonitor, if_neg (by omega), readByte_of_lt (by omega), Checked.ok_bind]
      dsimp only
      split
      · exact ⟨_, rfl⟩
      · rw [readSlice_of_le (by omega)]
        exact ⟨_, rfl⟩
    rw [hl]
    refine ⟨s, [.out (l.map .busmonitor)], rfl, ?_, fun _ l' hl' => ?_, hnone ?_, hnone ?_⟩
    · intro x hx
      exact ⟨_, List.mem_singleton.mp hx⟩
    · obtain rfl := Except.ok.inj (hl.symm.trans hl')
      exact List.mem_singleton_self _
    · rw [hbus]
      decide
    · rw [hbus]
      decide
  rw [if_neg hbus]
  -- an indication is queued if it is complete
  by_cases hind : cemi[0] = 0x29#8
  · rw [if_neg (not_not.mpr hind), cemiToLData_eq, Checked.ok_bind]
    by_cases hcomplete : CEMIComplete cemi
    · rw [if_pos hcomplete]
      obtain ⟨outs, houts, hqueued, hlData, hraw⟩ :=
        s.onLData_returns (cemiDecoded_encodable hcomplete hmax).encodable
      dsimp only
      rw [houts]
      exact ⟨s, outs, rfl, hqueued, hnone hbus, fun _ _ => hlData, fun _ _ => hraw⟩
    · rw [if_neg hcomplete]
      exact ⟨s, [], rfl, List.forall_mem_nil _, hnone hbus, fun _ h => absurd h hcomplete,
        fun _ h => absurd h hcomplete⟩
  · rw [if_pos hind]
    exact ⟨s, [], rfl, List.forall_mem_nil _, hnone hbus, hnone hind, hnone hind⟩

end EIBNetIPTunnel

/-! ## The window -/

namespace TunnelClient

variable {s s' : TunnelClient} {r : EIBnetTunnelRequest}

/-- How far the frame is ahead of the one that is expected. -/
def ahead (s : TunnelClient) (r : EIBnetTunnelRequest) : Nat :=
  (r.seqno.toNat + 256 - s.core.rno.toNat) % 256

/-- The frame is answered and delivered, and the next one is expected. -/
structure Accepts (s : TunnelClient) (r : EIBnetTunnelRequest) (s' : TunnelClient)
    (as : List TunnelAction) : Prop where
  rno : s'.core.rno.toNat = (s.core.rno.toNat + 1) % 256
  connected : s'.core.mod ≠ .notConnected
  actions : ∃ outs, as = .taken r.cemi :: s.core.answer r.seqno :: outs ∧
    s.core.Delivers r.cemi outs

/-- The connection is over, and the server is told so. -/
structure HangsUp (s s' : TunnelClient) (as : List TunnelAction) : Prop where
  mod : s'.core.mod = .notConnected
  actions : as = [.control Service.disconnectRequest s.core.channel]

/-- The phase that receives a `TUNNEL_REQUEST` does with it what its place in the window asks
    for. -/
structure HandlesRequest (s : TunnelClient) (r : EIBnetTunnelRequest)
    (result : Checked (TunnelClient × List TunnelAction)) : Prop where
  expected : s.ahead r = 0 → ∃ s' as, result = .ok (s', as) ∧ s.Accepts r s' as
  last : s.ahead r = 255 →
    result = .ok ({ s with phase := .timeout }, [.repeated, s.core.answer r.seqno])
  near : 1 ≤ s.ahead r ∧ s.ahead r ≤ 4 → result = .ok ({ s with phase := .timeout }, [])
  far : 5 ≤ s.ahead r ∧ s.ahead r ≤ 254 → ∃ s' as, result = .ok (s', as) ∧ s.HangsUp s' as

/-- The step receives `r` from the socket, on the channel of the open connection. -/
def Requested (s : TunnelClient) (e : Event) (r : EIBnetTunnelRequest) : Prop :=
  s.phase = .get ∧ s.core.mod ≠ .notConnected ∧ r.channel = s.core.channel ∧
    ∃ i p, e = .loop i ∧ i.p1 = some p ∧ FitsSocket p ∧
      EIBnetTunnelRequest.parse p.toEIBNetIPPacket = some r

/-- A repetition finds `recvall` cleared already, and a frame far ahead has not wrapped around. -/
def WithoutWrap (s : TunnelClient) (r : EIBnetTunnelRequest) : Prop :=
  (s.ahead r = 255 → s.sock.recvall = 0) ∧
    (5 ≤ s.ahead r ∧ s.ahead r ≤ 254 → s.core.rno.toNat ≤ r.seqno.toNat)

theorem step_of_requested {e : Event} (h : s.Requested e r) :
    s.step e = s.onTunnelRequest r >>= fun o => .ok ({ o.1 with phase := .timeout }, o.2) := by
  obtain ⟨hphase, hmod, -, i, p, rfl, hp, -, hparse⟩ := h
  have hservice := (EIBnetTunnelRequest.parse_eq_some hparse).1
  have hconnect : p.service ≠ Service.connectionResponse := by
    rw [hservice]
    decide
  have hstate : EIBnetConnectionStateResponse.parse p.toEIBNetIPPacket = none := by
    rw [EIBnetConnectionStateResponse.parse, if_pos]
    rw [hservice]
    decide
  have hact : s.act i = s.onTunnelRequest r := by
    rw [act, hphase]
    dsimp only
    rw [hp]
    dsimp only
    rw [recv, if_neg hconnect, hstate]
    dsimp only
    rw [if_neg hmod, hparse]
  rw [step, loop, hact, hphase]
  rfl

/-! ### The places in the window -/

theorem seqno_eq_iff_ahead : r.seqno = s.core.rno ↔ s.ahead r = 0 := by
  rw [ahead, ← BitVec.toNat_inj]
  have := r.seqno.isLt
  have := s.core.rno.isLt
  omega

theorem seqno_add_one_iff_ahead : r.seqno + 1#8 = s.core.rno ↔ s.ahead r = 255 := by
  rw [ahead, ← BitVec.toNat_inj, BitVec.toNat_add]
  have := r.seqno.isLt
  have := s.core.rno.isLt
  have : (1#8).toNat = 1 := rfl
  omega

/-- The comparison of the code. -/
theorem far_iff_ahead : r.seqno.toNat ≥ s.core.rno.toNat + 5 ↔
    5 ≤ s.ahead r ∧ s.core.rno.toNat ≤ r.seqno.toNat := by
  rw [ahead]
  have := r.seqno.isLt
  have := s.core.rno.isLt
  omega

/-! ### The branches -/

theorem accepts_of_expected {e : Event} (h : s.Requested e r) (h0 : s.ahead r = 0) :
    ∃ s' as, s.step e = .ok (s', as) ∧ s.Accepts r s' as := by
  have hstep := step_of_requested h
  obtain ⟨-, hmod, hchannel, i, p, -, -, hfits, hparse⟩ := h
  have hseqno : r.seqno = s.core.rno := seqno_eq_iff_ahead.mpr h0
  have hrep : ¬ r.seqno + 1#8 = s.core.rno := by
    rw [seqno_add_one_iff_ahead, h0]
    decide
  have hmax : r.cemi.length ≤ 249 := (parse_cemi_length hparse).trans hfits
  obtain ⟨core, outs, hind, hdelivers⟩ := EIBNetIPTunnel.indication_delivers
    { s.core with rno := s.core.rno + 1#8 } (EIBnetTunnelRequest.parse_eq_some hparse).2 hmax
  rw [onTunnelRequest, if_neg (not_not.mpr hchannel), if_neg hrep,
    if_neg (not_not.mpr hseqno), hind] at hstep
  refine ⟨_, _, hstep, ?_, ?_, outs, rfl,
    hdelivers.queued, hdelivers.busmonitor, hdelivers.lData, hdelivers.raw⟩
  · -- a confirmation changes `mod` only
    have hrno : core.rno = s.core.rno + 1#8 := by
      rcases EIBNetIPTunnel.indication_core hind with rfl | ⟨-, rfl⟩ <;> rfl
    show core.rno.toNat = (s.core.rno.toNat + 1) % 256
    rw [hrno, BitVec.toNat_add]
    rfl
  · rcases EIBNetIPTunnel.indication_core hind with rfl | ⟨-, rfl⟩
    · exact hmod
    · exact TunnelMod.noConfusion

theorem step_of_last {e : Event} (h : s.Requested e r) (h255 : s.ahead r = 255) :
    s.step e = .ok ({ s with sock := { s.sock with recvall := 0 }, phase := .timeout },
      [.repeated, s.core.answer r.seqno]) := by
  rw [step_of_requested h, onTunnelRequest, if_neg (not_not.mpr h.2.2.1),
    if_pos (seqno_add_one_iff_ahead.mpr h255)]
  rfl

/-- The frames that are neither expected nor the last one. -/
theorem step_of_other {e : Event} (h : s.Requested e r) (h0 : s.ahead r ≠ 0)
    (h255 : s.ahead r ≠ 255) :
    s.step e = .ok (if 5 ≤ s.ahead r ∧ s.core.rno.toNat ≤ r.seqno.toNat
      then ({ s.hangUp.1 with phase := .timeout }, s.hangUp.2)
      else ({ s with phase := .timeout }, [])) := by
  rw [step_of_requested h, onTunnelRequest, if_neg (not_not.mpr h.2.2.1),
    if_neg (mt seqno_add_one_iff_ahead.mp h255), if_pos (mt seqno_eq_iff_ahead.mp h0)]
  by_cases hfar : 5 ≤ s.ahead r ∧ s.core.rno.toNat ≤ r.seqno.toNat
  · rw [if_pos (far_iff_ahead.mpr hfar), if_pos hfar]
    rfl
  · rw [if_neg (mt far_iff_ahead.mp hfar), if_neg hfar]
    rfl

/-- A request is handled as its place in the window asks for exactly if it has not wrapped
    around. -/
theorem handlesRequest_iff {e : Event} (h : s.Requested e r) :
    s.HandlesRequest r (s.step e) ↔ s.WithoutWrap r := by
  constructor
  · rintro ⟨-, hlast, -, hfar⟩
    constructor
    · intro h255
      have hsame := hlast h255
      rw [step_of_last h h255] at hsame
      exact (congrArg (fun o => o.1.sock.recvall) (Except.ok.inj hsame)).symm
    · intro hplace
      by_contra hwrap
      obtain ⟨s', as, hstep, hhangs⟩ := hfar hplace
      rw [step_of_other h (by omega) (by omega), if_neg (fun hc => hwrap hc.2)] at hstep
      cases hstep
      exact h.2.1 hhangs.mod
  · rintro ⟨hlast, hfar⟩
    refine ⟨accepts_of_expected h, fun h255 => ?_, fun hplace => ?_, fun hplace => ?_⟩
    · rw [step_of_last h h255, ← hlast h255]
    · rw [step_of_other h (by omega) (by omega), if_neg (by omega)]
    · rw [step_of_other h (by omega) (by omega), if_pos ⟨hplace.1, hfar hplace⟩]
      exact ⟨_, _, rfl, rfl, rfl⟩

end TunnelClient

/-! ## Runs -/

namespace TunnelRun

/-- At every step of a run that receives a `TUNNEL_REQUEST` on the open connection, the number
    decides as it should modulo 256, if and only if no frame ahead by 5 to 254 has a number below
    the expected one, and each repetition finds `recvall` cleared. -/
theorem handlesRequests_iff_withoutWrap (c : TunnelClient.Config)
    (es : List TunnelClient.Event) :
    StepsMeet step (fun s e => ∀ r, s.client.Requested e r →
        s.client.HandlesRequest r (s.client.step e)) ⟨TunnelClient.start c, []⟩ es ↔
      StepsMeet step (fun s e => ∀ r, s.client.Requested e r → s.client.WithoutWrap r)
        ⟨TunnelClient.start c, []⟩ es := by
  have hinv : ∀ s e s', True → step s e = .ok s' → True := fun _ _ _ _ _ => trivial
  refine StepsMeet.congr hinv (fun s e _ => ?_) trivial
  exact forall₂_congr fun r hr => TunnelClient.handlesRequest_iff hr

/-- A confirmation with a number. -/
def numbered (seqno : Byte) : TunnelClient.LoopInput where
  p1 := some
    { toEIBNetIPPacket := ({ channel := 1#8, seqno, cemi := [0x2e#8, 0#8] } :
        EIBnetTunnelRequest).toPacket
      src := { plainConfig.caddr with port := 3673#16 } }

/-- Two frames arrive. -/
def twoFrames : List TunnelClient.Event :=
  passWith opening ++ passWith (numbered 0#8) ++ passWith (numbered 1#8)

/-- Then the first of them comes once more, 254 ahead of the third, and the connection stays
    open. -/
theorem wrapped_stays_connected :
    ¬ StepsMeet step (fun s e => ∀ r, s.client.Requested e r →
        s.client.HandlesRequest r (s.client.step e)) ⟨TunnelClient.start plainConfig, []⟩
      (twoFrames ++ [.loop (numbered 0#8)]) := by
  have hend : ∃ s, Lib.run step ⟨TunnelClient.start plainConfig, []⟩ twoFrames = .ok s ∧
      s.client.phase = .get ∧ s.client.core.mod ≠ .notConnected ∧ s.client.core.channel = 1#8 ∧
      s.client.core.rno = 2#8 := by
    decide +kernel
  intro h
  obtain ⟨s, hrun, hphase, hmod, hchannel, hrno⟩ := hend
  have hparse : EIBnetTunnelRequest.parse
      ({ channel := 1#8, seqno := 0#8, cemi := [0x2e#8, 0#8] } : EIBnetTunnelRequest).toPacket =
      some { channel := 1#8, seqno := 0#8, cemi := [0x2e#8, 0#8] } := by
    decide
  have hrequested : s.client.Requested (.loop (numbered 0#8))
      { channel := 1#8, seqno := 0#8, cemi := [0x2e#8, 0#8] } :=
    ⟨hphase, hmod, hchannel.symm, _, _, rfl, rfl, by rw [FitsSocket]; decide, hparse⟩
  have hwrap := (TunnelClient.handlesRequest_iff hrequested).mp
    (StepsMeet.of_append h hrun _ hrequested)
  have hahead := hwrap.2
  rw [TunnelClient.ahead, hrno] at hahead
  exact absurd (hahead (by decide)) (by decide)

end TunnelRun

end BcuSdk.Eibd
