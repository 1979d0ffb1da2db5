/-
  BcuSdk.Eibd.TunnelTurn

  What one phase of either side of a tunnel can do to its queue and its numbers.

  `TunnelEnd.Outcome` is the stop and wait protocol as both sides play it.  The
  `_outcome` lemmas say that each phase of `EIBnetServer` and of
  `EIBNetIPTunnel` is one of its moves; nothing else is used about them.
-/
import BcuSdk.Eibd.CemiDecode
import BcuSdk.Eibd.EibNetServer
import BcuSdk.Eibd.EibNetTunnel

namespace BcuSdk.Eibd

open BcuSdk.Lib

/-- The part of a side that takes part in the numbering. -/
structure TunnelEnd where
  queue : List CArray
  sno : Byte
  rno : Byte
  deriving DecidableEq, Repr

def ConnState.tunnelEnd (s : ConnState) : TunnelEnd := ⟨s.out, s.sno, s.rno⟩

def EIBNetIPTunnel.tunnelEnd (s : EIBNetIPTunnel) : TunnelEnd := ⟨s.inqueue, s.sno, s.rno⟩

/-- The actions that have no part in the numbering. -/
def TunnelAction.Quiet : TunnelAction → Prop
  | .control _ _ | .connect _ | .sendLData _ | .out _ => True
  | _ => False

namespace TunnelEnd

/-- The moves of a side, on the packet it has received if there is one.  `Refuses` says which
    frames it answers with an error. -/
inductive Outcome (Refuses : CArray → Prop) (recv : Option EIBNetIPPacket) (s : TunnelEnd) :
    TunnelEnd → List TunnelAction → Prop where
  | quiet {as : List TunnelAction} (quiet : ∀ x ∈ as, x.Quiet) : Outcome Refuses recv s s as
  | repeats {p : EIBNetIPPacket} {r : EIBnetTunnelRequest} {a : EIBnetTunnelACK}
      (packet : recv = some p) (request : EIBnetTunnelRequest.parse p = some r)
      (number : s.rno = r.seqno + 1#8) (answer : a.seqno = r.seqno) :
      Outcome Refuses recv s s [.repeated, .send a.toPacket]
  | takes {p : EIBNetIPPacket} {r : EIBnetTunnelRequest} {a : EIBnetTunnelACK}
      {puts : List CArray} {before after : List TunnelAction}
      (packet : recv = some p) (request : EIBnetTunnelRequest.parse p = some r)
      (number : s.rno = r.seqno) (answer : a.seqno = r.seqno)
      (quietBefore : ∀ x ∈ before, x.Quiet) (quietAfter : ∀ x ∈ after, x.Quiet) :
      Outcome Refuses recv s { s with queue := s.queue ++ puts, rno := s.rno + 1#8 }
        (.taken r.cemi :: (puts.map .put ++ (before ++ .send a.toPacket :: after)))
  | refuses {p : EIBNetIPPacket} {r : EIBnetTunnelRequest} {a : EIBnetTunnelACK}
      (packet : recv = some p) (request : EIBnetTunnelRequest.parse p = some r)
      (number : s.rno = r.seqno) (refused : Refuses r.cemi) :
      Outcome Refuses recv s { s with rno := s.rno + 1#8 } [.refused r.cemi, .send a.toPacket]
  | acks {p : EIBNetIPPacket} {a : EIBnetTunnelACK} {c : CArray} {rest : List CArray}
      (packet : recv = some p) (response : EIBnetTunnelACK.parse p = some a)
      (number : s.sno = a.seqno) (queue : s.queue = c :: rest) :
      Outcome Refuses recv s { s with queue := rest, sno := s.sno + 1#8 } [.acked c]
  | drops {c : CArray} {rest : List CArray} {after : List TunnelAction}
      (packet : recv = none) (queue : s.queue = c :: rest) (quietAfter : ∀ x ∈ after, x.Quiet) :
      Outcome Refuses recv s { s with queue := rest } (.dropped c :: after)
  | sends {c : CArray} {rest : List CArray} {r : EIBnetTunnelRequest} (queue : s.queue = c :: rest)
      (number : r.seqno = s.sno) (cemi : r.cemi = c) : Outcome Refuses recv s s [.send r.toPacket]

theorem Outcome.nothing {Refuses : CArray → Prop} {recv : Option EIBNetIPPacket} {s : TunnelEnd} :
    Outcome Refuses recv s s [] :=
  .quiet (List.forall_mem_nil _)

/-- A frame leaves the queue without a response only when no packet has been received. -/
theorem Outcome.not_dropped {Refuses : CArray → Prop} {p : EIBNetIPPacket} {s s' : TunnelEnd}
    {as : List TunnelAction} (h : Outcome Refuses (some p) s s' as) (c : CArray) :
    .dropped c ∉ as := by
  intro hc
  cases h with
  | quiet quiet => exact quiet _ hc
  | repeats _ _ _ _ => simp at hc
  | takes _ _ _ _ quietBefore quietAfter =>
      simp only [List.mem_cons, List.mem_append, List.mem_map, reduceCtorEq, and_false,
        exists_false, false_or] at hc
      rcases hc with hc | hc
      · exact quietBefore _ hc
      · exact quietAfter _ hc
  | refuses _ _ _ _ => simp at hc
  | acks _ _ _ _ => simp at hc
  | drops packet _ _ => cases packet
  | sends _ _ _ => simp at hc

end TunnelEnd

open TunnelEnd (Outcome)

/-! ## `EIBnetServer` -/

namespace ConnState

variable {s s' : ConnState} {as : List TunnelAction}

/-- The frames answered with status 0. -/
def Accepts (s : ConnState) (cemi : CArray) : Prop := s.type = .linkLayer ∧ CEMIComplete cemi

instance (s : ConnState) (cemi : CArray) : Decidable (s.Accepts cemi) :=
  inferInstanceAs (Decidable (s.type = .linkLayer ∧ CEMIComplete cemi))

/-- The frames answered with an error. -/
def Refuses (s : ConnState) (cemi : CArray) : Prop := ¬ s.Accepts cemi

/-- A frame is refused without further effect exactly if the connection does not accept it. -/
theorem indication_eq_ok {cemi : CArray} {ind : Indication} (h : s.indication cemi = .ok ind) :
    (ind.status = 0#8 ∧ s.Accepts cemi) ∨
      (ind = { status := 0x29#8 } ∧ ¬ s.Accepts cemi) := by
  unfold indication at h
  split at h
  · next htype =>
    cases h
    exact .inr ⟨rfl, fun ha => nomatch htype.symm.trans ha.1⟩
  · next htype =>
    rw [cemiToLData_eq, Checked.ok_bind] at h
    -- the status is only set for a frame that can be decoded
    by_cases hc : CEMIComplete cemi
    · refine .inl ⟨?_, htype, hc⟩
      simp only [hc, if_true] at h
      split at h
      · cases h
        rfl
      · obtain ⟨code, -, h⟩ := Checked.bind_eq_ok.mp h
        split at h
        · obtain ⟨confirm, -, h⟩ := Checked.bind_eq_ok.mp h
          cases h
          rfl
        · split at h <;> cases h <;> rfl
    · simp only [hc, if_false] at h
      cases h
      exact .inr ⟨rfl, fun ha => hc ha.2⟩

theorem onTunnelRequest_outcome {p : EIBNetIPPacket} {r : EIBnetTunnelRequest}
    (hr : EIBnetTunnelRequest.parse p = some r) (h : s.onTunnelRequest r = .ok (s', as)) :
    Outcome s.Refuses (some p) s.tunnelEnd s'.tunnelEnd as := by
  unfold onTunnelRequest at h
  split at h
  · cases h
    exact .nothing
  split at h
  · next hrep =>
    cases h
    exact .repeats (a := { channel := s.channel, seqno := r.seqno, status := 0#8 }) rfl hr hrep rfl
  split at h
  · cases h
    exact .nothing
  · next hnum =>
    rw [not_not] at hnum
    obtain ⟨ind, hind, h⟩ := Checked.bind_eq_ok.mp h
    cases h
    -- accepted with status 0, or refused; `rno` advances either way
    rcases indication_eq_ok hind with ⟨hstatus, -⟩ | ⟨rfl, hrefused⟩
    · have hquiet : ∀ x ∈ ind.passed.toList.map TunnelAction.sendLData, x.Quiet := by
        intro x hx
        obtain ⟨l, -, rfl⟩ := List.mem_map.mp hx
        trivial
      have has : ind.actions r.cemi ++ [s.answer r.seqno ind.status] =
          .taken r.cemi :: (ind.confirm.toList.map .put ++ (ind.passed.toList.map .sendLData ++
            [s.answer r.seqno ind.status])) := by
        simp only [Indication.actions, hstatus, if_true, List.cons_append, List.append_assoc]
      rw [has]
      exact .takes (a := { channel := s.channel, seqno := r.seqno, status := ind.status })
        rfl hr hnum rfl hquiet (List.forall_mem_nil _)
    · have has : Indication.actions { status := 0x29#8 } r.cemi ++ [s.answer r.seqno 0x29#8] =
          [.refused r.cemi, s.answer r.seqno 0x29#8] := rfl
      rw [has]
      simp only [tunnelEnd, Option.toList_none, List.append_nil]
      exact .refuses (s := s.tunnelEnd)
        (a := { channel := s.channel, seqno := r.seqno, status := 0x29#8 }) rfl hr hnum hrefused

theorem onTunnelResponse_outcome {p : EIBNetIPPacket} {a : EIBnetTunnelACK}
    (ha : EIBnetTunnelACK.parse p = some a) (h : s.onTunnelResponse a = .ok (s', as)) :
    Outcome s.Refuses (some p) s.tunnelEnd s'.tunnelEnd as := by
  unfold onTunnelResponse at h
  split at h
  · cases h
    exact .nothing
  split at h
  · cases h
    exact .nothing
  · next hnum =>
    split at h
    · cases h
      exact .nothing
    split at h
    · cases h
      exact .nothing
    · obtain ⟨⟨c, out⟩, hget, h⟩ := Checked.bind_eq_ok.mp h
      cases h
      exact .acks rfl ha (not_not.mp hnum) (Queue.get_eq_ok.mp hget)

theorem recv_outcome {p : EIBNetIPPacket} (h : s.recv p = .ok (s', as)) :
    Outcome s.Refuses (some p) s.tunnelEnd s'.tunnelEnd as := by
  unfold recv at h
  split at h
  · next hr => exact onTunnelRequest_outcome hr h
  · split at h
    · next ha => exact onTunnelResponse_outcome ha h
    · cases h
      exact .nothing

/-- The send phase gives the frame in front of `out` up. -/
def GivesUp (s : ConnState) (sendtimeout : Bool) : Prop := s.state ≥ 10 ∧ sendtimeout

instance (s : ConnState) (sendtimeout : Bool) : Decidable (s.GivesUp sendtimeout) :=
  inferInstanceAs (Decidable (s.state ≥ 10 ∧ sendtimeout))

theorem sendPhase_outcome {sendtimeout : Bool} (h : s.sendPhase sendtimeout = .ok (s', as)) :
    Outcome s.Refuses none s.tunnelEnd s'.tunnelEnd as := by
  unfold sendPhase at h
  split at h
  · split at h
    -- the tenth transmission has timed out, or there is one to make
    · obtain ⟨⟨c, out⟩, hget, h⟩ := Checked.bind_eq_ok.mp h
      cases h
      exact .drops rfl (Queue.get_eq_ok.mp hget) (List.forall_mem_nil _)
    · obtain ⟨c, htop, h⟩ := Checked.bind_eq_ok.mp h
      obtain ⟨rest, hqueue⟩ := Queue.top_eq_ok.mp htop
      cases h
      exact .sends hqueue rfl rfl
  · cases h
    exact .nothing

/-- Nothing else removes a frame without a response. -/
theorem givesUp_of_dropped {sendtimeout : Bool} {c : CArray}
    (h : s.sendPhase sendtimeout = .ok (s', as)) (hc : .dropped c ∈ as) :
    s.GivesUp sendtimeout := by
  unfold sendPhase at h
  split at h
  · next hdue =>
    split at h
    · next hten =>
      refine ⟨by omega, ?_⟩
      rcases hdue with ⟨-, htimeout⟩ | ⟨hzero, -⟩
      · exact htimeout
      · omega
    · obtain ⟨c, -, h⟩ := Checked.bind_eq_ok.mp h
      cases h
      simp at hc
  · cases h
    simp at hc

end ConnState

/-! ## `EIBNetIPTunnel` -/

namespace EIBNetIPTunnel

variable {s s' : EIBNetIPTunnel} {as : List TunnelAction}

/-- The client refuses no frame. -/
def Refuses (_ : CArray) : Prop := False

theorem onLData_quiet {c : LDataPDU} (h : s.onLData c = .ok as) : ∀ x ∈ as, x.Quiet := by
  have hquiet : ∀ l ∈ as, ∃ p, l = TunnelAction.out p := by
    obtain ⟨u, -, h⟩ := Checked.bind_eq_ok.mp h
    split at h
    · obtain ⟨pdu, -, h⟩ := Checked.bind_eq_ok.mp h
      cases h
      simp
    · dsimp only at h
      split at h
      · obtain ⟨pdu, -, h⟩ := Checked.bind_eq_ok.mp h
        cases h
        simp
      · cases h
        simp
  intro x hx
  obtain ⟨p, rfl⟩ := hquiet x hx
  trivial

theorem indication_quiet {cemi : CArray} (h : s.indication cemi = .ok (s', as)) :
    s'.tunnelEnd = s.tunnelEnd ∧ ∀ x ∈ as, x.Quiet := by
  obtain ⟨code, -, h⟩ := Checked.bind_eq_ok.mp h
  split at h
  · cases h
    exact ⟨by split <;> rfl, List.forall_mem_nil _⟩
  split at h
  · obtain ⟨l, -, h⟩ := Checked.bind_eq_ok.mp h
    cases h
    refine ⟨rfl, fun x hx => ?_⟩
    rw [List.mem_singleton.mp hx]
    trivial
  split at h
  · cases h
    exact ⟨rfl, List.forall_mem_nil _⟩
  · obtain ⟨l, -, h⟩ := Checked.bind_eq_ok.mp h
    split at h
    · obtain ⟨outs, houts, h⟩ := Checked.bind_eq_ok.mp h
      cases h
      exact ⟨rfl, onLData_quiet houts⟩
    · cases h
      exact ⟨rfl, List.forall_mem_nil _⟩

theorem disconnect_outcome {recv : Option EIBNetIPPacket} (h : s.disconnect = (s', as)) :
    Outcome Refuses recv s.tunnelEnd s'.tunnelEnd as := by
  cases h
  exact .quiet (by simp [TunnelAction.Quiet])

theorem onTunnelRequest_outcome {p : EIBNetIPPacket} {r : EIBnetTunnelRequest}
    (hr : EIBnetTunnelRequest.parse p = some r) (h : s.onTunnelRequest r = .ok (s', as)) :
    Outcome Refuses (some p) s.tunnelEnd s'.tunnelEnd as := by
  unfold onTunnelRequest at h
  split at h
  · cases h
    exact .nothing
  split at h
  · next hrep =>
    cases h
    exact .repeats (a := { channel := s.channel, seqno := r.seqno }) rfl hr hrep.symm rfl
  split at h
  · split at h
    · exact disconnect_outcome (Except.ok.inj h)
    · cases h
      exact .nothing
  · next hnum =>
    obtain ⟨⟨s₁, outs⟩, hind, h⟩ := Checked.bind_eq_ok.mp h
    cases h
    obtain ⟨hend, hquiet⟩ := indication_quiet hind
    -- nothing is queued on the way, and the answer comes before the frame is passed on
    rw [hend]
    have htakes : Outcome Refuses (some p) s.tunnelEnd
        { s.tunnelEnd with queue := s.inqueue ++ [], rno := s.rno + 1#8 }
        (.taken r.cemi :: (([] : List CArray).map .put ++ ([] ++ s.answer r.seqno :: outs))) :=
      .takes (a := { channel := s.channel, seqno := r.seqno }) rfl hr (not_not.mp hnum).symm rfl
        (List.forall_mem_nil _) hquiet
    rwa [List.append_nil] at htakes

theorem onTunnelResponse_outcome {p : EIBNetIPPacket} {a : EIBnetTunnelACK}
    (ha : EIBnetTunnelACK.parse p = some a) (h : s.onTunnelResponse a = .ok (s', as)) :
    Outcome Refuses (some p) s.tunnelEnd s'.tunnelEnd as := by
  unfold onTunnelResponse at h
  split at h
  · cases h
    exact .nothing
  split at h
  · cases h
    exact .nothing
  · next hnum =>
    split at h
    · cases h
      exact .nothing
    split at h
    · cases h
      exact .nothing
    · obtain ⟨⟨c, inqueue⟩, hget, h⟩ := Checked.bind_eq_ok.mp h
      cases h
      exact .acks rfl ha (not_not.mp hnum).symm (Queue.get_eq_ok.mp hget)

theorem onConnectionStateResponse_outcome {recv : Option EIBNetIPPacket}
    {r : EIBnetConnectionStateResponse} (h : s.onConnectionStateResponse r = (s', as)) :
    Outcome Refuses recv s.tunnelEnd s'.tunnelEnd as := by
  unfold onConnectionStateResponse at h
  split at h
  · cases h
    exact .nothing
  split at h
  · cases h
    exact .nothing
  split at h
  · exact disconnect_outcome h
  · cases h
    exact .nothing

theorem onDisconnectRequest_outcome {recv : Option EIBNetIPPacket} {r : EIBnetDisconnectRequest}
    (h : s.onDisconnectRequest r = (s', as)) :
    Outcome Refuses recv s.tunnelEnd s'.tunnelEnd as := by
  unfold onDisconnectRequest at h
  split at h
  · cases h
    exact .nothing
  · cases h
    exact .quiet (by simp [TunnelAction.Quiet])

theorem onDisconnectResponse_outcome {recv : Option EIBNetIPPacket} {r : EIBnetDisconnectResponse}
    (h : s.onDisconnectResponse r = (s', as)) :
    Outcome Refuses recv s.tunnelEnd s'.tunnelEnd as := by
  unfold onDisconnectResponse at h
  split at h <;> cases h <;> exact .nothing

theorem recv_outcome {p : EIBNetIPPacket} (h : s.recv p = .ok (s', as)) :
    Outcome Refuses (some p) s.tunnelEnd s'.tunnelEnd as := by
  unfold recv at h
  split at h
  · exact onConnectionStateResponse_outcome (Except.ok.inj h)
  split at h
  · cases h
    exact .nothing
  split at h
  · next hr => exact onTunnelRequest_outcome hr h
  split at h
  · next ha => exact onTunnelResponse_outcome ha h
  split at h
  · exact onDisconnectRequest_outcome (Except.ok.inj h)
  split at h
  · exact onDisconnectResponse_outcome (Except.ok.inj h)
  · cases h
    exact .nothing

/-- The timer gives the frame in front of `inqueue` up. -/
def GivesUp (s : EIBNetIPTunnel) : Prop := s.mod = .ackWait ∧ s.retry ≥ 3

instance (s : EIBNetIPTunnel) : Decidable s.GivesUp :=
  inferInstanceAs (Decidable (s.mod = .ackWait ∧ s.retry ≥ 3))

theorem onTimeout_outcome (h : s.onTimeout = .ok (s', as)) :
    Outcome Refuses none s.tunnelEnd s'.tunnelEnd as := by
  unfold onTimeout at h
  split at h
  · split at h
    · obtain ⟨⟨c, inqueue⟩, hget, h⟩ := Checked.bind_eq_ok.mp h
      dsimp only at h
      split at h
      · cases h
        exact .drops rfl (Queue.get_eq_ok.mp hget) (by simp [disconnect, TunnelAction.Quiet])
      · cases h
        exact .drops rfl (Queue.get_eq_ok.mp hget) (List.forall_mem_nil _)
    · cases h
      exact .nothing
  · cases h
    exact .nothing
  · cases h
    exact .nothing

/-- The timer removes a frame only when it gives it up. -/
theorem givesUp_of_dropped {c : CArray} (h : s.onTimeout = .ok (s', as))
    (hc : .dropped c ∈ as) : s.GivesUp := by
  unfold onTimeout at h
  split at h
  · next hmod =>
    split at h
    · next hretry => exact ⟨hmod, by omega⟩
    · cases h
      simp at hc
  · cases h
    simp at hc
  · cases h
    simp at hc

theorem onHeartbeat_outcome (h : s.onHeartbeat = (s', as)) :
    Outcome Refuses none s.tunnelEnd s'.tunnelEnd as := by
  unfold onHeartbeat at h
  split at h
  · cases h
    exact .quiet (by simp [TunnelAction.Quiet])
  split at h
  · cases h
    exact .quiet (by simp [TunnelAction.Quiet])
  · exact disconnect_outcome h

theorem not_dropped_of_heartbeat (h : s.onHeartbeat = (s', as)) (c : CArray) :
    .dropped c ∉ as := by
  unfold onHeartbeat at h
  split at h
  · cases h
    simp
  split at h
  · cases h
    simp
  · cases h
    simp

/-- Only an empty frame is removed as a marker. -/
theorem dropMarker_outcome (h : s.dropMarker = (s', as)) :
    Outcome Refuses none s.tunnelEnd s'.tunnelEnd as ∧
      ∀ c, .dropped c ∈ as → ∃ rest, s.inqueue = [] :: rest := by
  unfold dropMarker at h
  split at h
  · next inqueue hqueue =>
    cases h
    refine ⟨.drops rfl hqueue ?_, ?_⟩
    · split <;> simp [TunnelAction.Quiet]
    · exact fun _ _ => ⟨inqueue, hqueue⟩
  · cases h
    exact ⟨.nothing, nofun⟩

theorem sendPhase_outcome (h : s.sendPhase = .ok (s', as)) :
    Outcome Refuses none s.tunnelEnd s'.tunnelEnd as := by
  unfold sendPhase at h
  split at h
  · obtain ⟨c, htop, h⟩ := Checked.bind_eq_ok.mp h
    obtain ⟨rest, hqueue⟩ := Queue.top_eq_ok.mp htop
    cases h
    exact .sends hqueue rfl rfl
  · cases h
    exact .nothing

theorem not_dropped_of_sendPhase (h : s.sendPhase = .ok (s', as)) (c : CArray) :
    .dropped c ∉ as := by
  unfold sendPhase at h
  split at h
  · obtain ⟨c, -, h⟩ := Checked.bind_eq_ok.mp h
    cases h
    simp
  · cases h
    simp

end EIBNetIPTunnel

end BcuSdk.Eibd
