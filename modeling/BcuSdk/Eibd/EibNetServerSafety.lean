/-
  BcuSdk.Eibd.EibNetServerSafety

  The connections of `EIBnetServer` over whole runs.

  `TableSound` is the invariant of the table: the channels are distinct and not
  0, and in every connection the semaphore counts the queue.  It holds in every
  state a started server reaches, so that `out.top` and `out.get` never see an
  empty queue.  A packet touches a connection only if it comes from one of its
  two endpoints, so that the connections of different hosts are isolated.
-/
import BcuSdk.Eibd.EibNetIpSafety
import BcuSdk.Eibd.EibNetServerTurn
import BcuSdk.Eibd.FrameSafety
import Mathlib.Data.List.Nodup
import Mathlib.Data.List.Perm.Subperm
import Mathlib.Order.Bounds.Basic

namespace BcuSdk.Eibd

open BcuSdk.Lib

namespace EIBnetServer

variable {s s' : EIBnetServer} {as : List ServerAction} {state state' : List ServerConn}

/-! ## The table -/

/-- The invariant of the table of connections. -/
structure TableSound (state : List ServerConn) : Prop where
  distinct : (state.map (·.channel)).Nodup
  nonzero : ∀ c ∈ state, c.channel ≠ 0#8
  sound : ∀ c ∈ state, c.Sound

theorem channel_range {c : ServerConn} (h : c.channel ≠ 0#8) :
    1 ≤ c.channel.toNat ∧ c.channel.toNat ≤ 255 := by
  have hlt : c.channel.toNat < 2 ^ 8 := c.channel.isLt
  have hpos : c.channel.toNat ≠ 0 := by
    intro h0
    exact h (BitVec.eq_of_toNat_eq h0)
  omega

namespace TableSound

theorem nil : TableSound [] :=
  ⟨List.nodup_nil, fun _ h => absurd h List.not_mem_nil, fun _ h => absurd h List.not_mem_nil⟩

theorem turned (h : TableSound state) (hturn : List.Forall₂ ServerConn.Turn state state') :
    TableSound state' := by
  have hback : ∀ c' ∈ state', ∃ c ∈ state, c.Turn c' := by
    intro c' hc'
    obtain ⟨i, hi, rfl⟩ := List.getElem_of_mem hc'
    have hi' : i < state.length := hturn.length_eq ▸ hi
    exact ⟨state[i], List.getElem_mem hi', hturn.get hi' hi⟩
  have hchannels : state'.map (·.channel) = state.map (·.channel) :=
    map_eq_of_forall₂ (fun _ _ hc => hc.channel) hturn
  refine ⟨hchannels ▸ h.distinct, fun c' hc' => ?_, fun c' hc' => ?_⟩
  · obtain ⟨c, hc, hcc'⟩ := hback c' hc'
    rw [hcc'.channel]
    exact h.nonzero c hc
  · obtain ⟨c, hc, hcc'⟩ := hback c' hc'
    exact hcc'.sound (h.sound c hc)

theorem eraseIdx (h : TableSound state) (i : Nat) : TableSound (state.eraseIdx i) where
  distinct := h.distinct.sublist ((List.eraseIdx_sublist state i).map _)
  nonzero c hc := h.nonzero c (List.mem_of_mem_eraseIdx hc)
  sound c hc := h.sound c (List.mem_of_mem_eraseIdx hc)

/-- A connection with a channel of its own comes behind the others. -/
theorem snoc (h : TableSound state) {c : ServerConn} (h0 : c.channel ≠ 0#8)
    (hfree : ∀ c' ∈ state, c'.channel ≠ c.channel) (hc : c.Sound) : TableSound (state ++ [c]) := by
  refine ⟨?_, fun x hx => ?_, fun x hx => ?_⟩
  · rw [List.map_append, List.nodup_append]
    -- the new channel is not among the others
    refine ⟨h.distinct, List.nodup_singleton _, fun a ha b hb => ?_⟩
    obtain ⟨c', hc', rfl⟩ := List.mem_map.mp ha
    rw [List.mem_singleton.mp hb]
    exact hfree c' hc'
  · rcases List.mem_append.mp hx with hx | hx
    · exact h.nonzero x hx
    · rwa [List.mem_singleton.mp hx]
  · rcases List.mem_append.mp hx with hx | hx
    · exact h.sound x hx
    · rwa [List.mem_singleton.mp hx]

/-- There are only 255 channels. -/
theorem length_le (h : TableSound state) : state.length ≤ 255 := by
  have hnodup : (state.map (·.channel.toNat)).Nodup := by
    have hinj : Function.Injective (BitVec.toNat : Byte → Nat) := fun _ _ => BitVec.eq_of_toNat_eq
    have hmap := h.distinct.map hinj
    rwa [List.map_map] at hmap
  -- pigeonhole: distinct numbers, all between 1 and 255
  have hsub : state.map (·.channel.toNat) ⊆ List.range' 1 255 := by
    intro n hn
    obtain ⟨c, hc, rfl⟩ := List.mem_map.mp hn
    have hrange := channel_range (h.nonzero c hc)
    rw [List.mem_range'_1]
    omega
  have hle := (hnodup.subperm hsub).length_le
  rwa [List.length_map, List.length_range'] at hle

end TableSound

/-! ## addClient -/

/-- The loop stops at the first number that no connection has, or when it runs out of fuel. -/
theorem freeId_spec (state : List ServerConn) (fuel id : Nat) :
    id ≤ freeId state fuel id ∧
      (∀ j, id ≤ j → j < freeId state fuel id → ∃ c ∈ state, c.channel.toNat = j) ∧
      (freeId state fuel id < id + fuel →
        ∀ c ∈ state, c.channel.toNat ≠ freeId state fuel id) := by
  induction fuel generalizing id with
  | zero => exact ⟨Nat.le_refl _, fun j hj hlt => by rw [freeId] at hlt; omega,
      fun hlt => by rw [freeId] at hlt; omega⟩
  | succ fuel ih =>
      rw [freeId]
      split
      case isTrue hused =>
        obtain ⟨c, hc, hid⟩ := List.any_eq_true.mp hused
        obtain ⟨hle, hbelow, hfree⟩ := ih (id + 1)
        refine ⟨by omega, fun j hj hlt => ?_, fun hlt => hfree (by omega)⟩
        rcases Nat.eq_or_lt_of_le hj with rfl | hj
        · exact ⟨c, hc, of_decide_eq_true hid⟩
        · exact hbelow j hj hlt
      case isFalse hunused =>
        refine ⟨Nat.le_refl _, fun j hj hlt => by omega, fun _ c hc hid => hunused ?_⟩
        exact List.any_eq_true.mpr ⟨c, hc, decide_eq_true hid⟩

/-- The numbers a new connection could get. -/
def FreeId (state : List ServerConn) (id : Nat) : Prop :=
  0 < id ∧ ∀ c ∈ state, c.channel.toNat ≠ id

/-- The loop of `addClient` finds the smallest number that is free, which is at most 256. -/
theorem freeId_isLeast (state : List ServerConn) :
    IsLeast { id | FreeId state id } (freeId state 256 1) ∧ freeId state 256 1 ≤ 256 := by
  obtain ⟨hpos, hbelow, hfree⟩ := freeId_spec state 256 1
  have hle : freeId state 256 1 ≤ 256 := by
    by_contra hgt
    -- 256 is no byte, so that no connection has it
    obtain ⟨c, -, hc⟩ := hbelow 256 (by omega) (by omega)
    have hlt : c.channel.toNat < 2 ^ 8 := c.channel.isLt
    omega
  refine ⟨⟨⟨hpos, hfree (by omega)⟩, fun id hid => ?_⟩, hle⟩
  by_contra hgt
  obtain ⟨c, hc, hcid⟩ := hbelow id hid.1 (by omega)
  exact hid.2 c hc hcid

/-- The connection `addClient` makes. -/
def newConn (id : Nat) (type : ClientType) (r1 : EIBnetConnectRequest) (now : Nat) :
    ServerConn where
  channel := BitVec.ofNat 8 id
  type := type
  nat := r1.nat
  timeout := now + 120
  daddr := r1.daddr
  caddr := r1.caddr
  sendtimeout := now + 1

theorem newConn_channel {id : Nat} (h : id ≤ 255) (type : ClientType) (r1 : EIBnetConnectRequest)
    (now : Nat) : (newConn id type r1 now).channel.toNat = id := by
  show (BitVec.ofNat 8 id).toNat = id
  rw [BitVec.toNat_ofNat]
  omega

theorem addClient_of_le {type : ClientType} {r1 : EIBnetConnectRequest} {now : Nat}
    (h : freeId s.state 256 1 ≤ 255) :
    s.addClient type r1 now = (freeId s.state 256 1,
      { s with state := s.state ++ [newConn (freeId s.state 256 1) type r1 now] }) :=
  if_pos h

theorem addClient_of_gt {type : ClientType} {r1 : EIBnetConnectRequest} {now : Nat}
    (h : 255 < freeId s.state 256 1) :
    s.addClient type r1 now = (freeId s.state 256 1, s) :=
  if_neg (Nat.not_le.mpr h)

namespace TableSound

theorem newConn (h : TableSound state) (hle : freeId state 256 1 ≤ 255) (type : ClientType)
    (r1 : EIBnetConnectRequest) (now : Nat) :
    TableSound (state ++ [EIBnetServer.newConn (freeId state 256 1) type r1 now]) := by
  obtain ⟨⟨⟨hpos, hfree⟩, -⟩, -⟩ := freeId_isLeast state
  have hchannel := newConn_channel hle type r1 now
  refine h.snoc (fun h0 => ?_) (fun c hc heq => ?_) ⟨rfl, Nat.zero_le _, nofun⟩
  · rw [h0] at hchannel
    exact absurd hchannel (Nat.ne_of_lt hpos)
  · rw [← heq] at hchannel
    exact hfree c hc hchannel

/-- A number is left exactly if there are not yet 255 connections. -/
theorem freeId_le_iff (h : TableSound state) : freeId state 256 1 ≤ 255 ↔ state.length ≠ 255 := by
  constructor
  · intro hle hfull
    have hlen := (h.newConn hle .linkLayer {} 0).length_le
    rw [List.length_append, hfull, List.length_singleton] at hlen
    omega
  · intro hlen
    by_contra hgt
    -- all the numbers are taken, each by another connection
    obtain ⟨⟨-, hleast⟩, -⟩ := freeId_isLeast state
    have hsub : List.range' 1 255 ⊆ state.map (·.channel.toNat) := by
      intro id hid
      rw [List.mem_range'_1] at hid
      by_contra hfree
      have hfreeId : FreeId state id :=
        ⟨by omega, fun c hc heq => hfree (List.mem_map.mpr ⟨c, hc, heq⟩)⟩
      have := hleast hfreeId
      omega
    have hnodup : (List.range' 1 255).Nodup := List.nodup_range' 1 Nat.one_pos
    have hle := (hnodup.subperm hsub).length_le
    rw [List.length_map, List.length_range'] at hle
    have := h.length_le
    omega

end TableSound

/-! ## Opening and removing -/

theorem addBusmonitor_state (s : EIBnetServer) (accepted : Bool) :
    (s.addBusmonitor accepted).1.state = s.state := by
  rw [addBusmonitor]
  split <;> rfl

theorem delBusmonitor_state (s : EIBnetServer) : s.delBusmonitor.1.state = s.state := by
  rw [delBusmonitor]
  dsimp only
  split <;> rfl

theorem removeClient_of_getElem? {i : Nat} {c : ServerConn} (hc : s.state[i]? = some c) :
    (s.removeClient i).1 =
      if c.type = .busmonitor then ({ s with state := s.state.eraseIdx i }).delBusmonitor.1
      else { s with state := s.state.eraseIdx i } := by
  rw [removeClient, hc]
  dsimp only
  split <;> rfl

theorem removeClient_of_none {i : Nat} (hi : s.state[i]? = none) :
    (s.removeClient i).1 = s := by
  rw [removeClient, hi]

theorem removeClient_state (s : EIBnetServer) (i : Nat) :
    (s.removeClient i).1.state = s.state.eraseIdx i := by
  rcases hi : s.state[i]? with _ | c
  · rw [removeClient_of_none hi, List.eraseIdx_of_length_le (List.getElem?_eq_none_iff.mp hi)]
  · rw [removeClient_of_getElem? hi]
    split
    · exact delBusmonitor_state _
    · rfl

/-- The server with a new connection in its table. -/
def withConn (s : EIBnetServer) (type : ClientType) (r1 : EIBnetConnectRequest) (now : Nat) :
    EIBnetServer :=
  { s with state := s.state ++ [newConn (freeId s.state 256 1) type r1 now] }

theorem openClient_of_none {r1 : EIBnetConnectRequest} {now : Nat} {accepted : Bool}
    (h : s.requestedType r1.cri = none) : (s.openClient r1 now accepted).2.1 = s := by
  rw [openClient, h]

theorem openClient_of_full {r1 : EIBnetConnectRequest} {now : Nat} {accepted : Bool}
    (h : 255 < freeId s.state 256 1) : (s.openClient r1 now accepted).2.1 = s := by
  rcases htype : s.requestedType r1.cri with _ | type
  · exact openClient_of_none htype
  · rw [openClient, htype]
    dsimp only
    rw [addClient_of_gt h]
    dsimp only
    rw [if_neg (Nat.not_le.mpr h)]

theorem openClient_of_free {r1 : EIBnetConnectRequest} {now : Nat} {accepted : Bool}
    {type : ClientType} (htype : s.requestedType r1.cri = some type)
    (h : freeId s.state 256 1 ≤ 255) :
    (s.openClient r1 now accepted).2.1 =
      if type = .busmonitor then ((s.withConn type r1 now).addBusmonitor accepted).1
      else s.withConn type r1 now := by
  rw [openClient, htype]
  dsimp only
  rw [addClient_of_le h]
  dsimp only
  rw [if_pos h]
  split <;> rfl

theorem openClient_state {r1 : EIBnetConnectRequest} {now : Nat} {accepted : Bool} :
    (s.openClient r1 now accepted).2.1.state = s.state ∨
      ∃ type, freeId s.state 256 1 ≤ 255 ∧ (s.openClient r1 now accepted).2.1.state =
        s.state ++ [newConn (freeId s.state 256 1) type r1 now] := by
  rcases htype : s.requestedType r1.cri with _ | type
  · exact .inl (by rw [openClient_of_none htype])
  · by_cases h : freeId s.state 256 1 ≤ 255
    · refine .inr ⟨type, h, ?_⟩
      rw [openClient_of_free htype h]
      split
      · exact addBusmonitor_state _ accepted
      · rfl
    · exact .inl (by rw [openClient_of_full (Nat.lt_of_not_le h)])

/-! ## The invariant over a run -/

theorem TableSound.received {p : ReceivedPacket} {now : Nat} {accepted : Bool}
    (h : TableSound s.state) (hreceived : Received s p now accepted s') : TableSound s'.state := by
  cases hreceived with
  | turned hstate => exact h.turned (hstate.imp fun _ _ => Touched.turn)
  | removed =>
      rw [removeClient_state]
      exact h.eraseIdx _
  | opened =>
      rcases openClient_state with heq | ⟨type, hle, heq⟩
      · rw [heq]
        exact h
      · rw [heq]
        exact h.newConn hle type _ now

theorem TableSound.handle {p1 : Option ReceivedPacket} {now : Nat} {accepted : Bool}
    (h : TableSound s.state) (hhandle : s.handle p1 now accepted = .ok (s', as)) :
    TableSound s'.state := by
  rcases p1 with _ | p
  · cases hhandle
    exact h
  · exact TableSound.received (s := { s with natstate := expireNAT now s.natstate }) h
      (recv_received hhandle)

theorem TableSound.expireClient (h : TableSound s.state) (now : Nat) :
    TableSound (s.expireClient now).1.state := by
  rcases expireClient_eq s now with heq | ⟨i, heq⟩
  · rw [heq]
    exact h
  · rw [heq, removeClient_state]
    exact h.eraseIdx i

theorem TableSound.step {e : Event} (h : TableSound s.state) (hstep : s.step e = .ok s') :
    TableSound s'.state := by
  cases e with
  | pass p1 now accepted =>
      obtain ⟨s₁, received, sent, hhandle, hsend⟩ := step_pass_eq_ok.mp hstep
      exact ((h.handle hhandle).expireClient now).turned (sendAll_turned hsend).state
  | lData l =>
      obtain ⟨⟨s₁, sends⟩, hlData, hstep⟩ := Checked.bind_eq_ok.mp hstep
      cases hstep
      exact h.turned (getLData_turned hlData).state
  | lBusmonitor l =>
      cases hstep
      exact h.turned (getLBusmonitor_turned s l).state

theorem TableSound.run {s₀ : EIBnetServer} {es : List Event} (h₀ : Started s₀)
    (hrun : run EIBnetServer.step s₀ es = .ok s) : TableSound s.state :=
  run_invariant (P := fun _ _ => True)
    (fun _ _ _ (hs : TableSound (EIBnetServer.state _)) _ hstep => hs.step hstep)
    (h₀.state ▸ TableSound.nil) (.of_events fun _ _ => trivial) hrun

/-- The send phase of a sound table returns. -/
theorem TableSound.sendAll (h : TableSound s.state) (now : Nat) : (s.sendAll now).Returns := by
  obtain ⟨turns, hturns⟩ := Checked.returns_mapM fun c hc =>
    (h.sound c hc).sendPhase_returns s.fresh now
  exact ⟨_, by rw [EIBnetServer.sendAll, hturns]; rfl⟩

/-- A pass returns if its packet handling does. -/
theorem TableSound.pass (h : TableSound s.state) {p1 : Option ReceivedPacket} {now : Nat}
    {accepted : Bool} (hhandle : (s.handle p1 now accepted).Returns) :
    (s.pass p1 now accepted).Returns := by
  obtain ⟨⟨s₁, received⟩, hhandle⟩ := hhandle
  obtain ⟨⟨s₂, sent⟩, hsend⟩ := ((h.handle hhandle).expireClient now).sendAll now
  refine ⟨(s₂, received ++ (s₁.expireClient now).2 ++ sent), ?_⟩
  rw [pass_eq, hhandle, Checked.ok_bind]
  dsimp only
  rw [hsend]
  rfl

/-! ## The packet handling returns -/

/-- `EIBNetIPSocket` receives at most 255 bytes at a time, and 6 of them are the header. -/
def FitsSocket (p : ReceivedPacket) : Prop := p.data.length ≤ 249

theorem cemiDecoded_encodable {cemi : CArray} (h : CEMIComplete cemi) (hlen : cemi.length ≤ 249) :
    (cemiDecoded cemi).CEMIEncodable := by
  have hpayload := h.payload
  have hdata : (cemiDecoded cemi).data.length = cemiLength cemi := h.payload_length
  refine ⟨?_, ?_, shift_and_f8 _⟩
  · rw [hdata]
    exact Nat.le_add_left 1 _
  · rw [hdata]
    omega

theorem decHopcount_encodable {l : LDataPDU} (h : l.CEMIEncodable) (h0 : l.hopcount ≠ 0#8) :
    l.decHopcount.CEMIEncodable :=
  ⟨h.nonempty, h.fits, hopcount_pred_and_f8 h.hops h0⟩

theorem indication_returns (c : ConnState) {cemi : CArray} (hlen : cemi.length ≤ 249) :
    (c.indication cemi).Returns := by
  rw [ConnState.indication]
  split
  · exact ⟨_, rfl⟩
  · rw [cemiToLData_eq, Checked.ok_bind]
    by_cases hcomplete : CEMIComplete cemi
    · rw [if_pos hcomplete]
      dsimp only
      split
      · exact ⟨_, rfl⟩
      case isFalse h0 =>
        have hpayload := hcomplete.payload
        obtain ⟨frame, hframe⟩ := (@lDataToCEMI_returns_iff 0x2E#8 _).mpr
          (decHopcount_encodable (cemiDecoded_encodable hcomplete hlen) h0)
        rw [readByte_of_lt (by omega), Checked.ok_bind]
        split
        · rw [hframe]
          exact ⟨_, rfl⟩
        · split <;> exact ⟨_, rfl⟩
    · rw [if_neg hcomplete]
      exact ⟨_, rfl⟩

theorem onTunnelRequest_returns (object : Nat) (c : ServerConn) {r : EIBnetTunnelRequest}
    (hlen : r.cemi.length ≤ 249) : (c.onTunnelRequest object r).Returns := by
  rw [ServerConn.onTunnelRequest]
  split
  · exact ⟨_, rfl⟩
  · split
    · exact ⟨_, rfl⟩
    · obtain ⟨ind, hind⟩ := indication_returns c.tunnelConn hlen
      rw [hind]
      exact ⟨_, rfl⟩

theorem propertyResponse_returns {cemi : CArray} (hlen : cemi.length = 7) :
    (ServerConn.propertyResponse cemi).Returns := by
  rw [ServerConn.propertyResponse]
  -- all six reads are inside of the frame
  repeat rw [readByte_of_lt (by omega), Checked.ok_bind]
  exact ⟨_, rfl⟩

theorem onConfigRequest_returns (c : ServerConn) (r : EIBnetConfigRequest) (fresh : Nat → Byte) :
    (c.onConfigRequest r fresh).Returns := by
  rw [ServerConn.onConfigRequest]
  split
  · exact ⟨_, rfl⟩
  · split
    · exact ⟨_, rfl⟩
    · split
      case isTrue hdevice =>
        rw [readByte_of_lt (by omega), Checked.ok_bind]
        split
        case isTrue hseven =>
          obtain ⟨frame, hframe⟩ := propertyResponse_returns hseven.2
          rw [hframe]
          exact ⟨_, rfl⟩
        case isFalse => exact ⟨_, rfl⟩
      case isFalse => exact ⟨_, rfl⟩

theorem onRoutingIndication_returns {data : CArray} {now : Nat} (hlen : data.length ≤ 249) :
    (s.onRoutingIndication data now).Returns := by
  rw [onRoutingIndication]
  split
  · exact ⟨_, rfl⟩
  · rw [readByte_of_lt (by omega), Checked.ok_bind]
    split
    · exact ⟨_, rfl⟩
    · rw [cemiToLData_eq, Checked.ok_bind]
      by_cases hcomplete : CEMIComplete data
      · rw [if_pos hcomplete]
        dsimp only
        rw [tracePrintf_decode (cemiDecoded_encodable hcomplete hlen).encodable, Checked.ok_bind]
        split <;> exact ⟨_, rfl⟩
      · rw [if_neg hcomplete]
        exact ⟨_, rfl⟩

theorem onConnection_returns {src : SockaddrIn} {channel : Byte}
    {f : ServerConn → Checked (ServerConn × List ServerAction)}
    (hf : ∀ c ∈ s.state, (f c).Returns) : (s.onConnection src channel f).Returns := by
  rw [onConnection]
  split
  · exact ⟨_, rfl⟩
  case h_2 i hi =>
    obtain ⟨hlt, -⟩ := List.findIdx?_eq_some_iff_getElem.mp hi
    rw [List.getElem?_eq_getElem hlt]
    dsimp only
    split
    · obtain ⟨turn, hturn⟩ := hf _ (List.getElem_mem hlt)
      rw [hturn]
      exact ⟨_, rfl⟩
    · exact ⟨_, rfl⟩

/-- A parser that answers, and what follows. -/
theorem parsed_returns {α β : Type} {x : Checked (Option α)} {P : α → Prop}
    {g : Option α → Checked β} (hx : Answers x P) (hnone : (g none).Returns)
    (hsome : ∀ r1, P r1 → (g (some r1)).Returns) : (x >>= g).Returns := by
  obtain ⟨r1, hr1, hP⟩ := hx
  rw [hr1, Checked.ok_bind]
  rcases r1 with _ | r1
  · exact hnone
  · exact hsome r1 (hP r1 rfl)

theorem parse_cemi_length {p : EIBNetIPPacket} {r : EIBnetTunnelRequest}
    (h : EIBnetTunnelRequest.parse p = some r) : r.cemi.length ≤ p.data.length := by
  rw [EIBnetTunnelRequest.parse] at h
  split at h
  · cases h
  · split at h
    · cases h
    · split at h
      case h_1 hdata =>
        split at h
        · cases h
        · cases h
          rw [hdata]
          simp only [List.length_cons]
          omega
      case h_2 => cases h

theorem recv_returns (h : TableSound s.state) {p : ReceivedPacket} (hp : FitsSocket p) (now : Nat)
    (accepted : Bool) : (s.recv p now accepted).Returns := by
  -- one case for each service the server knows, in the order of the code
  rw [recv]
  by_cases hsearch : p.service = Service.searchRequest ∧ s.discover
  · rw [if_pos hsearch]
    exact parsed_returns (P := fun _ => True) (Answers.call (parseEndpoint_answers _ p _) rfl
      fun _ _ => Answers.accept trivial) ⟨_, rfl⟩ fun _ _ => ⟨_, rfl⟩
  rw [if_neg hsearch]
  by_cases hdescription : p.service = Service.descriptionRequest ∧ s.discover
  · rw [if_pos hdescription]
    exact parsed_returns (P := fun _ => True) (Answers.call (parseEndpoint_answers _ p _) rfl
      fun _ _ => Answers.accept trivial) ⟨_, rfl⟩ fun _ _ => ⟨_, rfl⟩
  rw [if_neg hdescription]
  by_cases hrouting : p.service = Service.routingIndication ∧ s.route
  · rw [if_pos hrouting]
    exact onRoutingIndication_returns hp
  rw [if_neg hrouting]
  by_cases hstate : p.service = Service.connectionStateRequest
  · rw [if_pos hstate]
    exact parsed_returns (P := fun _ => True) (Answers.call (parseChannelRequest_answers _ p _) rfl
      fun _ _ => Answers.accept trivial) ⟨_, rfl⟩ fun _ _ => ⟨_, rfl⟩
  rw [if_neg hstate]
  by_cases hdisconnect : p.service = Service.disconnectRequest
  · rw [if_pos hdisconnect]
    exact parsed_returns (P := fun _ => True) (Answers.call (parseChannelRequest_answers _ p _) rfl
      fun _ _ => Answers.accept trivial) ⟨_, rfl⟩ fun _ _ => ⟨_, rfl⟩
  rw [if_neg hdisconnect]
  by_cases hconnect : p.service = Service.connectionRequest
  · rw [if_pos hconnect]
    exact parsed_returns (EIBnetConnectRequest.parse_answers p _) ⟨_, rfl⟩ fun _ _ => ⟨_, rfl⟩
  rw [if_neg hconnect]
  by_cases htunnel : p.service = Service.tunnelRequest ∧ s.tunnel
  · rw [if_pos htunnel]
    -- the frame is as long as the packet at most, which the encoding relies on
    rw [EIBnetTunnelRequest.parseBytes_eq, Checked.ok_bind]
    rcases hparse : EIBnetTunnelRequest.parse p.toEIBNetIPPacket with _ | r1
    · exact ⟨_, rfl⟩
    · exact onConnection_returns fun c _ =>
        onTunnelRequest_returns s.object c (Nat.le_trans (parse_cemi_length hparse) hp)
  rw [if_neg htunnel]
  by_cases hack : p.service = Service.tunnelResponse ∧ s.tunnel
  · rw [if_pos hack]
    rw [EIBnetTunnelACK.parseBytes_eq, Checked.ok_bind]
    rcases EIBnetTunnelACK.parse p.toEIBNetIPPacket with _ | r1
    · exact ⟨_, rfl⟩
    · exact onConnection_returns fun c hc => (h.sound c hc).onAck_returns _ _ _
  rw [if_neg hack]
  by_cases hconfig : p.service = Service.deviceConfigurationRequest
  · rw [if_pos hconfig]
    exact parsed_returns (P := fun _ => True) (Answers.call (parseChannelFrame_answers _ p) rfl
      fun _ _ => Answers.accept trivial) ⟨_, rfl⟩
      fun r1 _ => onConnection_returns fun c _ => onConfigRequest_returns c r1 s.fresh
  rw [if_neg hconfig]
  by_cases hconfigAck : p.service = Service.deviceConfigurationAck
  · rw [if_pos hconfigAck]
    exact parsed_returns (P := fun _ => True) (Answers.call (parseChannelAck_answers _ p) rfl
      fun _ _ => Answers.accept trivial) ⟨_, rfl⟩
      fun r1 _ => onConnection_returns fun c hc => (h.sound c hc).onAck_returns _ _ _
  rw [if_neg hconfigAck]
  exact ⟨_, rfl⟩

theorem handle_returns (h : TableSound s.state) {p1 : Option ReceivedPacket}
    (hp : ∀ p, p1 = some p → FitsSocket p) (now : Nat) (accepted : Bool) :
    (s.handle p1 now accepted).Returns := by
  rcases p1 with _ | p
  · exact ⟨_, rfl⟩
  · exact recv_returns (s := { s with natstate := expireNAT now s.natstate }) h (hp p rfl) now
      accepted

/-! ## The table over a run -/

/-- The numbers of a connection are in their ranges, its semaphore counts its queue, and a frame
    that is being sent is in the queue. -/
structure ConnInRange (c : ServerConn) : Prop where
  channel : 1 ≤ c.channel.toNat ∧ c.channel.toNat ≤ 255
  sno : c.sno.toNat ≤ 255
  rno : c.rno.toNat ≤ 255
  signal : c.outsignal = c.out.length
  state : c.state ≤ 10
  pending : 0 < c.state → c.out ≠ []

theorem TableSound.inRange (h : TableSound state) {c : ServerConn} (hc : c ∈ state) :
    ConnInRange c where
  channel := channel_range (h.nonzero c hc)
  sno := Nat.le_of_lt_succ c.sno.isLt
  rno := Nat.le_of_lt_succ c.rno.isLt
  signal := (h.sound c hc).signal
  state := (h.sound c hc).bounded
  pending := (h.sound c hc).pending

/-- `addClient` takes the smallest number no connection has, and refuses exactly a 256th
    connection. -/
structure AddClientExact (s : EIBnetServer) (type : ClientType) (r1 : EIBnetConnectRequest)
    (now : Nat) : Prop where
  refused : 255 < (s.addClient type r1 now).1 ↔ s.state.length = 255
  unchanged : 255 < (s.addClient type r1 now).1 → (s.addClient type r1 now).2 = s
  smallest : IsLeast { id | FreeId s.state id } (s.addClient type r1 now).1
  added : (s.addClient type r1 now).1 ≤ 255 → ∃ c, c.channel.toNat = (s.addClient type r1 now).1 ∧
    c.type = type ∧ (s.addClient type r1 now).2 = { s with state := s.state ++ [c] }

theorem TableSound.addClient (h : TableSound s.state) (type : ClientType)
    (r1 : EIBnetConnectRequest) (now : Nat) : AddClientExact s type r1 now := by
  have hleast := (freeId_isLeast s.state).1
  have hiff := h.freeId_le_iff
  by_cases hle : freeId s.state 256 1 ≤ 255
  · refine ⟨?_, ?_, ?_,
      fun _ => ⟨EIBnetServer.newConn (freeId s.state 256 1) type r1 now, ?_, rfl, ?_⟩⟩
    all_goals rw [addClient_of_le hle]
    · exact iff_of_false (Nat.not_lt.mpr hle) (hiff.mp hle)
    · exact fun hgt => absurd hle (Nat.not_le.mpr hgt)
    · exact hleast
    · exact newConn_channel hle type r1 now
  · have hgt := Nat.lt_of_not_le hle
    refine ⟨?_, ?_, ?_, ?_⟩
    all_goals rw [addClient_of_gt hgt]
    · exact iff_of_true hgt (not_not.mp fun hlen => hle (hiff.mpr hlen))
    · exact fun _ => rfl
    · exact hleast
    · exact fun hle' => absurd hle' hle

/-- Whatever packets, frames and timeouts come in whatever order, the channels stay distinct,
    every connection is in range, `addClient` is exact, and no step applies `out.top` or
    `out.get` to an empty queue: an acknowledgement is always handled, a pass comes to its end
    if it gets through its packet, and it does on every packet from a socket. -/
theorem table_inRange {s₀ : EIBnetServer} {es : List Event} (h₀ : Started s₀)
    (hrun : run step s₀ es = .ok s) :
    (s.state.map (·.channel)).Nodup ∧ (∀ c ∈ s.state, ConnInRange c) ∧
      (∀ type r1 now, AddClientExact s type r1 now) ∧
      (∀ c ∈ s.state, ∀ types seqno status, (c.onAck types seqno status).Returns) ∧
      (∀ p1 now accepted, (s.handle p1 now accepted).Returns → (s.pass p1 now accepted).Returns) ∧
      ∀ p1 now accepted, (∀ p, p1 = some p → FitsSocket p) → (s.pass p1 now accepted).Returns := by
  have h := TableSound.run h₀ hrun
  refine ⟨h.distinct, fun c hc => h.inRange hc, h.addClient, fun c hc => ?_, ?_, ?_⟩
  · exact (h.sound c hc).onAck_returns
  · intro p1 now accepted hhandle
    exact h.pass hhandle
  · intro p1 now accepted hp
    exact h.pass (handle_returns h hp now accepted)

/-- A server for tunnels only. -/
def tunnelServer : EIBnetServer where
  object := 1
  tunnel := true
  route := false
  discover := false
  showPrint := false
  port := 3671#16
  maddr := {}
  sourceAddress _ := none
  fresh _ := 0#8

theorem tunnelServer_started : Started tunnelServer := ⟨rfl, rfl, rfl⟩

/-- A host of the local network. -/
def hostAddr (n : Word32) : SockaddrIn where
  family := afInet
  port := 50000#16
  addr := 0xc0a80000#32 + n

/-- A host asks for a tunnel; `0x80` is a busmonitor. -/
def connectFrom (n : Word32) (layer : Byte) : ReceivedPacket where
  toEIBNetIPPacket := ({ caddr := hostAddr n, daddr := hostAddr n, cri := [4#8, layer, 0#8] } :
    EIBnetConnectRequest).toPacket tunnelServer.fresh
  src := hostAddr n

/-- A host leaves a channel. -/
def disconnectFrom (n : Word32) (channel : Byte) : ReceivedPacket where
  toEIBNetIPPacket := ({ caddr := hostAddr n, channel } : EIBnetDisconnectRequestFrom).toPacket
    tunnelServer.fresh
  src := hostAddr n

/-- Two hosts get the channels 1 and 2. -/
theorem table_inRange_two : ∃ s,
    Lib.run step tunnelServer [.pass (some (connectFrom 2 0x02#8)) 0 true,
      .pass (some (connectFrom 3 0x80#8)) 1 true] = .ok s ∧
    s.state.map (·.channel) = [1#8, 2#8] ∧ (∀ c ∈ s.state, ConnInRange c) ∧
      ∀ type r1 now, AddClientExact s type r1 now := by
  obtain ⟨s, hrun, hchannels⟩ : ∃ s,
      Lib.run step tunnelServer [.pass (some (connectFrom 2 0x02#8)) 0 true,
        .pass (some (connectFrom 3 0x80#8)) 1 true] = .ok s ∧
      s.state.map (·.channel) = [1#8, 2#8] := by
    decide +kernel
  have h := table_inRange tunnelServer_started hrun
  exact ⟨s, hrun, hchannels, h.2.1, h.2.2.1⟩

/-! ## Isolation -/

theorem mem_eraseIdx_of_ne {α : Type} {l : List α} {i : Nat} {a b : α} (ha : a ∈ l)
    (hi : l[i]? = some b) (hne : b ≠ a) : a ∈ l.eraseIdx i := by
  rw [List.mem_eraseIdx_iff_getElem?]
  obtain ⟨j, hj⟩ := List.mem_iff_getElem?.mp ha
  refine ⟨j, fun hij => hne ?_, hj⟩
  rw [hij, hi] at hj
  exact Option.some.inj hj

/-- A packet that does not come from a peer of the connection leaves it as it is. -/
theorem Received.mem_of_not_fromPeer {p : ReceivedPacket} {now : Nat} {accepted : Bool}
    (h : Received s p now accepted s') {k : ServerConn} (hk : k ∈ s.state)
    (hp : ¬ FromPeer p.src k) : k ∈ s'.state := by
  cases h with
  | turned hstate =>
      obtain ⟨i, hi, rfl⟩ := List.getElem_of_mem hk
      have hi' : i < s'.state.length := hstate.length_eq ▸ hi
      have heq : s'.state[i] = s.state[i] :=
        (hstate.get hi hi').resolve_right fun htouched => hp htouched.1
      rw [← heq]
      exact List.getElem_mem hi'
  | removed hc hsrc =>
      rw [removeClient_state]
      exact mem_eraseIdx_of_ne hk hc fun heq => hp (heq ▸ hsrc)
  | opened =>
      rcases openClient_state with heq | ⟨type, -, heq⟩
      · rw [heq]
        exact hk
      · rw [heq]
        exact List.mem_append_left _ hk

/-- A packet, the time it is handled at and the answer of Layer 3 to a registration. -/
structure Arrival where
  p : ReceivedPacket
  now : Nat
  accepted : Bool

/-- The packet handling of a pass. -/
def receive (s : EIBnetServer) (a : Arrival) : Checked EIBnetServer := do
  return (← s.handle (some a.p) a.now a.accepted).1

/-- The connection with this channel. -/
def find (s : EIBnetServer) (channel : Byte) : Option ServerConn :=
  s.state.find? fun c => c.channel = channel

theorem TableSound.find_eq (h : TableSound s.state) {k : ServerConn} (hk : k ∈ s.state) :
    s.find k.channel = some k := by
  -- the first connection with the channel is the only one
  obtain ⟨c, hc⟩ : ∃ c, s.find k.channel = some c := by
    rw [← Option.isSome_iff_exists, find, List.find?_isSome]
    exact ⟨k, hk, decide_eq_true rfl⟩
  have hmem : c ∈ s.state := List.mem_of_find?_eq_some hc
  have hchannel : c.channel = k.channel := by simpa using List.find?_some hc
  rw [hc, List.inj_on_of_nodup_map h.distinct hmem hk hchannel]

theorem receive_keeps {k : ServerConn} {a : Arrival} (h : TableSound s.state ∧ k ∈ s.state)
    (hforeign : ¬ FromPeer a.p.src k) (hstep : s.receive a = .ok s') :
    TableSound s'.state ∧ k ∈ s'.state := by
  obtain ⟨⟨s₁, as⟩, hhandle, hstep⟩ := Checked.bind_eq_ok.mp hstep
  cases hstep
  exact ⟨h.1.handle hhandle, (recv_received hhandle).mem_of_not_fromPeer h.2 hforeign⟩

/-- Packets from elsewhere leave a connection as it is, one after the other. -/
theorem find_of_receive {k : ServerConn} {arrivals : List Arrival} (h : TableSound s.state)
    (hk : k ∈ s.state) (hforeign : ∀ a ∈ arrivals, a.p.src ≠ k.caddr ∧ a.p.src ≠ k.daddr)
    (hrun : Lib.run receive s arrivals = .ok s') : s'.find k.channel = some k := by
  have hkeeps := run_invariant (fun _ _ _ => receive_keeps) ⟨h, hk⟩
    (.of_events fun a ha => not_or.mpr (hforeign a ha)) hrun
  exact hkeeps.1.find_eq hkeeps.2

/-- In every state the server reaches, two series of packets from other addresses than the two
    endpoints of a connection leave the connection in the table as it is, with everything in it,
    so that they agree on it. -/
theorem receive_isolates {s₀ s₁ s₂ : EIBnetServer} {es : List Event} (h₀ : Started s₀)
    (hrun : Lib.run step s₀ es = .ok s) {k : ServerConn} (hk : k ∈ s.state)
    {arrivals₁ arrivals₂ : List Arrival}
    (hforeign₁ : ∀ a ∈ arrivals₁, a.p.src ≠ k.caddr ∧ a.p.src ≠ k.daddr)
    (hforeign₂ : ∀ a ∈ arrivals₂, a.p.src ≠ k.caddr ∧ a.p.src ≠ k.daddr)
    (h₁ : Lib.run receive s arrivals₁ = .ok s₁)
    (h₂ : Lib.run receive s arrivals₂ = .ok s₂) :
    s₁.find k.channel = some k ∧ s₂.find k.channel = some k := by
  have h := TableSound.run h₀ hrun
  exact ⟨find_of_receive h hk hforeign₁ h₁, find_of_receive h hk hforeign₂ h₂⟩

/-- The tunnel of host 2, while it is the only one. -/
def firstConn : ServerConn :=
  newConn 1 .linkLayer { caddr := hostAddr 2, daddr := hostAddr 2 } 0

/-- Host 3 tries to close it. -/
theorem receive_isolates_firstConn : ∃ s s₁,
    Lib.run step tunnelServer [.pass (some (connectFrom 2 0x02#8)) 0 true] = .ok s ∧
      firstConn ∈ s.state ∧ Lib.run receive s [⟨disconnectFrom 3 1#8, 1, true⟩] = .ok s₁ ∧
      s₁.find 1#8 = some firstConn := by
  obtain ⟨s, hrun, hmem, s₁, h₁⟩ : ∃ s,
      Lib.run step tunnelServer [.pass (some (connectFrom 2 0x02#8)) 0 true] = .ok s ∧
      firstConn ∈ s.state ∧ (Lib.run receive s [⟨disconnectFrom 3 1#8, 1, true⟩]).Returns := by
    decide +kernel
  have hforeign : (disconnectFrom 3 1#8).src ≠ firstConn.caddr ∧
      (disconnectFrom 3 1#8).src ≠ firstConn.daddr := by
    decide +kernel
  have hnone : Lib.run receive s [] = .ok s := rfl
  have h := receive_isolates tunnelServer_started hrun hmem
    (List.forall_mem_singleton.mpr hforeign) (List.forall_mem_nil _) h₁ hnone
  exact ⟨s, s₁, hrun, hmem, h₁, h.1⟩

end EIBnetServer

end BcuSdk.Eibd
