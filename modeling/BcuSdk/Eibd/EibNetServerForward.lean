/-
  BcuSdk.Eibd.EibNetServerForward

  The copies `EIBnetServer::Get_L_Data` makes of a frame
  (eibd/libserver/eibnetserver.cpp).

  The source counts down the hop count and sets the destination in the frame
  itself while it sends copies of it.  `getLDataInPlace` follows it statement
  by statement; `getLDataInPlace_eq` says that the changes leave no trace, so
  that `getLData`, which encodes changed copies, is the same function.
-/
import BcuSdk.Eibd.EibNetServerRun
import BcuSdk.Eibd.FrameSafety
import Mathlib.Data.List.Forall2

namespace BcuSdk.Eibd

open BcuSdk.Lib

namespace EIBnetServer

variable (s : EIBnetServer)

/-! ## The frame changed in place -/

/-- `sock->Send` of a `ROUTING_INDICATION` to `maddr`. -/
def routing (data : CArray) : ServerAction :=
  .send s.maddr { service := Service.routingIndication, data }

/-- The loop over `natstate`: the frame, the packets sent and `cnt` after it. -/
def routeLoop : List NATEntry → LDataPDU → List ServerAction → Nat →
    Checked (LDataPDU × List ServerAction × Nat)
  | [], l, sends, cnt => .ok (l, sends, cnt)
  | n :: rest, l, sends, cnt =>
      if n.dest = l.source then do
        let l := { l with dest := n.src }
        let data ← lDataToCEMI 0x29#8 l
        -- the next peer, and the queues, get the frame as it was
        let l := { l with dest := 0 }
        routeLoop rest l (sends ++ [s.routing data]) (cnt + 1)
      else routeLoop rest l sends cnt

/-- The part of `Get_L_Data` behind `if (route)`: the frame after it, and the packets sent. -/
def routeInPlace (l : LDataPDU) : Checked (LDataPDU × List ServerAction) := do
  if s.route then
    tracePrintf s.showPrint l.decode
    if l.dest = 0 ∧ l.addrType = .individualAddress then
      let (l, sends, cnt) ← s.routeLoop s.natstate l [] 0
      if cnt = 0 then
        return (l, sends ++ [s.routing (← lDataToCEMI 0x29#8 l)])
      else
        return (l, sends)
    else
      return (l, [s.routing (← lDataToCEMI 0x29#8 l)])
  else
    return (l, [])

/-- The body of the loop over `state`. -/
def queueCopy (l : LDataPDU) (c : ServerConn) : Checked ServerConn := do
  if c.type = .linkLayer then
    return c.put (← lDataToCEMI 0x29#8 l)
  else
    return c

/-- `Get_L_Data`, statement by statement. -/
def getLDataInPlace (l : LDataPDU) : Checked (EIBnetServer × List ServerAction) := do
  if l.hopcount = 0#8 then
    return (s, [])
  else if l.object = s.object then
    return (s, [])
  else
    -- from here on the frame itself has one hop less
    let l := { l with hopcount := l.hopcount - 1#8 }
    let (l, sends) ← s.routeInPlace l
    let state ← s.state.mapM (queueCopy l)
    return ({ s with state }, sends)

/-! ## What a frame is forwarded to -/

/-- The server drops the frame: it has no hops left or is one of its own. -/
def Drops (l : LDataPDU) : Prop := l.hopcount = 0#8 ∨ l.object = s.object

instance (l : LDataPDU) : Decidable (s.Drops l) := inferInstanceAs (Decidable (_ ∨ _))

/-- The sources the NAT table has for frames to `source`, in the order of the table. -/
def natPeers (source : EibAddr) : List EibAddr :=
  (s.natstate.filter fun n => n.dest = source).map (·.src)

/-- The destinations under which the frame is multicast: its own, unless it is for the gateway and
    the NAT table has peers of its sender. -/
def routedDests (l : LDataPDU) : List EibAddr :=
  if s.route = false then []
  else if l.dest = 0 ∧ l.addrType = .individualAddress ∧ s.natPeers l.source ≠ [] then
    s.natPeers l.source
  else [l.dest]

/-- `data` is the cEMI frame of a copy of `l` to `dest` with one hop less. -/
structure IsCopy (l : LDataPDU) (dest : EibAddr) (data : CArray) : Prop where
  encoded : lDataToCEMI 0x29#8 { l with hopcount := l.hopcount - 1#8, dest } = .ok data
  hops : (cemiFields data).hops.toNat + 1 = l.hopcount.toNat
  fields : cemiFields data =
    { repeatBit := repeatFlag l.repeated, priority := l.prio.code, addrBit := l.addrType.flag
      hops := l.hopcount - 1#8, source := l.source, dest, payload := l.data }

/-- What the server owes a frame it does not drop: a copy in the queue of every tunnel connection,
    and a multicast copy for each of the destinations. -/
structure Copies (l : LDataPDU) (s' : EIBnetServer) (sends : List ServerAction) : Prop where
  tunnels : List.Forall₂ (fun c c' : ServerConn => if c.type = .linkLayer then
    ∃ data, IsCopy l l.dest data ∧ c' = c.put data else c' = c) s.state s'.state
  multicast : List.Forall₂ (fun dest a => ∃ data, IsCopy l dest data ∧ a = s.routing data)
    (s.routedDests l) sends
  rest : s' = { s with state := s'.state }

/-- `Get_L_Data` does with `l` what the server owes it. -/
def Forwards (l : LDataPDU) : Prop :=
  if s.Drops l then s.getLDataInPlace l = .ok (s, [])
  else ∃ s' sends, s.getLDataInPlace l = .ok (s', sends) ∧ s.Copies l s' sends

/-! ## The changes leave no trace -/

/-- The packet for a frame the routing part passes on. -/
def routedSend : Passed → Option ServerAction
  | .routed data => some (s.routing data)
  | _ => none

/-- The loop leaves the frame as it was, and sends a copy for every peer. -/
theorem routeLoop_eq {l : LDataPDU} (h0 : l.dest = 0) (entries : List NATEntry)
    (sends : List ServerAction) (cnt : Nat) :
    s.routeLoop entries l sends cnt =
      (entries.filter fun n => n.dest = l.source).mapM
        (fun n => lDataToCEMI 0x29#8 { l with dest := n.src }) >>=
          fun copies => .ok (l, sends ++ copies.map s.routing, cnt + copies.length) := by
  have hback : { l with dest := 0 } = l := by
    rw [← h0]
  induction entries generalizing sends cnt with
  | nil => simp [routeLoop]
  | cons n rest ih =>
      by_cases hn : n.dest = l.source
      · rw [routeLoop, if_pos hn, List.filter_cons_of_pos (by simpa using hn), List.mapM_cons]
        dsimp only
        rcases lDataToCEMI 0x29#8 { l with dest := n.src } with e | data
        · rfl
        · -- the destination is set back to 0, which it was before
          simp only [Checked.ok_bind, hback, ih, bind_assoc]
          refine bind_congr fun copies => ?_
          simp [Nat.add_assoc, Nat.add_comm 1]
      · rw [routeLoop, if_neg hn, List.filter_cons_of_neg (by simpa using hn), ih]

/-- The listener's loop over the peers, with the packets made afterwards. -/
theorem mapM_routed (f : EibAddr → Checked CArray) (entries : List NATEntry) :
    ((entries.map (·.toNATState)).mapM fun n => do return Passed.routed (← f n.src)) =
      (entries.mapM fun n => f n.src) >>= fun copies => .ok (copies.map .routed) := by
  induction entries with
  | nil => rfl
  | cons n rest ih =>
      rw [List.map_cons, List.mapM_cons, List.mapM_cons, ih]
      rcases f n.src with e | data
      · rfl
      · simp only [Checked.ok_bind, bind_assoc, Checked.pure_eq_ok, List.map_cons]

/-- The routing part leaves the frame as it was, and sends what the listener passes on. -/
theorem routeInPlace_eq (l : LDataPDU) :
    s.routeInPlace l = s.listener.routeFrame l >>= fun routed =>
      .ok (l, routed.filterMap s.routedSend) := by
  -- both filter the same table, with and without the timeouts
  have hpeers : (s.listener.natstate.filter fun n => n.dest = l.source) =
      (s.natstate.filter fun n => n.dest = l.source).map (·.toNATState) := List.filter_map
  have hsend : ∀ copies : List CArray,
      (copies.map Passed.routed).filterMap s.routedSend = copies.map s.routing := fun copies => by
    rw [List.filterMap_map]
    exact List.filterMap_eq_map_iff_forall_eq_some.mpr fun _ _ => rfl
  rw [routeInPlace, ServerListener.routeFrame, show s.listener.route = s.route from rfl,
    show s.listener.showPrint = s.showPrint from rfl, hpeers]
  split
  · rcases tracePrintf s.showPrint l.decode with e | u
    · rfl
    simp only [Checked.ok_bind]
    by_cases hown : l.dest = 0 ∧ l.addrType = .individualAddress
    · rw [if_pos hown, s.routeLoop_eq hown.1]
      generalize s.natstate.filter (fun n => n.dest = l.source) = entries
      rcases entries with _ | ⟨n, rest⟩
      · -- no peer: `cnt` stays 0
        rw [if_neg (by simp)]
        simp only [List.mapM_nil, Checked.pure_eq_ok, Checked.ok_bind, List.length_nil, if_true]
        rcases lDataToCEMI 0x29#8 l with e | data <;> rfl
      · rw [if_pos ⟨hown.1, hown.2, by simp⟩,
          mapM_routed (fun dest => lDataToCEMI 0x29#8 { l with dest }), List.mapM_cons]
        rcases lDataToCEMI 0x29#8 { l with dest := n.src } with e | data
        · rfl
        · simp only [Checked.ok_bind, bind_assoc, Checked.pure_eq_ok]
          refine bind_congr fun copies => ?_
          have hsends := hsend (data :: copies)
          rw [if_neg (by rw [List.length_cons]; omega), hsends, List.nil_append]
    · have hsingle : ¬ (l.dest = 0 ∧ l.addrType = .individualAddress ∧
          (s.natstate.filter fun n => n.dest = l.source).map (·.toNATState) ≠ []) :=
        fun h => hown ⟨h.1, h.2.1⟩
      rw [if_neg hown, if_neg hsingle]
      rcases lDataToCEMI 0x29#8 l with e | data <;> rfl
  · rfl

/-- `Get_L_Data` in place is `getLData`. -/
theorem getLDataInPlace_eq (l : LDataPDU) : s.getLDataInPlace l = s.getLData l := by
  rw [getLDataInPlace, getLData]
  split
  · rfl
  split
  · rfl
  · dsimp only
    rw [routeInPlace_eq, bind_assoc]
    rfl

/-! ## Frames that can be encoded -/

/-- The destination does not matter for whether a frame can be encoded. -/
theorem lDataToCEMI_readdressed {l : LDataPDU} (henc : l.CEMIEncodable) (dest : EibAddr) :
    lDataToCEMI 0x29#8 { l with dest } = .ok (LDataPDU.cemiBytes 0x29#8 { l with dest }) :=
  lDataToCEMI_eq_ok.mpr ⟨⟨henc.nonempty, henc.fits, henc.hops⟩, rfl⟩

theorem encodable_of_readdressed {l : LDataPDU} {dest : EibAddr}
    (h : (lDataToCEMI 0x29#8 { l with dest }).Returns) : l.CEMIEncodable := by
  have henc := lDataToCEMI_returns_iff.mp h
  exact ⟨henc.nonempty, henc.fits, henc.hops⟩

/-- The copy of a frame with hops left. -/
theorem isCopy {l : LDataPDU} (h0 : l.hopcount ≠ 0#8) (henc : l.decHopcount.CEMIEncodable)
    (dest : EibAddr) :
    IsCopy l dest (LDataPDU.cemiBytes 0x29#8 { l.decHopcount with dest }) := by
  have hcopy : LDataPDU.CEMIEncodable { l.decHopcount with dest } :=
    ⟨henc.nonempty, henc.fits, henc.hops⟩
  have hfields := hcopy.cemiFields_cemiBytes
  refine ⟨lDataToCEMI_readdressed henc dest, ?_, hfields⟩
  have hpos : l.hopcount.toNat ≠ 0 := fun h => h0 (BitVec.eq_of_toNat_eq h)
  have hlt := l.hopcount.isLt
  rw [hfields]
  simp only [LDataPDU.decHopcount, BitVec.toNat_sub, BitVec.toNat_ofNat]
  omega

theorem routeInPlace_of_encodable {l : LDataPDU} (henc : l.CEMIEncodable) :
    s.routeInPlace l = .ok (l, (s.routedDests l).map fun dest =>
      s.routing (LDataPDU.cemiBytes 0x29#8 { l with dest })) := by
  have hself : lDataToCEMI 0x29#8 l = .ok (l.cemiBytes 0x29#8) :=
    lDataToCEMI_readdressed henc l.dest
  rw [routeInPlace, routedDests]
  cases hroute : s.route with
  | false => rfl
  | true =>
      rw [if_pos rfl, if_neg (show ¬ true = false by decide), tracePrintf_decode henc.encodable,
        Checked.ok_bind]
      by_cases hown : l.dest = 0 ∧ l.addrType = .individualAddress
      · rw [if_pos hown, s.routeLoop_eq hown.1,
          Checked.mapM_eq_map fun n _ => lDataToCEMI_readdressed henc n.src, Checked.ok_bind,
          Checked.ok_bind]
        have hcount : (s.natstate.filter fun n => n.dest = l.source).length =
            (s.natPeers l.source).length := by rw [natPeers, List.length_map]
        simp only [Nat.zero_add, List.length_map, hcount, List.nil_append]
        by_cases hpeers : s.natPeers l.source = []
        · -- nobody to readdress the frame to
          have hnone : s.natstate.filter (fun n => n.dest = l.source) = [] :=
            List.map_eq_nil_iff.mp hpeers
          rw [if_pos (by rw [hpeers]; rfl), if_neg fun h => h.2.2 hpeers, hself, hnone]
          rfl
        · rw [if_neg (mt List.length_eq_zero_iff.mp hpeers), if_pos ⟨hown.1, hown.2, hpeers⟩,
            natPeers, List.map_map, List.map_map]
          rfl
      · rw [if_neg hown, if_neg fun h => hown ⟨h.1, h.2.1⟩, hself]
        rfl

/-- The server forwards every frame that can be encoded after a hop. -/
theorem forwards_of_encodable {l : LDataPDU} (hdrop : ¬ s.Drops l)
    (henc : l.decHopcount.CEMIEncodable) : s.Forwards l := by
  have h0 : l.hopcount ≠ 0#8 := fun h => hdrop (.inl h)
  have hobject : l.object ≠ s.object := fun h => hdrop (.inr h)
  have hself : lDataToCEMI 0x29#8 l.decHopcount = .ok (l.decHopcount.cemiBytes 0x29#8) :=
    lDataToCEMI_readdressed henc l.dest
  have hstate : s.state.mapM (queueCopy l.decHopcount) = .ok (s.state.map fun c =>
      if c.type = .linkLayer then c.put (l.decHopcount.cemiBytes 0x29#8) else c) := by
    refine Checked.mapM_eq_map fun c _ => ?_
    rw [queueCopy, hself]
    split <;> rfl
  have hrun : s.getLDataInPlace l = .ok ({ s with
      state := s.state.map fun c => if c.type = .linkLayer then
        c.put (l.decHopcount.cemiBytes 0x29#8) else c },
      (s.routedDests l).map fun dest =>
        s.routing (LDataPDU.cemiBytes 0x29#8 { l.decHopcount with dest })) := by
    rw [getLDataInPlace, if_neg h0, if_neg hobject]
    change (s.routeInPlace l.decHopcount >>= _) = _
    rw [s.routeInPlace_of_encodable henc, Checked.ok_bind]
    dsimp only
    rw [hstate]
    rfl
  rw [Forwards, if_neg hdrop]
  refine ⟨_, _, hrun, ?_, ?_, rfl⟩
  · -- one copy in every queue of a tunnel
    refine List.forall₂_map_right_iff.mpr (List.forall₂_same.mpr fun c _ => ?_)
    split
    · exact ⟨_, isCopy h0 henc l.dest, rfl⟩
    · rfl
  · -- one multicast copy for each destination
    refine List.forall₂_map_right_iff.mpr (List.forall₂_same.mpr fun dest _ => ?_)
    exact ⟨_, isCopy h0 henc dest, rfl⟩

/-! ## Frames that cannot -/

/-- With routing on, a frame that cannot be encoded is never passed on. -/
theorem encodable_of_routeInPlace {l : LDataPDU} (hroute : s.route = true)
    (h : (s.routeInPlace l).Returns) : l.CEMIEncodable := by
  obtain ⟨r, h⟩ := h
  rw [routeInPlace, if_pos hroute] at h
  obtain ⟨u, -, h⟩ := Checked.bind_eq_ok.mp h
  split at h
  · next hown =>
    obtain ⟨⟨l', sends, cnt⟩, hloop, h⟩ := Checked.bind_eq_ok.mp h
    rw [s.routeLoop_eq hown.1] at hloop
    obtain ⟨copies, hcopies, hloop⟩ := Checked.bind_eq_ok.mp hloop
    cases hloop
    dsimp only at h
    split at h
    · obtain ⟨data, hdata, -⟩ := Checked.bind_eq_ok.mp h
      exact (lDataToCEMI_eq_ok.mp hdata).1
    · next hcount =>
      -- some peer has got a copy
      have hall := Checked.returns_of_mapM ⟨copies, hcopies⟩
      have hlen := (Checked.mapM_eq_ok hcopies).length_eq
      rcases hentries : s.natstate.filter (fun n => n.dest = l.source) with _ | ⟨n, rest⟩
      · rw [hentries] at hlen
        simp only [List.length_nil] at hlen
        omega
      · rw [hentries] at hall
        exact encodable_of_readdressed (hall n (List.mem_cons_self ..))
  · obtain ⟨data, hdata, -⟩ := Checked.bind_eq_ok.mp h
    exact (lDataToCEMI_eq_ok.mp hdata).1

/-- With nobody to get a copy, no frame is encoded. -/
theorem forwards_of_nobody {l : LDataPDU} (hdrop : ¬ s.Drops l) (hroute : s.route = false)
    (hnone : ∀ c ∈ s.state, c.type ≠ .linkLayer) : s.Forwards l := by
  have h0 : l.hopcount ≠ 0#8 := fun h => hdrop (.inl h)
  have hobject : l.object ≠ s.object := fun h => hdrop (.inr h)
  have hstate : s.state.mapM (queueCopy l.decHopcount) = .ok (s.state.map id) := by
    refine Checked.mapM_eq_map fun c hc => ?_
    rw [queueCopy, if_neg (hnone c hc)]
    rfl
  have hrun : s.getLDataInPlace l = .ok (s, []) := by
    rw [getLDataInPlace, if_neg h0, if_neg hobject]
    change (s.routeInPlace l.decHopcount >>= _) = _
    rw [routeInPlace, if_neg (by simp [hroute]), Checked.pure_eq_ok, Checked.ok_bind]
    dsimp only
    rw [hstate, List.map_id]
    rfl
  rw [Forwards, if_neg hdrop]
  refine ⟨_, _, hrun, ?_, ?_, rfl⟩
  · refine List.forall₂_same.mpr fun c hc => ?_
    rw [if_neg (hnone c hc)]
  · rw [routedDests, if_pos hroute]
    exact .nil

/-- A frame is forwarded as it should be exactly if it is dropped, if it can be encoded, or if
    nobody gets a copy. -/
theorem forwards_iff (l : LDataPDU) :
    s.Forwards l ↔ s.Drops l ∨ l.decHopcount.CEMIEncodable ∨
      (s.route = false ∧ ∀ c ∈ s.state, c.type ≠ .linkLayer) := by
  by_cases hdrop : s.Drops l
  · refine iff_of_true ?_ (.inl hdrop)
    rw [Forwards, if_pos hdrop, getLDataInPlace]
    rcases hdrop with h0 | hobject
    · rw [if_pos h0]
      rfl
    · rw [if_pos hobject]
      split <;> rfl
  · constructor
    · intro h
      rw [Forwards, if_neg hdrop] at h
      obtain ⟨s', sends, hrun, -⟩ := h
      rw [getLDataInPlace, if_neg fun h => hdrop (.inl h), if_neg fun h => hdrop (.inr h)] at hrun
      obtain ⟨⟨l', sends'⟩, hsends, hrun⟩ := Checked.bind_eq_ok.mp hrun
      obtain ⟨state, hstate, -⟩ := Checked.bind_eq_ok.mp hrun
      by_cases hroute : s.route = true
      · exact .inr (.inl (s.encodable_of_routeInPlace hroute ⟨_, hsends⟩))
      by_cases hnone : ∀ c ∈ s.state, c.type ≠ .linkLayer
      · exact .inr (.inr ⟨by simpa using hroute, hnone⟩)
      · -- a tunnel has got the frame as it was before, since nothing is routed
        rw [routeInPlace, if_neg hroute] at hsends
        cases hsends
        push Not at hnone
        obtain ⟨c, hc, htype⟩ := hnone
        have hcopy := Checked.returns_of_mapM ⟨state, hstate⟩ c hc
        rw [queueCopy, if_pos htype, Checked.returns_bind] at hcopy
        obtain ⟨data, hdata, -⟩ := hcopy
        exact .inr (.inl (lDataToCEMI_eq_ok.mp hdata).1)
    · rintro (hd | henc | ⟨hroute, hnone⟩)
      · exact absurd hd hdrop
      · exact s.forwards_of_encodable hdrop henc
      · exact s.forwards_of_nobody hdrop hroute hnone

/-- A frame with 255 payload bytes, as TP1 delivers it, stops the server that should route it. -/
theorem forwards_fails_255 :
    let s : EIBnetServer :=
      { object := 1, tunnel := false, route := true, discover := false, showPrint := false
        port := 3671#16, maddr := {}, sourceAddress := fun _ => none, fresh := fun _ => 0#8 }
    let l : LDataPDU :=
      { addrType := .groupAddress, dest := 0x0802, data := List.replicate 255 0x00#8 }
    (∃ c, LPDU.fromPacket c = .ok (.lData l)) ∧ ¬ s.Drops l ∧ ¬ s.Forwards l := by
  intro s l
  have hdata : l.data.length = 255 := List.length_replicate
  have henc : l.Encodable := ⟨by omega, by omega, by decide⟩
  have hdrop : ¬ s.Drops l := by
    rintro (h | h)
    · exact absurd h (by decide)
    · exact absurd h (by decide)
  have hprio : EIBPriority.low.recoded = .low :=
    (EIBPriority.recoded_eq_self_iff .low).mpr (.inl rfl)
  have hreceived : l.received = l := by
    rw [LDataPDU.received, show l.prio.recoded = .low from hprio]
  refine ⟨⟨_, hreceived ▸ LPDU.fromPacket_body henc⟩, hdrop, fun h => ?_⟩
  rw [Forwards, if_neg hdrop] at h
  obtain ⟨s', sends, hrun, -⟩ := h
  rw [getLDataInPlace, if_neg fun h => hdrop (.inl h), if_neg fun h => hdrop (.inr h)] at hrun
  obtain ⟨r, hr, -⟩ := Checked.bind_eq_ok.mp hrun
  -- the encoding for routing takes fewer than 255 bytes
  have hfits : l.data.length < 0xff := (s.encodable_of_routeInPlace rfl ⟨r, hr⟩).fits
  omega

end EIBnetServer

end BcuSdk.Eibd
