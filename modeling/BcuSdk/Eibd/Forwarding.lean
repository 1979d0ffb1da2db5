/-
  BcuSdk.Eibd.Forwarding

  Frames that eibds pass on to one another.

  An eibd with an EIBnet/IP server (eibd/libserver/eibnetserver.cpp) is a
  router: what Layer 3 gets from the bus goes to the multicast group and into
  the tunnels, and what comes from there goes to the bus.  Several of them, on
  the same line or one over another as with `EIBNetIPRouter` and
  `EIBNetIPTunnel`, may form loops.  `Spawns` lists what each of them makes of
  a frame, in whatever state it is; every way round a loop leads through
  `Get_L_Data`, a routing indication or a tunnelling request of a server, and
  each of these takes a hop from the frame.
-/
import BcuSdk.Eibd.CemiRoundTrip
import BcuSdk.Eibd.Connection
import BcuSdk.Eibd.EibNetServerRun
import BcuSdk.Eibd.EmiRoundTrip
import BcuSdk.Eibd.FrameSafety
import BcuSdk.Eibd.LpduRoundTrip
import BcuSdk.Lib.Cascade

namespace BcuSdk.Eibd

open BcuSdk.Lib

/-! ## What becomes of a frame -/

/-- The form in which a driver sends frames. -/
def Layer2.medium : Layer2 → FrameSource
  | .tpuart => .bus
  | .tunnel _ => .cemi
  | .router _ => .cemi
  | .emi _ => .emi

/-- `if (l->source == 0) l->source = layer2->getDefaultAddr ();` -/
def LDataPDU.sourced (defaultAddr : EibAddr) (l : LDataPDU) : LDataPDU :=
  if l.source = 0 then { l with source := defaultAddr } else l

/-- `dest = 0`, as the EMI drivers and `EIBNetIPTunnel` set it in frames to their own address. -/
def LPDU.toOwn : LPDU → LPDU
  | .lData l => .lData { l with dest := 0 }
  | f => f

/-- The frame of a `Passed` that goes to another eibd. -/
def Passed.cemi? : Passed → Option CArray
  | .routed cemi => some cemi
  | .queued cemi => some cemi
  | _ => none

/-- A frame on its way. -/
inductive InFlight where
  /-- Given to `Layer3::send_L_Data`. -/
  | handed (l : LDataPDU)
  /-- On a bus line or in an IP packet. -/
  | wire (src : FrameSource) (c : CArray)
  /-- In the queue from which `Layer3::Run` takes it. -/
  | arrived (f : LPDU)

/-- The hops a frame has left. -/
def LPDU.hops : LPDU → Nat
  | .lData l => l.hopcount.toNat
  | _ => 0

/-- The hops of the frame that a receiver makes of the bytes. -/
def FrameSource.hops (src : FrameSource) (c : CArray) : Nat :=
  match src.decode c with
  | .ok (some f) => f.hops
  | _ => 0

/-- What some eibd, or an interface to the bus, makes of a frame. -/
inductive Spawns : InFlight → InFlight → Prop
  /-- The driver sends it. -/
  | sent {l2 : Layer2} {showPrint : Bool} {defaultAddr : EibAddr} {l : LDataPDU} {sent : Sent}
      {c : CArray} (h : l2.sendLData showPrint (l.sourced defaultAddr) = .ok sent)
      (hc : c ∈ sent.frames) : Spawns (.handed l) (.wire l2.medium c)
  /-- The driver gives it back to its own Layer 3. -/
  | returned {l2 : Layer2} {showPrint : Bool} {defaultAddr : EibAddr} {l : LDataPDU} {sent : Sent}
      {f : LPDU} (h : l2.sendLData showPrint (l.sourced defaultAddr) = .ok sent)
      (hf : f ∈ sent.outqueue) : Spawns (.handed l) (.arrived f)
  /-- A bus interface, which adds no hops, sends on the line what it got as EMI. -/
  | transmitted {c c' : CArray} (h : FrameSource.bus.hops c' ≤ FrameSource.emi.hops c) :
      Spawns (.wire .emi c) (.wire .bus c')
  /-- A bus interface reports as EMI what it heard on the line. -/
  | indicated {c c' : CArray} {f f' : LPDU} (h : FrameSource.emi.hops c' ≤ FrameSource.bus.hops c)
      (hdecode : FrameSource.emi.decode c' = .ok (some f)) (hf : f' = f ∨ f' = f.toOwn) :
      Spawns (.wire .bus c) (.arrived f')
  /-- A driver receives it. -/
  | received {src : FrameSource} {c : CArray} {f f' : LPDU} (h : src.decode c = .ok (some f))
      (hf : f' = f ∨ f' = f.toOwn) : Spawns (.wire src c) (.arrived f')
  /-- A server gets it in a routing indication. -/
  | routed {s s' : EIBnetServer} {c : CArray} {now : Nat} {as : List ServerAction} {l : LDataPDU}
      (h : s.onRoutingIndication c now = .ok (s', as)) (hl : .sendLData l ∈ as) :
      Spawns (.wire .cemi c) (.handed l)
  /-- A server gets it in a tunnelling request, and sends it. -/
  | tunnelled {object : Nat} {conn conn' : ServerConn} {r : EIBnetTunnelRequest}
      {as : List ServerAction} {l : LDataPDU}
      (h : conn.onTunnelRequest object r = .ok (conn', as)) (hl : .sendLData l ∈ as) :
      Spawns (.wire .cemi r.cemi) (.handed l)
  /-- A server gets it in a tunnelling request, and puts a confirmation into the tunnel. -/
  | confirmed {conn : ServerConn} {c cemi : CArray} {ind : ConnState.Indication}
      (h : conn.tunnelConn.indication c = .ok ind) (hind : ind.confirm = some cemi) :
      Spawns (.wire .cemi c) (.wire .cemi cemi)
  /-- Layer 3 delivers it, and a server that listens forwards it. -/
  | forwarded {s s' : Layer3} {f : LPDU} {passed : List Passed} {p : Passed} {cemi : CArray}
      (h : s.onLPDU f = .ok (s', passed)) (hp : p ∈ passed) (hcemi : p.cemi? = some cemi) :
      Spawns (.arrived f) (.wire .cemi cemi)

/-- Every turn lowers this: first the stations between two servers, then the hops. -/
def InFlight.rank : InFlight → Nat
  | .handed l => 4 * l.hopcount.toNat + 3
  | .wire .emi c => 4 * FrameSource.emi.hops c + 2
  | .wire src c => 4 * src.hops c + 1
  | .arrived f => 4 * f.hops

/-! ## Encoders and decoders keep the hops -/

theorem toNat_hop_field (h : Byte) : (h &&& 0x07#8).toNat ≤ h.toNat := by
  rw [BitVec.toNat_and]
  exact Nat.and_le_left

theorem toNat_pred {h : Byte} (h0 : h ≠ 0#8) : (h - 1#8).toNat + 1 = h.toNat := by
  have hpos : h.toNat ≠ 0 := fun hz => h0 (BitVec.eq_of_toNat_eq hz)
  have hlt := h.isLt
  simp only [BitVec.toNat_sub, BitVec.toNat_ofNat]
  omega

/-- The bytes of a cEMI frame hold no more hops than the frame. -/
theorem hops_cemi {code : Byte} {l : LDataPDU} {c : CArray} (h : lDataToCEMI code l = .ok c) :
    FrameSource.cemi.hops c ≤ l.hopcount.toNat := by
  obtain ⟨-, rfl⟩ := lDataToCEMI_eq_ok.mp h
  have hstart : cemiStart (l.cemiBytes code) = 2 := rfl
  have hcontrol : cemiControl2 (l.cemiBytes code) = hopByte l.hopcount 0#8 l.addrType := by
    have hor : l.addrType.flag ||| ((l.hopcount &&& 0x07#8) <<< 4) ||| 0x0#8 =
        hopByte l.hopcount 0#8 l.addrType := by
      simp [hopByte, BitVec.or_comm]
    rw [cemiControl2, hstart, ← hor]
    rfl
  rw [FrameSource.hops, FrameSource.decode, cemiToLData_eq, Checked.ok_bind]
  split
  · next f hf =>
    split at hf
    · cases hf
      dsimp only [LPDU.hops, cemiDecoded]
      rw [hcontrol, hopByte_shift]
      exact toNat_hop_field _
    · cases hf
  · exact Nat.zero_le _

theorem hops_bus {l : LDataPDU} {c : CArray} (h : l.toPacket = .ok c) :
    FrameSource.bus.hops c = l.hopcount.toNat := by
  obtain ⟨henc, rfl⟩ := LDataPDU.toPacket_eq_ok.mp h
  rw [FrameSource.hops, FrameSource.decode, LPDU.fromPacket_body henc]
  rfl

theorem hops_emi (code : Byte) {l : LDataPDU} (h : l.data.length ≥ 1) :
    FrameSource.emi.hops (lDataToEMI code l) ≤ l.hopcount.toNat := by
  rw [FrameSource.hops, FrameSource.decode, emiToLData_lDataToEMI code h]
  exact toNat_hop_field _

@[simp] theorem hops_toOwn (f : LPDU) : f.toOwn.hops = f.hops := by
  cases f <;> rfl

@[simp] theorem hopcount_sourced (addr : EibAddr) (l : LDataPDU) :
    (l.sourced addr).hopcount = l.hopcount := by
  rw [LDataPDU.sourced]
  split <;> rfl

theorem echo_hops {vmode : Bool} {l : LDataPDU} {fs : List LPDU} (h : echo vmode l = .ok fs) :
    ∀ f ∈ fs, f.hops ≤ l.hopcount.toNat := by
  rw [echo] at h
  split at h
  · obtain ⟨pdu, -, h⟩ := Checked.bind_eq_ok.mp h
    cases h
    simp [LPDU.hops]
  · cases h
    simp [LPDU.hops]

/-- No driver adds hops, neither to what it sends nor to what it gives back. -/
theorem Layer2.sendLData_hops {l2 : Layer2} {showPrint : Bool} {l : LDataPDU} {sent : Sent}
    (h : l2.sendLData showPrint l = .ok sent) :
    (∀ c ∈ sent.frames, l2.medium.hops c ≤ l.hopcount.toNat) ∧
      ∀ f ∈ sent.outqueue, f.hops ≤ l.hopcount.toNat := by
  unfold Layer2.sendLData at h
  obtain ⟨_, -, h⟩ := Checked.bind_eq_ok.mp h
  cases l2 with
  | tpuart =>
      obtain ⟨c, hc, h⟩ := Checked.bind_eq_ok.mp h
      cases h
      simpa [Layer2.medium] using (hops_bus hc).le
  | tunnel vmode =>
      obtain ⟨c, hc, h⟩ := Checked.bind_eq_ok.mp h
      obtain ⟨fs, hfs, h⟩ := Checked.bind_eq_ok.mp h
      cases h
      exact ⟨by simpa [Layer2.medium] using hops_cemi hc, echo_hops hfs⟩
  | router vmode =>
      obtain ⟨c, hc, h⟩ := Checked.bind_eq_ok.mp h
      obtain ⟨fs, hfs, h⟩ := Checked.bind_eq_ok.mp h
      cases h
      exact ⟨by simpa [Layer2.medium] using hops_cemi hc, echo_hops hfs⟩
  | emi vmode =>
      obtain ⟨_, hdata, h⟩ := Checked.bind_eq_ok.mp h
      split at h
      · -- a long frame is dropped
        cases h
        simp
      · obtain ⟨_, -, h⟩ := Checked.bind_eq_ok.mp h
        obtain ⟨_, -, h⟩ := Checked.bind_eq_ok.mp h
        obtain ⟨_, -, h⟩ := Checked.bind_eq_ok.mp h
        obtain ⟨fs, hfs, h⟩ := Checked.bind_eq_ok.mp h
        cases h
        have hemi := hops_emi 0x11#8 (check_eq_ok.mp hdata)
        exact ⟨by simpa [Layer2.medium] using hemi, echo_hops hfs⟩

/-! ## A server takes a hop -/

theorem routeFrame_hops {s : ServerListener} {l : LDataPDU} {passed : List Passed}
    (h : s.routeFrame l = .ok passed) :
    ∀ p ∈ passed, ∀ cemi, p.cemi? = some cemi → FrameSource.cemi.hops cemi ≤ l.hopcount.toNat := by
  rw [ServerListener.routeFrame] at h
  split at h
  · obtain ⟨_, -, h⟩ := Checked.bind_eq_ok.mp h
    dsimp only at h
    split at h
    · -- a copy for every peer of the NAT table
      intro p hp cemi hcemi
      obtain ⟨n, -, hn⟩ := Checked.mem_of_mapM h hp
      obtain ⟨c, hc, hn⟩ := Checked.bind_eq_ok.mp hn
      cases hn
      cases hcemi
      exact hops_cemi (l := { l with dest := n.src }) hc
    · obtain ⟨c, hc, h⟩ := Checked.bind_eq_ok.mp h
      cases h
      intro p hp cemi hcemi
      cases List.mem_singleton.mp hp
      cases hcemi
      exact hops_cemi hc
  · cases h
    simp

/-- What a server forwards has one hop less. -/
theorem ServerListener.getLData_hops {s : ServerListener} {l : LDataPDU} {passed : List Passed}
    (h : s.getLData l = .ok passed) :
    ∀ p ∈ passed, ∀ cemi, p.cemi? = some cemi → FrameSource.cemi.hops cemi < l.hopcount.toNat := by
  rw [ServerListener.getLData] at h
  split at h
  · cases h
    simp
  next h0 =>
  split at h
  · cases h
    simp
  obtain ⟨routed, hrouted, h⟩ := Checked.bind_eq_ok.mp h
  obtain ⟨queued, hqueued, h⟩ := Checked.bind_eq_ok.mp h
  cases h
  have hpred : l.decHopcount.hopcount.toNat + 1 = l.hopcount.toNat := toNat_pred h0
  intro p hp cemi hcemi
  rcases List.mem_append.mp hp with hp | hp
  · have hle := routeFrame_hops hrouted p hp cemi hcemi
    omega
  · obtain ⟨n, -, hn⟩ := Checked.mem_of_mapM hqueued hp
    obtain ⟨c, hc, hn⟩ := Checked.bind_eq_ok.mp hn
    cases hn
    cases hcemi
    have hle := hops_cemi hc
    omega

/-- The group cache keeps what it gets for itself. -/
theorem groupCacheGet_cached {enable : Bool} {l : LDataPDU} {passed : List Passed}
    (h : groupCacheGet enable l = .ok passed) :
    ∀ p ∈ passed, ∃ data src dst, p = .cached data src dst := by
  rw [groupCacheGet] at h
  split at h
  · split at h
    · next data _ =>
      split at h
      · obtain ⟨d0, -, h⟩ := Checked.bind_eq_ok.mp h
        obtain ⟨d1, -, h⟩ := Checked.bind_eq_ok.mp h
        split at h
        · cases h
          simp
        · cases h
          simp
      · cases h
        simp
    · cases h
      simp
  · cases h
    simp

/-- Only servers forward. -/
theorem Listener.getLData_hops {cb : Listener} {l : LDataPDU} {passed : List Passed}
    (h : cb.getLData l = .ok passed) :
    ∀ p ∈ passed, ∀ cemi, p.cemi? = some cemi → FrameSource.cemi.hops cemi < l.hopcount.toNat := by
  cases cb with
  | server s => exact ServerListener.getLData_hops h
  | dataXXX =>
      simp only [Listener.getLData] at h
      split at h <;> cases h <;> simp [Passed.cemi?]
  | tTPDU =>
      cases h
      simp [Passed.cemi?]
  | tConnection =>
      cases h
      simp [Passed.cemi?]
  | groupCache enable =>
      intro p hp cemi hcemi
      obtain ⟨data, src, dst, rfl⟩ := groupCacheGet_cached h p hp
      cases hcemi

/-- Whatever Layer 3 and its listeners are, what they forward has one hop less. -/
theorem Layer3.onLPDU_hops {s s' : Layer3} {f : LPDU} {passed : List Passed}
    (h : s.onLPDU f = .ok (s', passed)) :
    ∀ p ∈ passed, ∀ cemi, p.cemi? = some cemi → FrameSource.cemi.hops cemi < f.hops := by
  have hnone {p : Passed} (hp : p ∈ ([] : List Passed)) {P : Prop} : P :=
    absurd hp List.not_mem_nil
  have hdeliver {l : LDataPDU} {r : Layer3 × List Passed} (h : s.deliver l = .ok r) :
      ∀ p ∈ r.2, ∀ cemi, p.cemi? = some cemi →
        FrameSource.cemi.hops cemi < l.hopcount.toNat := by
    rw [Layer3.deliver] at h
    obtain ⟨seen, -, h⟩ := Checked.bind_eq_ok.mp h
    obtain ⟨_, -, h⟩ := Checked.bind_eq_ok.mp h
    obtain ⟨lists, hlists, h⟩ := Checked.bind_eq_ok.mp h
    cases h
    intro p hp cemi hcemi
    obtain ⟨list, hlist, hp⟩ := List.mem_flatten.mp hp
    obtain ⟨cb, -, hcb⟩ := Checked.mem_of_mapM hlists hlist
    have hlt := Listener.getLData_hops hcb p hp cemi hcemi
    -- neither the repeat flag nor the destination has to do with the hops
    split at hlt <;> exact hlt
  cases f with
  | lData l =>
      simp only [Layer3.onLPDU, Layer3.onLData] at h
      split at h
      · split at h
        · obtain ⟨d1, -, h⟩ := Checked.bind_eq_ok.mp h
          split at h
          · cases h
            exact fun p hp => hnone hp
          · obtain ⟨r, hr, h⟩ := Checked.bind_eq_ok.mp h
            cases h
            exact hdeliver hr
        · obtain ⟨r, hr, h⟩ := Checked.bind_eq_ok.mp h
          cases h
          exact hdeliver hr
      · cases h
        exact fun p hp => hnone hp
  | busmonitor l =>
      obtain ⟨_, -, h⟩ := Checked.bind_eq_ok.mp h
      cases h
      exact fun p hp => hnone hp
  | _ =>
      cases h
      exact fun p hp => hnone hp

/-- A routing indication that goes on has one hop less. -/
theorem onRoutingIndication_hops {s s' : EIBnetServer} {c : CArray} {now : Nat}
    {as : List ServerAction} (h : s.onRoutingIndication c now = .ok (s', as)) :
    ∀ l, .sendLData l ∈ as → l.hopcount.toNat < FrameSource.cemi.hops c := by
  rw [EIBnetServer.onRoutingIndication] at h
  split at h
  · cases h
    simp
  obtain ⟨code, -, h⟩ := Checked.bind_eq_ok.mp h
  split at h
  · cases h
    simp
  obtain ⟨l0, hl0, h⟩ := Checked.bind_eq_ok.mp h
  cases l0 with
  | none =>
      cases h
      simp
  | some l0 =>
      obtain ⟨_, -, h⟩ := Checked.bind_eq_ok.mp h
      split at h
      · cases h
        simp
      next h0 =>
      cases h
      intro l hl
      cases List.mem_singleton.mp hl
      have hpred : l0.decHopcount.hopcount.toNat + 1 = l0.hopcount.toNat := toNat_pred h0
      rw [FrameSource.hops, FrameSource.decode, hl0]
      dsimp only [Checked.ok_bind, Checked.pure_eq_ok, Option.map_some, LPDU.hops]
      omega

/-- So has what becomes of a tunnelling request. -/
theorem indication_hops {conn : ConnState} {c : CArray} {ind : ConnState.Indication}
    (h : conn.indication c = .ok ind) :
    (∀ l, ind.passed = some l → l.hopcount.toNat < FrameSource.cemi.hops c) ∧
      ∀ cemi, ind.confirm = some cemi →
        FrameSource.cemi.hops cemi < FrameSource.cemi.hops c := by
  rw [ConnState.indication] at h
  split at h
  · cases h
    simp
  obtain ⟨l0, hl0, h⟩ := Checked.bind_eq_ok.mp h
  cases l0 with
  | none =>
      cases h
      simp
  | some l0 =>
      dsimp only at h
      split at h
      · cases h
        simp
      next h0 =>
      have hpred : l0.decHopcount.hopcount.toNat + 1 = l0.hopcount.toNat := toNat_pred h0
      have hlt : l0.decHopcount.hopcount.toNat < FrameSource.cemi.hops c := by
        rw [FrameSource.hops, FrameSource.decode, hl0]
        dsimp only [Checked.ok_bind, Checked.pure_eq_ok, Option.map_some, LPDU.hops]
        omega
      obtain ⟨code, -, h⟩ := Checked.bind_eq_ok.mp h
      split at h
      · obtain ⟨cemi, hcemi, h⟩ := Checked.bind_eq_ok.mp h
        cases h
        have hle := hops_cemi hcemi
        exact ⟨fun l hl => by cases hl; exact hlt, fun d hd => by cases hd; omega⟩
      · split at h
        · cases h
          exact ⟨fun l hl => by cases hl; exact hlt, fun d hd => by cases hd⟩
        · cases h
          simp

theorem onTunnelRequest_hops {object : Nat} {conn conn' : ServerConn} {r : EIBnetTunnelRequest}
    {as : List ServerAction} (h : conn.onTunnelRequest object r = .ok (conn', as)) :
    ∀ l, .sendLData l ∈ as → l.hopcount.toNat < FrameSource.cemi.hops r.cemi := by
  rw [ServerConn.onTunnelRequest] at h
  dsimp only at h
  split at h
  · cases h
    simp
  split at h
  · cases h
    simp
  obtain ⟨ind, hind, h⟩ := Checked.bind_eq_ok.mp h
  cases h
  intro l hl
  rcases List.mem_append.mp hl with hl | hl
  · obtain ⟨l0, hl0, heq⟩ := List.mem_map.mp hl
    cases heq
    exact (indication_hops hind).1 l0 (Option.mem_toList.mp hl0)
  · cases List.mem_singleton.mp hl

/-! ## Forwarding ends -/

/-- Whatever an eibd makes of a frame ranks lower. -/
theorem Spawns.rank_lt {t u : InFlight} (h : Spawns t u) : u.rank < t.rank := by
  have hsrc : ∀ (src : FrameSource) (c : CArray), 4 * src.hops c + 1 ≤ (InFlight.wire src c).rank ∧
      (InFlight.wire src c).rank ≤ 4 * src.hops c + 2 := by
    intro src c
    cases src <;> simp [InFlight.rank]
  cases h with
  | @sent l2 showPrint addr l sent c h hc =>
      have hle := (Layer2.sendLData_hops h).1 c hc
      have hrank := (hsrc l2.medium c).2
      rw [hopcount_sourced] at hle
      dsimp only [InFlight.rank] at hrank ⊢
      omega
  | @returned l2 showPrint addr l sent f h hf =>
      have hle := (Layer2.sendLData_hops h).2 f hf
      rw [hopcount_sourced] at hle
      dsimp only [InFlight.rank]
      omega
  | transmitted h =>
      dsimp only [InFlight.rank]
      omega
  | @indicated c c' f f' h hdecode hf =>
      have heq : FrameSource.emi.hops c' = f.hops := by rw [FrameSource.hops, hdecode]
      have hf' : f'.hops = f.hops := by rcases hf with rfl | rfl <;> simp
      dsimp only [InFlight.rank]
      omega
  | @received src c f f' h hf =>
      have heq : src.hops c = f.hops := by rw [FrameSource.hops, h]
      have hf' : f'.hops = f.hops := by rcases hf with rfl | rfl <;> simp
      have hrank := (hsrc src c).1
      show 4 * f'.hops < _
      omega
  | routed h hl =>
      have hlt := onRoutingIndication_hops h _ hl
      dsimp only [InFlight.rank]
      omega
  | tunnelled h hl =>
      have hlt := onTunnelRequest_hops h _ hl
      dsimp only [InFlight.rank]
      omega
  | confirmed h hind =>
      have hlt := (indication_hops h).2 _ hind
      dsimp only [InFlight.rank]
      omega
  | forwarded h hp hcemi =>
      have hlt := Layer3.onLPDU_hops h _ hp _ hcemi
      dsimp only [InFlight.rank]
      omega

/-- However eibds are wired up, and whatever happens to their tables and connections meanwhile, they
    do not pass frames on to one another for ever; and if nobody makes more than `B` copies of a
    frame at a time, the number of times anybody handles one is bounded from the start. -/
theorem forwarding_ends :
    (¬ ∃ ts : Nat → Multiset InFlight, ∀ n, Cascade Spawns (ts n) (ts (n + 1))) ∧
      ∀ (B n : Nat) (ts : Nat → Multiset InFlight),
        (∀ i < n, CascadeWithin Spawns B (ts i) (ts (i + 1))) →
          n ≤ potential InFlight.rank B (ts 0) := by
  have hrank : ∀ t u, Spawns t u → u.rank < t.rank := fun t u h => h.rank_lt
  refine ⟨cascade_ends hrank, fun B n ts hstep => ?_⟩
  have hle := steps_le hrank hstep
  omega

/-- A group telegram with 6 hops, as `EIBNetIPRouter` finds it in a routing indication. -/
def telegram : CArray :=
  [0x29#8, 0x00#8, 0xBC#8, 0xE0#8, 0x11#8, 0x01#8, 0x08#8, 0x01#8, 0x01#8, 0x00#8, 0x81#8]

/-- The router takes it from the socket to its Layer 3: that is one of at most 26 steps. -/
theorem forwarding_ends_router :
    CascadeWithin Spawns 1 {.wire .cemi telegram} {.arrived (.lData (cemiDecoded telegram))} ∧
      potential InFlight.rank 1 {.wire .cemi telegram} = 26 ∧
      1 ≤ potential InFlight.rank 1 {.wire .cemi telegram} := by
  have hdecode : FrameSource.cemi.decode telegram = .ok (some (.lData (cemiDecoded telegram))) := by
    rw [FrameSource.decode, cemiToLData_complete (by decide)]
    rfl
  have hstep : CascadeWithin Spawns 1 {.wire .cemi telegram}
      {.arrived (.lData (cemiDecoded telegram))} := by
    refine ⟨_, 0, {.arrived (.lData (cemiDecoded telegram))}, rfl, fun u hu => ?_, le_rfl, rfl⟩
    cases Multiset.mem_singleton.mp hu
    exact .received hdecode (.inl rfl)
  have hhops : FrameSource.cemi.hops telegram = 6 := by
    rw [FrameSource.hops, hdecode]
    rfl
  refine ⟨hstep, ?_, ?_⟩
  · rw [potential, Multiset.map_singleton, Multiset.sum_singleton]
    dsimp only [InFlight.rank]
    rw [hhops]
    rfl
  · refine forwarding_ends.2 1 1 (fun i => if i = 0 then {.wire .cemi telegram} else
      {.arrived (.lData (cemiDecoded telegram))}) fun i hi => ?_
    obtain rfl : i = 0 := by omega
    exact hstep

end BcuSdk.Eibd
