/-
  BcuSdk.Eibd.ClientSafety

  What a client of a transport connection can make the daemon do.

  No read loop looks at the length of a payload.  `Daemon.sendLData_returns`
  says that a frame which fits cEMI is sent without a fault whatever the
  configuration; `Client.safe_iff_messageFits` says that a session is safe exactly if every
  payload it passes on has between 1 and 254 bytes.
-/
import BcuSdk.Eibd.Connection
import BcuSdk.Eibd.FrameSafety
import BcuSdk.Eibd.Layer4Pair

namespace BcuSdk.Eibd

open BcuSdk.Lib

/-! ## Frames that can be sent -/

/-- The frame fits every encoder on the way to the medium. -/
structure LDataPDU.Sendable (l : LDataPDU) : Prop where
  cemi : l.CEMIEncodable
  valid : l.validLength = true

theorem LDataPDU.Sendable.onLPDU_returns {l : LDataPDU} (h : l.Sendable) (s : Layer3) :
    (s.onLPDU (.lData l)).Returns :=
  (Layer3.onLPDU_returns_iff h.valid).mpr ⟨h.cemi.encodable, fun _ => h.cemi.fits⟩ s

/-- The TP1 form of a frame passes through the busmonitor. -/
theorem LDataPDU.onBusmonitor_returns {l : LDataPDU} {c : CArray}
    (hc : l.toPacket = .ok c) (s : Layer3) : (s.onLPDU (.busmonitor { pdu := c })).Returns := by
  obtain ⟨henc, rfl⟩ := toPacket_eq_ok.mp hc
  have hreceived : l.received.Encodable := ⟨henc.nonempty, henc.fits, henc.hops⟩
  have hdecode :
      ∃ u, LBusmonitorPDU.decode { pdu := l.body ++ [~~~(xorBytes l.body)] } = .ok u := by
    unfold LBusmonitorPDU.decode
    split
    · exact ⟨_, rfl⟩
    · rw [LPDU.fromPacket_body henc, Checked.ok_bind]
      exact l.received.decode_returns hreceived
  obtain ⟨u, hu⟩ := hdecode
  simp only [Layer3.onLPDU, tracePrintf, hu]
  split <;> exact ⟨_, rfl⟩

theorem echo_returns {l : LDataPDU} (h : l.Sendable) (vmode : Bool) :
    ∃ ls, echo vmode l = .ok ls ∧ ∀ p ∈ ls, ∀ s : Layer3, (s.onLPDU p).Returns := by
  obtain ⟨c, hc⟩ := LDataPDU.toPacket_returns_iff.mpr h.cemi.encodable
  cases vmode with
  | true =>
      refine ⟨[.busmonitor { pdu := c }, .lData l], by simp [echo, hc], fun p hp => ?_⟩
      simp only [List.mem_cons, List.not_mem_nil, or_false] at hp
      rcases hp with rfl | rfl
      · exact LDataPDU.onBusmonitor_returns hc
      · exact h.onLPDU_returns
  | false =>
      refine ⟨[.lData l], rfl, fun p hp => ?_⟩
      cases List.mem_singleton.mp hp
      exact h.onLPDU_returns

/-- Every driver sends the frame, and what it puts back is safe for Layer 3. -/
theorem Layer2.sendLData_returns {l : LDataPDU} (h : l.Sendable) (l2 : Layer2) (showPrint : Bool) :
    ∃ sent, l2.sendLData showPrint l = .ok sent ∧
      ∀ p ∈ sent.outqueue, ∀ s : Layer3, (s.onLPDU p).Returns := by
  obtain ⟨c, hc⟩ := LDataPDU.toPacket_returns_iff.mpr h.cemi.encodable
  have hcemi : ∀ code, ∃ c, lDataToCEMI code l = .ok c :=
    fun _ => lDataToCEMI_returns_iff.mpr h.cemi
  unfold sendLData
  rw [tracePrintf_decode h.cemi.encodable, Checked.ok_bind]
  -- beside the frame the driver may put an echo into its queue
  cases l2 with
  | tpuart => exact ⟨{ frames := [c] }, by simp [hc], List.forall_mem_nil _⟩
  | tunnel vmode =>
      obtain ⟨cemi, hcemi⟩ := hcemi 0x11#8
      obtain ⟨ls, hls, hsafe⟩ := echo_returns h vmode
      exact ⟨{ frames := [cemi], outqueue := ls }, by simp [hcemi, hls], hsafe⟩
  | router vmode =>
      obtain ⟨cemi, hcemi⟩ := hcemi 0x29#8
      obtain ⟨ls, hls, hsafe⟩ := echo_returns h vmode
      exact ⟨{ frames := [cemi], outqueue := ls }, by simp [hcemi, hls], hsafe⟩
  | emi vmode =>
      obtain ⟨ls, hls, hsafe⟩ := echo_returns h vmode
      simp only [check_of (show l.data.length ≥ 1 from h.cemi.nonempty), Checked.ok_bind]
      split
      · exact ⟨{}, rfl, List.forall_mem_nil _⟩
      · next hshort =>
        rw [check_of (by omega), Checked.ok_bind, check_of h.cemi.hops, Checked.ok_bind]
        exact ⟨{ frames := [lDataToEMI 0x11#8 l], outqueue := ls }, by simp [hls], hsafe⟩

theorem Daemon.receive_returns {ls : List LPDU}
    (h : ∀ p ∈ ls, ∀ s : Layer3, (s.onLPDU p).Returns) (d : Daemon) : (d.receive ls).Returns := by
  induction ls generalizing d with
  | nil => exact ⟨d, rfl⟩
  | cons p ls ih =>
      obtain ⟨⟨layer3, passed⟩, hp⟩ := h p (List.mem_cons_self ..) d.layer3
      obtain ⟨d', hd'⟩ := ih (fun q hq => h q (List.mem_cons_of_mem _ hq)) { d with layer3 }
      exact ⟨d', by simp [receive, hp, hd']⟩

/-- A frame that fits cEMI is sent without a fault, whatever the configuration. -/
theorem Daemon.sendLData_returns {l : LDataPDU} (h : l.Sendable) (d : Daemon) :
    (d.sendLData l).Returns := by
  unfold sendLData
  rw [tracePrintf_decode h.cemi.encodable, Checked.ok_bind]
  dsimp only
  -- only the source is filled in, and no encoder looks at it
  generalize hl : (if l.source = 0 then { l with source := d.layer3.defaultAddr } else l) = l'
  have hl' : l'.Sendable := by
    rw [← hl]
    split
    · exact ⟨⟨h.cemi.nonempty, h.cemi.fits, h.cemi.hops⟩, h.valid⟩
    · exact h
  obtain ⟨sent, hsent, hsafe⟩ := d.layer2.sendLData_returns hl' d.showPrint
  rw [hsent, Checked.ok_bind]
  exact d.receive_returns hsafe

/-- On an EIBnet/IP tunnel nothing else can be sent. -/
theorem Daemon.length_of_sendLData {d : Daemon} {vmode : Bool} {l : LDataPDU}
    (htunnel : d.layer2 = .tunnel vmode) (h : (d.sendLData l).Returns) :
    1 ≤ l.data.length ∧ l.data.length ≤ 254 := by
  obtain ⟨u, -, h⟩ := Checked.returns_bind.mp h
  obtain ⟨sent, hsent, -⟩ := Checked.returns_bind.mp h
  -- the driver has encoded the frame as cEMI, whose payload is shorter than 255
  rw [htunnel] at hsent
  obtain ⟨v, -, hsent⟩ := Checked.bind_eq_ok.mp hsent
  obtain ⟨cemi, hcemi, -⟩ := Checked.bind_eq_ok.mp hsent
  have henc := (lDataToCEMI_eq_ok.mp hcemi).1
  have h1 := henc.nonempty
  have h255 := henc.fits
  split at h1 <;> split at h255 <;> exact ⟨h1, Nat.le_of_lt_succ h255⟩

theorem Daemon.layer2_of_receive {d d' : Daemon} {ls : List LPDU} (h : d.receive ls = .ok d') :
    d'.layer2 = d.layer2 := by
  induction ls generalizing d with
  | nil =>
      cases h
      rfl
  | cons p ls ih =>
      obtain ⟨⟨layer3, passed⟩, -, h⟩ := Checked.bind_eq_ok.mp h
      exact ih (d := { d with layer3 }) h

theorem Daemon.layer2_of_sendLData {d d' : Daemon} {l : LDataPDU} (h : d.sendLData l = .ok d') :
    d'.layer2 = d.layer2 := by
  obtain ⟨u, -, h⟩ := Checked.bind_eq_ok.mp h
  obtain ⟨sent, -, h⟩ := Checked.bind_eq_ok.mp h
  exact layer2_of_receive h

/-- A daemon on an EIBnet/IP tunnel. -/
def tunnelDaemon : Daemon where
  layer2 := .tunnel false
  layer3 :=
    { broadcast := [], group := [], individual := [], ignore := [], defaultAddr := 0, now := 0
      showPrint := false }
  showPrint := false

/-! ## Payloads that can be sent -/

/-- A payload every encoder on the way to the medium takes. -/
def PayloadFits (c : CArray) : Prop := 1 ≤ c.length ∧ c.length ≤ 254

theorem PayloadFits.ne_nil {c : CArray} (h : PayloadFits c) : c ≠ [] :=
  List.ne_nil_of_length_pos h.1

/-- A message with a payload that fits, or without one. -/
def MessageFits (header : Nat) (m : Message) : Prop :=
  header ≤ m.bytes.length → PayloadFits (m.bytes.drop header)

theorem payloads_fit_iff {header : Nat} {type : Word16} {ms : List Message} :
    (∀ c ∈ payloads (doMessage header type) ms, PayloadFits c) ↔
      ∀ m ∈ ms.takeWhile (doMessage header type · ≠ .ends), MessageFits header m := by
  induction ms with
  | nil => simp [payloads]
  | cons m ms ih =>
      unfold payloads
      cases hm : doMessage header type m with
      | ends => simp [hm]
      | skipped =>
          -- the loop goes on only after a message too short for the header
          have hshort : ¬ header ≤ m.bytes.length := by
            unfold doMessage at hm
            split at hm
            · cases hm
            · split at hm
              · split at hm <;> cases hm
              · assumption
          simp [hm, ih, MessageFits, hshort]
      | send addr c =>
          obtain ⟨hlong, rfl⟩ : header ≤ m.bytes.length ∧ m.bytes.drop header = c := by
            unfold doMessage at hm
            split at hm
            · cases hm
            · split at hm
              · next hlong =>
                split at hm
                · cases hm
                · cases hm
                  exact ⟨hlong, rfl⟩
              · cases hm
          simp [hm, ih, MessageFits, hlong]

/-- The constructor's hop count passes every check. -/
theorem sendable_of_fits {l : LDataPDU} (hdata : 1 ≤ l.data.length ∧ l.data.length ≤ 254)
    (hhops : l.hopcount = 0x07#8) (hvalid : l.validLength = true) : l.Sendable :=
  ⟨⟨hdata.1, by have := hdata.2; omega, by rw [hhops]; decide⟩, hvalid⟩

/-- The connectionless `Send`s but that of `T_TPDU` need a payload. -/
theorem sendDataXXX_eq {l : LDataPDU} {c : CArray} (hc : c ≠ []) :
    sendDataXXX l c = .ok { l with data := maskHead c } := by
  have hpos : 0 < c.length := List.length_pos_of_ne_nil hc
  simp [sendDataXXX, TPDU.decode, APDU.decode_fromPacket, TPDU.toPacket, hpos, maskHead]

theorem length_of_sendDataXXX {l l' : LDataPDU} {c : CArray} (h : sendDataXXX l c = .ok l') :
    l'.data.length = c.length := by
  obtain ⟨u, -, h⟩ := Checked.bind_eq_ok.mp h
  obtain ⟨data, hdata, h⟩ := Checked.bind_eq_ok.mp h
  cases h
  simp only [TPDU.toPacket, Checked.bind_eq_ok, check_eq_ok, exists_const, Checked.pure_eq_ok,
    Except.ok.injEq] at hdata
  rw [← hdata.2, List.length_modifyHead]

namespace Handler

theorem send_of_fits (h : Handler) (addr : EibAddr) {c : CArray} (hc : PayloadFits c) :
    ∃ l, h.send addr c = .ok l ∧ l.Sendable := by
  have hmask : 1 ≤ (maskHead c).length ∧ (maskHead c).length ≤ 254 := by
    rw [maskHead, List.length_modifyHead]
    exact hc
  cases h with
  | broadcast => exact ⟨_, sendDataXXX_eq hc.ne_nil, sendable_of_fits hmask rfl rfl⟩
  | group groupaddr => exact ⟨_, sendDataXXX_eq hc.ne_nil, sendable_of_fits hmask rfl rfl⟩
  | tpdu src => exact ⟨_, rfl, sendable_of_fits hc rfl rfl⟩
  | individual dest => exact ⟨_, sendDataXXX_eq hc.ne_nil, sendable_of_fits hmask rfl rfl⟩
  | groupSocket => exact ⟨_, sendDataXXX_eq hc.ne_nil, sendable_of_fits hmask rfl rfl⟩

theorem length_of_send (h : Handler) {addr : EibAddr} {c : CArray} {l : LDataPDU}
    (hl : h.send addr c = .ok l) : l.data.length = c.length := by
  cases h with
  | broadcast => exact length_of_sendDataXXX hl
  | group groupaddr => exact length_of_sendDataXXX hl
  | tpdu src =>
      cases hl
      rfl
  | individual dest => exact length_of_sendDataXXX hl
  | groupSocket => exact length_of_sendDataXXX hl

/-- A session whose payloads all fit returns. -/
theorem session_returns (h : Handler) {ms : List Message}
    (hfit : ∀ c ∈ payloads h.doMessage ms, PayloadFits c) (d : Daemon) :
    (h.session d ms).Returns := by
  induction ms generalizing d with
  | nil => exact ⟨d, rfl⟩
  | cons m ms ih =>
      unfold session
      unfold payloads at hfit
      cases hm : h.doMessage m with
      | ends => exact ⟨d, rfl⟩
      | skipped =>
          simp only [hm] at hfit
          exact ih hfit d
      | send addr c =>
          simp only [hm] at hfit
          obtain ⟨l, hl, hsend⟩ := h.send_of_fits addr (hfit c (List.mem_cons_self ..))
          obtain ⟨d', hd'⟩ := d.sendLData_returns hsend
          simp only [hl, hd', Checked.ok_bind]
          exact ih (fun x hx => hfit x (List.mem_cons_of_mem _ hx)) d'

/-- On a tunnel a session that returns had only payloads that fit. -/
theorem fits_of_session (h : Handler) {ms : List Message} {d : Daemon} {vmode : Bool}
    (htunnel : d.layer2 = .tunnel vmode) (hret : (h.session d ms).Returns) :
    ∀ c ∈ payloads h.doMessage ms, PayloadFits c := by
  induction ms generalizing d with
  | nil => simp [payloads]
  | cons m ms ih =>
      unfold session at hret
      unfold payloads
      cases hm : h.doMessage m with
      | ends => simp
      | skipped =>
          simp only [hm] at hret
          exact ih htunnel hret
      | send addr c =>
          simp only [hm] at hret
          obtain ⟨l, hl, hret⟩ := Checked.returns_bind.mp hret
          obtain ⟨d', hd', hret⟩ := Checked.returns_bind.mp hret
          -- the frame went out, so its payload fits, and `Send` has kept the length
          have hfit := Daemon.length_of_sendLData htunnel ⟨d', hd'⟩
          rw [h.length_of_send hl] at hfit
          have htunnel' : d'.layer2 = .tunnel vmode :=
            (Daemon.layer2_of_sendLData hd').trans htunnel
          intro x hx
          rcases List.mem_cons.mp hx with rfl | hx
          · exact hfit
          · exact ih htunnel' hret x hx

end Handler

/-! ## Connections -/

namespace ConnSession

/-- Between two events the queue holds only payloads that fit, and the connection is ready. -/
structure Safe (s : ConnSession) : Prop where
  ready : s.conn.Ready
  queue : ∀ c ∈ s.conn.inq, PayloadFits c

theorem perform_returns {as : List TAction} (h : ∀ l, .sendLData l ∈ as → l.Sendable) (d : Daemon) :
    (perform d as).Returns := by
  induction as generalizing d with
  | nil => exact ⟨d, rfl⟩
  | cons a as ih =>
      have hrest : ∀ l, .sendLData l ∈ as → l.Sendable :=
        fun l hl => h l (List.mem_cons_of_mem _ hl)
      cases a with
      | sendLData l =>
          obtain ⟨d', hd'⟩ := d.sendLData_returns (h l (List.mem_cons_self ..))
          obtain ⟨d'', hd''⟩ := ih hrest d'
          exact ⟨d'', by simp [perform, hd', hd'']⟩
      | out c => exact ih hrest d
      | acked c => exact ih hrest d
      | ended => exact ih hrest d

/-- Every frame a turn sends can be sent, if the payloads in the queue can. -/
theorem sendable_of_outcome {s s' : TConnection} {e : TEvent} {as : List TAction}
    (h : TConnection.Outcome s e s' as) (hq : ∀ c ∈ s.inq, PayloadFits c) :
    ∀ l, .sendLData l ∈ as → l.Sendable := by
  intro l hl
  cases h with
  | nothing => simp at hl
  -- frames of the connection itself carry one byte
  | closes =>
      simp only [TConnection.frame, List.mem_cons, TAction.sendLData.injEq, reduceCtorEq,
        List.not_mem_nil, or_false] at hl
      subst hl
      exact sendable_of_fits ⟨Nat.le_refl 1, Nat.le_add_left 1 253⟩ rfl rfl
  | delivers _ _ =>
      simp only [TConnection.frame, List.mem_cons, TAction.sendLData.injEq, reduceCtorEq,
        List.not_mem_nil, or_false, false_or] at hl
      subst hl
      exact sendable_of_fits ⟨Nat.le_refl 1, Nat.le_add_left 1 253⟩ rfl rfl
  | repeatsAck _ _ _ =>
      simp only [TConnection.frame, List.mem_cons, TAction.sendLData.injEq,
        List.not_mem_nil, or_false] at hl
      subst hl
      exact sendable_of_fits ⟨Nat.le_refl 1, Nat.le_add_left 1 253⟩ rfl rfl
  | dequeues _ _ _ _ => simp at hl
  -- only here is the payload one of the queue
  | sends queue sem =>
      simp only [TConnection.frame, List.mem_cons, TAction.sendLData.injEq,
        List.not_mem_nil, or_false] at hl
      subst hl
      have hfit := hq _ (by rw [queue]; exact List.mem_cons_self ..)
      refine sendable_of_fits ?_ rfl rfl
      simpa only [connectedBytes, List.length_modifyHead, PayloadFits] using hfit

theorem queue_of_outcome {s s' : TConnection} {e : TEvent} {as : List TAction}
    (h : TConnection.Outcome s e s' as) (hq : ∀ c ∈ s.inq, PayloadFits c) :
    ∀ c ∈ s'.inq, PayloadFits c := by
  cases h with
  | nothing => exact hq
  | closes => exact hq
  | delivers _ _ => exact hq
  | repeatsAck _ _ _ => exact hq
  | dequeues _ _ _ queue => exact fun c hc => hq c (by rw [queue]; exact List.mem_cons_of_mem _ hc)
  | sends queue sem => exact hq

theorem Safe.turn {s : ConnSession} (h : s.Safe) (e : TEvent) :
    ∃ s', s.turn e = .ok s' ∧ s'.Safe ∧ s'.reading = s.reading := by
  obtain ⟨conn, as, hiter, hout⟩ := TConnection.iterate_outcome h.ready e
  obtain ⟨d', hd'⟩ := perform_returns (sendable_of_outcome hout h.queue) s.daemon
  exact ⟨{ s with conn, daemon := d' }, by simp [ConnSession.turn, hiter, hd'],
    ⟨hout.ready h.ready, queue_of_outcome hout h.queue⟩, rfl⟩

theorem Safe.finish {s : ConnSession} (h : s.Safe) :
    ∃ s', s.finish = .ok s' ∧ s'.Safe ∧ s'.reading = false := by
  obtain ⟨s', hs', hsafe, -⟩ := h.turn .stop
  exact ⟨{ s' with reading := false }, by simp [ConnSession.finish, hs'],
    ⟨hsafe.ready, hsafe.queue⟩, rfl⟩

theorem Safe.send {s : ConnSession} (h : s.Safe) {c : CArray} (hc : PayloadFits c) :
    Safe { s with conn := s.conn.send c } := by
  have hready := h.ready
  refine ⟨⟨hready.sendno, hready.recvno, ?_, ?_, ?_⟩, ?_⟩
  · intro x hx
    rcases List.mem_append.mp hx with hx | hx
    · exact hready.nonempty x hx
    · rw [List.mem_singleton.mp hx]
      exact hc.ne_nil
  · intro hidle
    simp only [TConnection.send, List.length_append, List.length_singleton, hready.idle hidle]
  · intro hwait
    simp only [TConnection.send, List.length_append, List.length_singleton, hready.waiting hwait]
  · intro x hx
    rcases List.mem_append.mp hx with hx | hx
    · exact h.queue x hx
    · rw [List.mem_singleton.mp hx]
      exact hc

theorem messagesOf_map (ms : List Message) : messagesOf (ms.map .message) = ms := by
  induction ms with
  | nil => rfl
  | cons m ms ih => rw [List.map_cons, messagesOf, ih]

theorem zero_lt_16 : (0#8 : Byte) < 16#8 := by decide

theorem opened_safe (d : Daemon) (dest : EibAddr) : (opened d dest).Safe :=
  ⟨⟨zero_lt_16, zero_lt_16, nofun, fun _ => rfl, nofun⟩, nofun⟩

/-- The payloads a connection still has to pass on, as long as it reads. -/
def RestFits (s : ConnSession) (es : List ConnEvent) : Prop :=
  s.reading = true → ∀ c ∈ payloads AConnection.doMessage (messagesOf es), PayloadFits c

/-- One event, whatever it is, leaves a safe connection safe. -/
theorem Safe.step {s : ConnSession} (h : s.Safe) {e : ConnEvent} {es : List ConnEvent}
    (hfit : s.RestFits (e :: es)) : ∃ s', s.step e = .ok s' ∧ s'.Safe ∧ s'.RestFits es := by
  cases e with
  | hangup =>
      obtain ⟨s', hs', hsafe, hread⟩ := h.finish
      exact ⟨s', hs', hsafe, fun hr => by simp [hread] at hr⟩
  | turn e =>
      obtain ⟨s', hs', hsafe, hread⟩ := h.turn e
      exact ⟨s', hs', hsafe, fun hr => hfit (hread.symm.trans hr)⟩
  | message m =>
      cases hread : s.reading with
      -- after the end of `Do` no message is read any more
      | false => exact ⟨s, by simp [ConnSession.step, hread], h, fun hr => by simp [hread] at hr⟩
      | true =>
          have hrest := hfit hread
          simp only [messagesOf, payloads] at hrest
          cases hm : AConnection.doMessage m with
          | ends =>
              obtain ⟨s', hs', hsafe, hread'⟩ := h.finish
              exact ⟨s', by simp [ConnSession.step, hread, hm, hs'], hsafe,
                fun hr => by simp [hread'] at hr⟩
          | skipped =>
              simp only [hm] at hrest
              exact ⟨s, by simp [ConnSession.step, hread, hm], h, fun _ => hrest⟩
          | send addr c =>
              simp only [hm] at hrest
              exact ⟨_, by simp [ConnSession.step, hread, hm],
                h.send (hrest c (List.mem_cons_self ..)),
                fun _ x hx => hrest x (List.mem_cons_of_mem _ hx)⟩

/-- A run whose payloads all fit returns, whatever happens between the messages. -/
theorem Safe.run_returns {s : ConnSession} (h : s.Safe) {es : List ConnEvent}
    (hfit : s.RestFits es) : (run ConnSession.step s es).Returns := by
  induction es generalizing s with
  | nil => exact ⟨s, rfl⟩
  | cons e es ih =>
      obtain ⟨s', hs', hsafe, hrest⟩ := h.step hfit
      obtain ⟨s'', hs''⟩ := ih hsafe hrest
      exact ⟨s'', by rw [run_cons, hs', Checked.ok_bind, hs'']⟩

/-! ## A connection on a tunnel -/

/-- A connection on a tunnel, all of whose payloads have been acknowledged. -/
structure Drained (s : ConnSession) : Prop where
  layer2 : ∃ vmode, s.daemon.layer2 = .tunnel vmode
  mode : s.conn.mode = .idle
  queue : s.conn.inq = []
  sem : s.conn.insem = 0
  sendno : s.conn.sendno < 16#8
  reading : s.reading = true

theorem opened_drained (dest : EibAddr) : (opened tunnelDaemon dest).Drained :=
  ⟨⟨false, rfl⟩, rfl, rfl, rfl, zero_lt_16, rfl⟩

/-- The connection after the payload has been sent. -/
theorem Drained.input {s s' : ConnSession} (h : s.Drained) {c : CArray}
    (hturn : ({ s with conn := s.conn.send c } : ConnSession).turn .input = .ok s') :
    PayloadFits c ∧ (∃ vmode, s'.daemon.layer2 = .tunnel vmode) ∧ s'.reading = true ∧
      s'.conn = { s.conn with mode := .ackWait, inq := [c], insem := 0, repcount := 0 } := by
  obtain ⟨⟨conn, as⟩, hiter, hturn⟩ := Checked.bind_eq_ok.mp hturn
  obtain ⟨d', hd', hs'⟩ := Checked.bind_eq_ok.mp hturn
  cases hs'
  -- an empty payload would stop at the assertion of `ToPacket`
  have hc : c ≠ [] := by
    rintro rfl
    simp [TConnection.iterate, TConnection.send, h.mode, h.queue, h.sem, TConnection.handle,
      TConnection.onInput, TConnection.top, TConnection.sendData, TPDU.decode, TPDU.toPacket,
      APDU.decode_fromPacket, and_f0_of_lt_16 h.sendno] at hiter
  have hsent : (s.conn.send c).iterate .input =
      .ok ({ s.conn with mode := .ackWait, inq := [c], insem := 0, repcount := 0 },
        [s.conn.frame .low (connectedBytes s.conn.sendno c)]) := by
    simp [TConnection.iterate, TConnection.send, h.mode, h.queue, h.sem, TConnection.handle,
      TConnection.onInput, TConnection.top, TConnection.sendData_eq, h.sendno, hc,
      TConnection.frame]
  rw [hsent] at hiter
  cases hiter
  obtain ⟨d₁, hd₁, hperform⟩ := Checked.bind_eq_ok.mp hd'
  cases hperform
  obtain ⟨vmode, htunnel⟩ := h.layer2
  have hfit := Daemon.length_of_sendLData htunnel ⟨_, hd₁⟩
  rw [connectedBytes, List.length_modifyHead] at hfit
  exact ⟨hfit, ⟨vmode, (Daemon.layer2_of_sendLData hd₁).trans htunnel⟩, h.reading, rfl⟩

/-- The acknowledgement drains the queue again. -/
theorem drained_of_ack {s : ConnSession} {c : CArray} {vmode : Bool}
    (hlayer2 : s.daemon.layer2 = .tunnel vmode) (hread : s.reading = true)
    (hsendno : s.conn.sendno < 16#8) (hmode : s.conn.mode = .ackWait) (hqueue : s.conn.inq = [c])
    (hsem : s.conn.insem = 0) :
    ∃ s', s.turn (.buf (ackBytes s.conn.sendno)) = .ok s' ∧ s'.Drained := by
  have hiter : s.conn.iterate (.buf (ackBytes s.conn.sendno)) =
      .ok ({ s.conn with mode := .idle, inq := [], sendno := (s.conn.sendno + 1#8) &&& 0x0f#8 },
        [.acked c]) := by
    simp [TConnection.iterate, hmode, TConnection.handle, TConnection.onBuf,
      TPDU.fromPacket_ackBytes hsendno, TConnection.onAck, TConnection.top, hqueue]
  refine ⟨_, by simp only [ConnSession.turn, hiter, Checked.ok_bind, perform]; rfl, ?_⟩
  exact ⟨⟨vmode, hlayer2⟩, rfl, rfl, hsem, TConnection.next_lt_16 _, hread⟩

/-- If every run with these messages returns, the payloads fit: each of them can be made the
    only one in the queue, and be sent. -/
theorem Drained.fits_of_runs {s : ConnSession} (h : s.Drained) {ms : List Message}
    (hret : ∀ es, messagesOf es = ms → (run ConnSession.step s es).Returns) :
    ∀ c ∈ payloads AConnection.doMessage ms, PayloadFits c := by
  induction ms generalizing s with
  | nil => exact nofun
  | cons m ms ih =>
      unfold payloads
      cases hm : AConnection.doMessage m with
      | ends => exact nofun
      | skipped =>
          refine ih h fun es hes => ?_
          have hall := hret (.message m :: es) (by rw [messagesOf, hes])
          obtain ⟨s₁, h₁, hrest⟩ := Checked.returns_bind.mp hall
          simp only [ConnSession.step, h.reading, hm, if_true, Except.ok.injEq] at h₁
          rwa [h₁]
      | send addr c =>
          have hsend : s.step (.message m) = .ok { s with conn := s.conn.send c } := by
            simp [ConnSession.step, h.reading, hm]
          -- the payload is sent as soon as it is queued, and acknowledged before the next one
          have hturn : ∀ es, messagesOf es = ms → ∃ s₁,
              ({ s with conn := s.conn.send c } : ConnSession).turn .input = .ok s₁ ∧
                (run ConnSession.step s₁ es).Returns := by
            intro es hes
            have hall := hret (.message m :: .turn .input :: es) (by simp only [messagesOf, hes])
            rw [run_cons, hsend, Checked.ok_bind] at hall
            exact Checked.returns_bind.mp hall
          obtain ⟨s₁, h₁, -⟩ := hturn (ms.map .message) (messagesOf_map ms)
          obtain ⟨hfit, ⟨vmode, hlayer2⟩, hread, hconn⟩ := h.input h₁
          have hsendno : s₁.conn.sendno = s.conn.sendno := by rw [hconn]
          obtain ⟨s₂, h₂, hdrained⟩ := drained_of_ack (c := c) hlayer2 hread
            (by rw [hsendno]; exact h.sendno) (by rw [hconn]) (by rw [hconn]) (by rw [hconn])
          have hrest := ih hdrained fun es hes => by
            obtain ⟨s₁', h₁', hrun⟩ := hturn (.turn (.buf (ackBytes s₁.conn.sendno)) :: es) hes
            cases h₁.symm.trans h₁'
            rw [run_cons] at hrun
            obtain ⟨s₂', h₂', hrun⟩ := Checked.returns_bind.mp hrun
            cases h₂.symm.trans h₂'
            exact hrun
          intro x hx
          rcases List.mem_cons.mp hx with rfl | hx
          · exact hfit
          · exact hrest x hx

end ConnSession

/-! ## Clients -/

/-- The client connections that can send. -/
inductive Client where
  | handler (h : Handler)
  /-- An `A_Connection`. -/
  | connection (dest : EibAddr)

namespace Client

/-- The read loop of the client connection. -/
def doMessage : Client → Message → Handled
  | .handler h => h.doMessage
  | .connection _ => AConnection.doMessage

/-- No assertion fails when the client sends these messages, whatever the configuration of the
    daemon and, on an `A_Connection`, whatever happens between them. -/
def Safe : Client → List Message → Prop
  | .handler h, ms => ∀ d, (h.session d ms).Returns
  | .connection dest, ms => ∀ d es, messagesOf es = ms →
      (run ConnSession.step (ConnSession.opened d dest) es).Returns

/-- The header before the payload: the group address or the address of a `T_TPDU` is part of it. -/
def header : Client → Nat
  | .handler (.tpdu _) => 4
  | .handler .groupSocket => 4
  | _ => 2

theorem exists_doMessage (k : Client) : ∃ type, k.doMessage = Eibd.doMessage k.header type := by
  cases k with
  | handler h => cases h <;> exact ⟨_, rfl⟩
  | connection dest => exact ⟨_, rfl⟩

theorem fits_of_safe {k : Client} {ms : List Message} (h : k.Safe ms) :
    ∀ c ∈ payloads k.doMessage ms, PayloadFits c := by
  cases k with
  | handler k => exact k.fits_of_session rfl (h tunnelDaemon)
  | connection dest => exact (ConnSession.opened_drained dest).fits_of_runs (h tunnelDaemon)

theorem safe_of_fits {k : Client} {ms : List Message}
    (hfit : ∀ c ∈ payloads k.doMessage ms, PayloadFits c) : k.Safe ms := by
  cases k with
  | handler k => exact fun d => k.session_returns hfit d
  | connection dest =>
      intro d es hes
      refine (ConnSession.opened_safe d dest).run_returns fun _ => ?_
      rw [hes]
      exact hfit

/-- A client is safe exactly if every message its read loop gets to, up to the one that ends the
    loop, is too short for the header or has 1 to 254 bytes after it. -/
theorem safe_iff_messageFits (k : Client) (ms : List Message) :
    k.Safe ms ↔ ∀ m ∈ ms.takeWhile (k.doMessage · ≠ .ends), MessageFits k.header m := by
  have hsafe : k.Safe ms ↔ ∀ c ∈ payloads k.doMessage ms, PayloadFits c :=
    ⟨fits_of_safe, safe_of_fits⟩
  obtain ⟨type, htype⟩ := k.exists_doMessage
  rw [hsafe, htype, payloads_fit_iff]

/-- An `EIB_APDU_PACKET` without an APDU. -/
def emptyAPDU : Message := ⟨[0x00#8, 0x25#8], Nat.le_refl 2, by decide⟩

/-- No read loop rejects an empty APDU. -/
theorem safe_fails_emptyAPDU : ¬ ∀ (k : Client) (ms : List Message), k.Safe ms := by
  intro h
  have hfit := fits_of_safe (h (.handler (.group 0x0901#16)) [emptyAPDU])
  exact absurd (hfit [] (by decide)).1 (by decide)

end Client

end BcuSdk.Eibd
