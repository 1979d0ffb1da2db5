/-
  BcuSdk.Eibd.TunnelSafety

  What a `TUNNEL_RESPONSE` tells about the frame it acknowledges.

  A side that gives a frame up uses its number again for the next one, although
  the other side may have taken the frame and only the response was lost: the
  next frame is then acknowledged as a repetition, and never delivered.
  `Carries` is the invariant of one direction.  `Outcome.carries_own` and
  `Outcome.carries_peer` say that every move keeps it unless a number is used
  for two frames, and `Tunnel.down_delivered` and `Tunnel.up_delivered` are the
  results for whole runs.
-/
import BcuSdk.Eibd.Tunnelling

namespace BcuSdk.Eibd

open BcuSdk.Lib

/-! ## The invariant of one direction -/

/-- A transmission of a frame of the link. -/
def Datagram.Requests (l : Link CArray) (d : Datagram) : Prop :=
  ∀ r, EIBnetTunnelRequest.parse d.packet = some r →
    l.Sent d.poppedByThen d.ackedByThen ∧ r.seqno = BitVec.ofNat 8 d.ackedByThen ∧
      l.queued[d.poppedByThen]? = some r.cemi

/-- An answer to a frame of the link. -/
def Datagram.Answers (l : Link CArray) (d : Datagram) : Prop :=
  ∀ a, EIBnetTunnelACK.parse d.packet = some a →
    d.takenByThen ≤ l.taken.length ∧ a.seqno + 1#8 = BitVec.ofNat 8 d.takenByThen

/-- A link between a sender with this queue and number and a receiver that expects `rno`, with
    the datagrams that each of them has sent. -/
structure Carries (l : Link CArray) (queue : List CArray) (sno rno : Byte)
    (requests answers : List Datagram) : Prop where
  sound : l.Sound
  popped : l.popped ≤ l.queued.length
  queue : l.queued.drop l.popped = queue
  sno : sno = BitVec.ofNat 8 l.acked.length
  rno : rno = BitVec.ofNat 8 l.taken.length
  nonempty : ∀ c ∈ l.delivered, c ≠ []
  requests : ∀ d ∈ requests, d.Requests l
  answers : ∀ d ∈ answers, d.Answers l

theorem number_succ (n : Nat) : BitVec.ofNat 8 n + 1#8 = BitVec.ofNat 8 (n + 1) := by
  apply BitVec.eq_of_toNat_eq
  simp

theorem number_eq_iff {m n : Nat} : BitVec.ofNat 8 m = BitVec.ofNat 8 n ↔ m % 256 = n % 256 := by
  rw [← BitVec.toNat_inj, BitVec.toNat_ofNat, BitVec.toNat_ofNat]

namespace Carries

variable {l : Link CArray} {queue rest : List CArray} {sno rno : Byte} {c : CArray}
  {requests answers : List Datagram} {d : Datagram}

/-- The frame in front of the queue. -/
theorem front (h : Carries l queue sno rno requests answers) (hqueue : queue = c :: rest) :
    l.queued[l.popped]? = some c ∧ l.popped + 1 ≤ l.queued.length ∧
      l.queued.drop (l.popped + 1) = rest := by
  have hdrop : l.queued.drop l.popped = c :: rest := h.queue.trans hqueue
  have hget : l.queued[l.popped]? = some c := by
    rw [← List.head?_drop, hdrop, List.head?_cons]
  refine ⟨hget, (List.getElem?_eq_some_iff.mp hget).1, ?_⟩
  rw [← List.tail_drop, hdrop, List.tail_cons]

theorem put (h : Carries l queue sno rno requests answers) (c : CArray) :
    Carries (l.put c) (queue ++ [c]) sno rno requests answers where
  sound := h.sound.put c
  popped := by
    simp only [Link.put, List.length_append]
    exact Nat.le_add_right_of_le h.popped
  queue := by
    rw [← h.queue]
    exact List.drop_append_of_le_length h.popped
  sno := h.sno
  rno := h.rno
  nonempty := h.nonempty
  requests d hd r hr := by
    obtain ⟨hsent, hnum, hcemi⟩ := h.requests d hd r hr
    refine ⟨hsent.put c, hnum, ?_⟩
    rw [← hcemi]
    exact List.getElem?_append_left (List.getElem?_eq_some_iff.mp hcemi).1
  answers := h.answers

theorem puts (h : Carries l queue sno rno requests answers) (cs : List CArray) :
    Carries (cs.foldl Link.put l) (queue ++ cs) sno rno requests answers := by
  induction cs generalizing l queue with
  | nil => rwa [List.append_nil]
  | cons c cs ih =>
      have := ih (h.put c)
      rwa [List.append_assoc, List.singleton_append] at this

/-- An answer with the number of the sender is about the frame in front of its queue. -/
theorem ack (h : Carries l queue sno rno requests answers) (hqueue : queue = c :: rest)
    (htaken : l.taken.length = l.acked.length + 1) :
    Carries l.ack rest (sno + 1#8) rno requests answers := by
  obtain ⟨-, hpopped, hrest⟩ := h.front hqueue
  refine ⟨h.sound.ack htaken, hpopped, hrest, ?_, h.rno, h.nonempty, ?_, h.answers⟩
  · rw [h.sno, number_succ]
    simp only [Link.ack, List.length_append, List.length_singleton]
  · intro d hd r hr
    obtain ⟨hsent, hrest⟩ := h.requests d hd r hr
    exact ⟨hsent.ack, hrest⟩

theorem drop (h : Carries l queue sno rno requests answers) (hqueue : queue = c :: rest)
    (htaken : l.taken.length = l.acked.length) :
    Carries l.drop rest sno rno requests answers := by
  obtain ⟨-, hpopped, hrest⟩ := h.front hqueue
  refine ⟨h.sound.drop htaken, hpopped, hrest, h.sno, h.rno, h.nonempty, ?_, h.answers⟩
  intro d hd r hr
  obtain ⟨hsent, hrest⟩ := h.requests d hd r hr
  exact ⟨hsent.drop, hrest⟩

theorem take (h : Carries l queue sno rno requests answers) (hc : c ≠ [])
    (hget : l.queued[l.popped]? = some c) (htaken : l.taken.length = l.acked.length) :
    Carries (l.take l.popped c) queue sno (rno + 1#8) requests answers := by
  have hlen : (l.take l.popped c).taken.length = l.taken.length + 1 := by
    simp only [Link.take, List.length_append, List.length_singleton]
  refine ⟨h.sound.take htaken hget, h.popped, h.queue, h.sno, ?_, ?_, ?_, ?_⟩
  · rw [h.rno, number_succ, hlen]
  · intro x hx
    rcases List.mem_append.mp hx with hx | hx
    · exact h.nonempty x hx
    · rwa [List.mem_singleton.mp hx]
  · intro d hd r hr
    obtain ⟨hsent, hrest⟩ := h.requests d hd r hr
    exact ⟨hsent.take .., hrest⟩
  · intro d hd a ha
    obtain ⟨hle, hnum⟩ := h.answers d hd a ha
    exact ⟨by omega, hnum⟩

theorem discard (h : Carries l queue sno rno requests answers) (i : Nat) :
    Carries (l.discard i) queue sno rno requests answers where
  sound := h.sound.discard i
  popped := h.popped
  queue := h.queue
  sno := h.sno
  rno := h.rno
  nonempty := h.nonempty
  requests d hd r hr := by
    obtain ⟨hsent, hrest⟩ := h.requests d hd r hr
    exact ⟨hsent.discard i, hrest⟩
  answers := h.answers

theorem snoc_request (h : Carries l queue sno rno requests answers) (hd : d.Requests l) :
    Carries l queue sno rno (requests ++ [d]) answers := by
  refine ⟨h.sound, h.popped, h.queue, h.sno, h.rno, h.nonempty, fun x hx => ?_, h.answers⟩
  rcases List.mem_append.mp hx with hx | hx
  · exact h.requests x hx
  · rwa [List.mem_singleton.mp hx]

theorem snoc_answer (h : Carries l queue sno rno requests answers) (hd : d.Answers l) :
    Carries l queue sno rno requests (answers ++ [d]) := by
  refine ⟨h.sound, h.popped, h.queue, h.sno, h.rno, h.nonempty, h.requests, fun x hx => ?_⟩
  rcases List.mem_append.mp hx with hx | hx
  · exact h.answers x hx
  · rwa [List.mem_singleton.mp hx]

/-- The frame in front of the queue has not been taken if it is empty. -/
theorem taken_of_empty (h : Carries l ([] :: rest) sno rno requests answers) :
    l.taken.length = l.acked.length := by
  rcases h.sound.length_taken with hlen | hlen
  · exact hlen
  · exfalso
    -- had it been taken, it would be among the frames delivered, which are not empty
    have hmem : l.popped ∈ l.taken := by
      rw [h.sound.taken_of_length_succ hlen]
      exact List.mem_append_right _ (List.mem_singleton_self _)
    have hcontent : l.queued[l.popped]? ∈ l.delivered.map some := by
      rw [h.sound.content]
      exact List.mem_map_of_mem hmem
    rw [(h.front rfl).1, List.mem_map] at hcontent
    obtain ⟨c, hc, hempty⟩ := hcontent
    exact h.nonempty c hc (Option.some.inj hempty)

end Carries

/-! ## What the conditions on a datagram are for -/

/-- If the receiver is about to take the frame, it has not been given up, and fewer than 256
    frames have been taken since it was sent. -/
def Datagram.FreshRequest (l : Link CArray) (rno : Byte) (d : Datagram) : Prop :=
  ∀ r ∈ EIBnetTunnelRequest.parse d.packet, rno = r.seqno →
    d.poppedByThen ∉ l.dropped ∧ l.taken.length < d.ackedByThen + 256

/-- If the answer has the number of the sender, fewer than 256 frames have been acknowledged
    since it was sent. -/
def Datagram.FreshAnswer (l : Link CArray) (sno : Byte) (d : Datagram) : Prop :=
  ∀ a ∈ EIBnetTunnelACK.parse d.packet, sno = a.seqno → l.acked.length + 1 < d.takenByThen + 256

instance (l : Link CArray) (rno : Byte) (d : Datagram) : Decidable (d.FreshRequest l rno) :=
  inferInstanceAs (Decidable (∀ r ∈ EIBnetTunnelRequest.parse d.packet, rno = r.seqno →
    d.poppedByThen ∉ l.dropped ∧ l.taken.length < d.ackedByThen + 256))

instance (l : Link CArray) (sno : Byte) (d : Datagram) : Decidable (d.FreshAnswer l sno) :=
  inferInstanceAs (Decidable (∀ a ∈ EIBnetTunnelACK.parse d.packet, sno = a.seqno →
    l.acked.length + 1 < d.takenByThen + 256))

/-- What the receiver may rely on when it takes frame `i`. -/
def Takeable (l : Link CArray) (rno : Byte) (i : Nat) (recv : Option EIBNetIPPacket) : Prop :=
  ∀ p ∈ recv, ∀ r ∈ EIBnetTunnelRequest.parse p, rno = r.seqno →
    i = l.popped ∧ l.taken.length = l.acked.length ∧ l.queued[l.popped]? = some r.cemi

/-- What the sender may rely on when an answer has its number. -/
def Ackable (l : Link CArray) (sno : Byte) (recv : Option EIBNetIPPacket) : Prop :=
  ∀ p ∈ recv, ∀ a ∈ EIBnetTunnelACK.parse p, sno = a.seqno → l.taken.length = l.acked.length + 1

namespace Carries

variable {l : Link CArray} {queue : List CArray} {sno rno : Byte}
  {requests answers : List Datagram} {d : Datagram}

theorem takeable (h : Carries l queue sno rno requests answers) (hd : d ∈ requests)
    (hfresh : d.FreshRequest l rno) : Takeable l rno d.poppedByThen (some d.packet) := by
  intro p hp r hr hnum
  cases hp
  obtain ⟨hsent, hseqno, hcemi⟩ := h.requests d hd r hr
  obtain ⟨hkept, hage⟩ := hfresh r hr hnum
  -- both counts have the number of the request
  have hmod : d.ackedByThen % 256 = l.taken.length % 256 := by
    rw [← number_eq_iff, ← hseqno, ← hnum, h.rno]
  obtain ⟨hfront, htaken⟩ := h.sound.front_of_number hsent hkept hmod hage
  exact ⟨hfront, htaken, hfront ▸ hcemi⟩

theorem ackable (h : Carries l queue sno rno requests answers) (hd : d ∈ answers)
    (hfresh : d.FreshAnswer l sno) : Ackable l sno (some d.packet) := by
  intro p hp a ha hnum
  cases hp
  obtain ⟨hle, hseqno⟩ := h.answers d hd a ha
  have hmod : d.takenByThen % 256 = (l.acked.length + 1) % 256 := by
    rw [← number_eq_iff, ← hseqno, ← hnum, h.sno, number_succ]
  exact h.sound.taken_of_number hle hmod (hfresh a ha hnum)

end Carries

/-- Packets of other services carry nothing. -/
theorem takeable_of_not_tunnelling {l : Link CArray} {rno : Byte} {i : Nat} {p : EIBNetIPPacket}
    (hp : ¬ Tunnel.Tunnelling p) : Takeable l rno i (some p) := by
  intro q hq r hr
  cases hq
  exact absurd (.inl (EIBnetTunnelRequest.parse_eq_some hr).1) hp

theorem ackable_of_not_tunnelling {l : Link CArray} {sno : Byte} {p : EIBNetIPPacket}
    (hp : ¬ Tunnel.Tunnelling p) : Ackable l sno (some p) := by
  intro q hq a ha
  cases hq
  exact absurd (.inr (EIBnetTunnelACK.service_of_parse ha)) hp

theorem takeable_none {l : Link CArray} {rno : Byte} {i : Nat} : Takeable l rno i none := nofun

theorem ackable_none {l : Link CArray} {sno : Byte} : Ackable l sno none := nofun

/-! ## Moves of the two sides -/

namespace TunnelView

theorem foldl_quiet {i : Nat} {v : TunnelView} {as : List TunnelAction} (h : ∀ x ∈ as, x.Quiet) :
    as.foldl (perform i) v = v := by
  induction as with
  | nil => rfl
  | cons a as ih =>
      have ha := h a (List.mem_cons_self ..)
      have hperform : perform i v a = v := by
        cases a <;> first | rfl | exact ha.elim
      rw [List.foldl_cons, hperform]
      exact ih fun x hx => h x (List.mem_cons_of_mem _ hx)

theorem foldl_puts {i : Nat} {v : TunnelView} {cs : List CArray} :
    (cs.map TunnelAction.put).foldl (perform i) v = { v with own := cs.foldl Link.put v.own } := by
  induction cs generalizing v with
  | nil => rfl
  | cons c cs ih => exact ih

/-- The whole of what a side does when it takes a frame. -/
theorem foldl_takes {i : Nat} {v : TunnelView} {c : CArray} {puts : List CArray}
    {before after : List TunnelAction} {p : EIBNetIPPacket}
    (hbefore : ∀ x ∈ before, x.Quiet) (hafter : ∀ x ∈ after, x.Quiet) :
    (TunnelAction.taken c :: (puts.map .put ++ (before ++ .send p :: after))).foldl (perform i) v =
      perform i { v with own := puts.foldl Link.put v.own, peer := v.peer.take i c } (.send p) := by
  rw [List.foldl_cons, List.foldl_append, foldl_puts, List.foldl_append, foldl_quiet hbefore,
    List.foldl_cons, foldl_quiet hafter]
  rfl

end TunnelView

theorem requests_datagram_ack (l : Link CArray) (v : TunnelView) (a : EIBnetTunnelACK) :
    (v.datagram a.toPacket).Requests l := by
  intro r hr
  have hparse : EIBnetTunnelRequest.parse a.toPacket = some r := hr
  rw [EIBnetTunnelRequest.parse_ack] at hparse
  cases hparse

theorem answers_datagram_request (l : Link CArray) (v : TunnelView) (r : EIBnetTunnelRequest) :
    (v.datagram r.toPacket).Answers l := by
  intro a ha
  have hparse : EIBnetTunnelACK.parse r.toPacket = some a := ha
  rw [EIBnetTunnelACK.parse_request] at hparse
  cases hparse

open TunnelEnd (Outcome)

section Moves

variable {Refuses : CArray → Prop} {recv : Option EIBNetIPPacket} {e e' : TunnelEnd}
  {as : List TunnelAction} {v : TunnelView} {i : Nat}

/-- Every move keeps the invariant of the frames a side sends. -/
theorem TunnelEnd.Outcome.carries_own {rno : Byte} {answers : List Datagram}
    (h : Outcome Refuses recv e e' as) (hv : Carries v.own e.queue e.sno rno v.sent answers)
    (hack : Ackable v.own e.sno recv)
    (hdrop : ∀ c, .dropped c ∈ as → v.own.taken.length = v.own.acked.length) :
    Carries (as.foldl (TunnelView.perform i) v).own e'.queue e'.sno rno
      (as.foldl (TunnelView.perform i) v).sent answers := by
  cases h with
  | quiet quiet =>
      rw [TunnelView.foldl_quiet quiet]
      exact hv
  | repeats packet request number answer => exact hv.snoc_request (requests_datagram_ack _ _ _)
  | takes packet request number answer quietBefore quietAfter =>
      rw [TunnelView.foldl_takes quietBefore quietAfter]
      exact (hv.puts _).snoc_request (requests_datagram_ack _ _ _)
  | refuses packet request number refused => exact hv.snoc_request (requests_datagram_ack _ _ _)
  | acks packet response number queue => exact hv.ack queue (hack _ packet _ response number)
  | @drops c rest after packet queue quietAfter =>
      rw [List.foldl_cons, TunnelView.foldl_quiet quietAfter]
      exact hv.drop queue (hdrop c (List.mem_cons_self ..))
  | @sends c rest r queue number cemi =>
      refine hv.snoc_request fun r' hr' => ?_
      have hparse : EIBnetTunnelRequest.parse r.toPacket = some r' := hr'
      rw [EIBnetTunnelRequest.parse_toPacket] at hparse
      split at hparse
      -- a frame of less than two bytes makes a request that is not parsed
      · cases hparse
      · cases hparse
        exact ⟨v.own.sent_front, number.trans hv.sno, by rw [cemi]; exact (hv.front queue).1⟩

/-- Every move but a refusal keeps the invariant of the frames a side receives. -/
theorem TunnelEnd.Outcome.carries_peer {queue : List CArray} {sno : Byte} {requests : List Datagram}
    (h : Outcome Refuses recv e e' as) (hv : Carries v.peer queue sno e.rno requests v.sent)
    (htake : Takeable v.peer e.rno i recv)
    (haccept : ∀ p ∈ recv, ∀ r ∈ EIBnetTunnelRequest.parse p, e.rno = r.seqno → ¬ Refuses r.cemi) :
    Carries (as.foldl (TunnelView.perform i) v).peer queue sno e'.rno requests
      (as.foldl (TunnelView.perform i) v).sent := by
  cases h with
  | quiet quiet =>
      rw [TunnelView.foldl_quiet quiet]
      exact hv
  | @repeats p r a packet request number answer =>
      refine (hv.discard i).snoc_answer fun a' ha' => ?_
      cases (EIBnetTunnelACK.parse_toPacket a).symm.trans ha'
      exact ⟨Nat.le_refl _, by rw [answer, ← number, hv.rno]; rfl⟩
  | @takes p r a puts before after packet request number answer quietBefore quietAfter =>
      rw [TunnelView.foldl_takes quietBefore quietAfter]
      obtain ⟨rfl, htaken, hget⟩ := htake p packet r request number
      -- a request that was parsed has a frame in it
      have hne : r.cemi ≠ [] := by
        intro hempty
        have hlong := (EIBnetTunnelRequest.parse_eq_some request).2
        simp [hempty] at hlong
      have htook := hv.take hne hget htaken
      refine htook.snoc_answer fun a' ha' => ?_
      cases (EIBnetTunnelACK.parse_toPacket a).symm.trans ha'
      exact ⟨Nat.le_refl _, by rw [answer, ← number]; exact htook.rno⟩
  | @refuses p r a packet request number refused =>
      exact absurd refused (haccept p packet r request number)
  | acks packet response number queue => exact hv
  | drops packet queue quietAfter =>
      rw [List.foldl_cons, TunnelView.foldl_quiet quietAfter]
      exact hv
  | @sends c rest r queue number cemi =>
      exact hv.snoc_answer (answers_datagram_request _ _ _)

end Moves

/-! ## The two directions of a tunnel -/

namespace Tunnel

/-- The invariant from the server to the client. -/
def Down (s : Tunnel) : Prop :=
  Carries s.down s.server.out s.server.sno s.client.rno s.toClient s.toServer

/-- The invariant from the client to the server. -/
def Up (s : Tunnel) : Prop :=
  Carries s.up s.client.inqueue s.client.sno s.server.rno s.toServer s.toClient

theorem carries_empty (queue : List CArray) :
    Carries { queued := queue } queue 0#8 0#8 [] [] where
  sound := ⟨nofun, .nil, .inl rfl, rfl⟩
  popped := Nat.zero_le _
  queue := rfl
  sno := rfl
  rno := rfl
  nonempty := nofun
  requests := nofun
  answers := nofun

section Phases

variable {s s' : Tunnel} {recv : Option EIBNetIPPacket} {i : Nat}

theorem atServer_eq_ok {phase : Checked (ConnState × List TunnelAction)}
    (h : s.atServer i phase = .ok s') :
    ∃ server as, phase = .ok (server, as) ∧
      s' = { s with
        server, down := (as.foldl (TunnelView.perform i) s.serverView).own
        up := (as.foldl (TunnelView.perform i) s.serverView).peer
        toClient := (as.foldl (TunnelView.perform i) s.serverView).sent } := by
  obtain ⟨⟨server, as⟩, hphase, h⟩ := Checked.bind_eq_ok.mp h
  cases h
  exact ⟨server, as, hphase, rfl⟩

theorem atClient_eq_ok {phase : Checked (EIBNetIPTunnel × List TunnelAction)}
    (h : s.atClient i phase = .ok s') :
    ∃ client as, phase = .ok (client, as) ∧
      s' = { s with
        client, up := (as.foldl (TunnelView.perform i) s.clientView).own
        down := (as.foldl (TunnelView.perform i) s.clientView).peer
        toServer := (as.foldl (TunnelView.perform i) s.clientView).sent } := by
  obtain ⟨⟨client, as⟩, hphase, h⟩ := Checked.bind_eq_ok.mp h
  cases h
  exact ⟨client, as, hphase, rfl⟩

/-- A phase of the server keeps the invariant of what it sends. -/
theorem Down.atServer {phase : Checked (ConnState × List TunnelAction)} (hs : s.Down)
    (h : s.atServer i phase = .ok s')
    (hout : ∀ server as, phase = .ok (server, as) →
      Outcome s.server.Refuses recv s.server.tunnelEnd server.tunnelEnd as ∧
        ∀ c, .dropped c ∈ as → s.down.taken.length = s.down.acked.length)
    (hack : Ackable s.down s.server.sno recv) : s'.Down := by
  obtain ⟨server, as, hphase, rfl⟩ := atServer_eq_ok h
  obtain ⟨houtcome, hdrop⟩ := hout server as hphase
  exact houtcome.carries_own (v := s.serverView) hs hack hdrop

/-- A phase of the client keeps the invariant of what the server sends. -/
theorem Down.atClient {phase : Checked (EIBNetIPTunnel × List TunnelAction)} (hs : s.Down)
    (h : s.atClient i phase = .ok s')
    (hout : ∀ client as, phase = .ok (client, as) →
      Outcome EIBNetIPTunnel.Refuses recv s.client.tunnelEnd client.tunnelEnd as)
    (htake : Takeable s.down s.client.rno i recv) : s'.Down := by
  obtain ⟨client, as, hphase, rfl⟩ := atClient_eq_ok h
  exact (hout client as hphase).carries_peer (v := s.clientView) hs htake fun _ _ _ _ _ h => h

theorem Up.atClient {phase : Checked (EIBNetIPTunnel × List TunnelAction)} (hs : s.Up)
    (h : s.atClient i phase = .ok s')
    (hout : ∀ client as, phase = .ok (client, as) →
      Outcome EIBNetIPTunnel.Refuses recv s.client.tunnelEnd client.tunnelEnd as ∧
        ∀ c, .dropped c ∈ as → s.up.taken.length = s.up.acked.length)
    (hack : Ackable s.up s.client.sno recv) : s'.Up := by
  obtain ⟨client, as, hphase, rfl⟩ := atClient_eq_ok h
  obtain ⟨houtcome, hdrop⟩ := hout client as hphase
  exact houtcome.carries_own (v := s.clientView) hs hack hdrop

theorem Up.atServer {phase : Checked (ConnState × List TunnelAction)} (hs : s.Up)
    (h : s.atServer i phase = .ok s')
    (hout : ∀ server as, phase = .ok (server, as) →
      Outcome s.server.Refuses recv s.server.tunnelEnd server.tunnelEnd as)
    (htake : Takeable s.up s.server.rno i recv)
    (haccept : ∀ p ∈ recv, ∀ r ∈ EIBnetTunnelRequest.parse p, s.server.rno = r.seqno →
      s.server.Accepts r.cemi) : s'.Up := by
  obtain ⟨server, as, hphase, rfl⟩ := atServer_eq_ok h
  exact (hout server as hphase).carries_peer (v := s.serverView) hs htake
    fun p hp r hr hnum hrefused => hrefused (haccept p hp r hr hnum)

end Phases

/-! ## From the server to the client -/

/-- The step uses no number of the server for two frames: a request the client is about to take
    is recent and of no frame that has been given up, a response with the current number is
    recent, and no frame is given up that the client has taken. -/
def DownMeets (s : Tunnel) : Event → Prop
  | .clientRecv i => ∀ d ∈ s.toClient[i]?, d.FreshRequest s.down s.client.rno
  | .serverRecv i => ∀ d ∈ s.toServer[i]?, d.FreshAnswer s.down s.server.sno
  | .serverSend sendtimeout =>
      s.server.GivesUp sendtimeout → s.down.taken.length = s.down.acked.length
  | _ => True

instance (s : Tunnel) (e : Event) : Decidable (s.DownMeets e) :=
  match e with
  | .clientRecv i =>
      inferInstanceAs (Decidable (∀ d ∈ s.toClient[i]?, d.FreshRequest s.down s.client.rno))
  | .serverRecv i =>
      inferInstanceAs (Decidable (∀ d ∈ s.toServer[i]?, d.FreshAnswer s.down s.server.sno))
  | .serverSend sendtimeout =>
      inferInstanceAs (Decidable (s.server.GivesUp sendtimeout →
        s.down.taken.length = s.down.acked.length))
  | .serverPut _ | .clientPut _ | .clientControl _ | .clientTimeout | .clientHeartbeat
  | .clientMarker | .clientSend => inferInstanceAs (Decidable True)

theorem down_step {s s' : Tunnel} {e : Event} (hs : s.Down) (he : s.DownMeets e)
    (h : step s e = .ok s') : s'.Down := by
  cases e with
  | serverPut c =>
      cases h
      exact Carries.put hs c
  -- no datagram at that place: nothing happens
  | serverRecv i =>
      cases hd : s.toServer[i]? with
      | none =>
          simp only [step, hd] at h
          cases h
          exact hs
      | some d =>
          simp only [step, hd] at h
          refine hs.atServer h (fun server as hphase => ?_)
            (Carries.ackable hs (List.mem_of_getElem? hd) (he d hd))
          have hout := ConnState.recv_outcome hphase
          exact ⟨hout, fun c hc => absurd hc (hout.not_dropped c)⟩
  -- the server may give up a frame, which the condition on the event excludes
  | serverSend sendtimeout =>
      refine hs.atServer h (fun server as hphase => ?_) ackable_none
      exact ⟨ConnState.sendPhase_outcome hphase,
        fun c hc => he (ConnState.givesUp_of_dropped hphase hc)⟩
  | clientPut c =>
      cases h
      exact hs
  | clientRecv i =>
      cases hd : s.toClient[i]? with
      | none =>
          simp only [step, hd] at h
          cases h
          exact hs
      | some d =>
          simp only [step, hd] at h
          exact hs.atClient h (fun _ _ => EIBNetIPTunnel.recv_outcome)
            (Carries.takeable hs (List.mem_of_getElem? hd) (he d hd))
  -- a packet of the control endpoint is never a tunnelling frame
  | clientControl p =>
      simp only [step] at h
      split at h
      · cases h
        exact hs
      · next hp =>
        exact hs.atClient h (fun _ _ => EIBNetIPTunnel.recv_outcome) (takeable_of_not_tunnelling hp)
  | clientTimeout => exact hs.atClient h (fun _ _ => EIBNetIPTunnel.onTimeout_outcome) takeable_none
  | clientHeartbeat =>
      exact hs.atClient h
        (fun _ _ hphase => EIBNetIPTunnel.onHeartbeat_outcome (Except.ok.inj hphase)) takeable_none
  | clientMarker =>
      exact hs.atClient h
        (fun _ _ hphase => (EIBNetIPTunnel.dropMarker_outcome (Except.ok.inj hphase)).1)
        takeable_none
  | clientSend => exact hs.atClient h (fun _ _ => EIBNetIPTunnel.sendPhase_outcome) takeable_none

theorem opened_down (client : EIBNetIPTunnel) (channel : Byte) (myaddr : EibAddr)
    (type : ConnType) : (opened client channel myaddr type).Down :=
  carries_empty []

/-- In every run whose steps use no number for two frames, every frame the server dequeues on a
    response has been accepted by the client exactly once, in the order of the queue. -/
theorem down_delivered (client : EIBNetIPTunnel) (channel : Byte) (myaddr : EibAddr)
    (type : ConnType) {es : List Event} {s : Tunnel}
    (hmeet : StepsMeet step DownMeets (opened client channel myaddr type) es)
    (hrun : run step (opened client channel myaddr type) es = .ok s) : s.down.Delivered := by
  have hdown : s.Down :=
    run_invariant (fun _ _ _ => down_step) (opened_down client channel myaddr type) hmeet hrun
  exact hdown.sound.delivered

/-- An `L_Data` frame for the group address 1/1/1. -/
def switchFrame (code value : Byte) : CArray :=
  [code, 0x00#8, 0xbc#8, 0xe0#8, 0x11#8, 0x01#8, 0x09#8, 0x01#8, 0x01#8, 0x00#8, value]

/-- The first response is lost, the repetition is answered, and a second frame follows. -/
theorem down_delivered_repeated :
    ∃ s, run step (opened { channel := 1#8 } 1#8 0 .linkLayer)
        [.serverPut (switchFrame 0x29#8 0x81#8), .serverPut (switchFrame 0x29#8 0x80#8),
          .serverSend false, .clientRecv 0, .serverSend true, .clientRecv 1, .serverRecv 1,
          .serverSend false, .clientRecv 2, .serverRecv 2] = .ok s ∧ s.down.Delivered := by
  obtain ⟨s, hs, -⟩ : ∃ s, run step (opened { channel := 1#8 } 1#8 0 .linkLayer)
      [.serverPut (switchFrame 0x29#8 0x81#8), .serverPut (switchFrame 0x29#8 0x80#8),
        .serverSend false, .clientRecv 0, .serverSend true, .clientRecv 1, .serverRecv 1,
        .serverSend false, .clientRecv 2, .serverRecv 2] = .ok s ∧ True := by decide +kernel
  exact ⟨s, hs, down_delivered { channel := 1#8 } 1#8 0 .linkLayer (by decide +kernel) hs⟩

/-- All responses to the first frame are lost.  The second one is sent with the same number,
    answered as a repetition, and dequeued without having been accepted. -/
def downGivenUp : List Event :=
  [.serverPut (switchFrame 0x29#8 0x81#8), .serverPut (switchFrame 0x29#8 0x80#8),
    .serverSend false, .clientRecv 0] ++ List.replicate 10 (.serverSend true) ++
    [.serverSend false, .clientRecv 10, .serverRecv 1]

theorem down_fails_givenUp :
    ¬ ∀ (client : EIBNetIPTunnel) (channel : Byte) (myaddr : EibAddr) (type : ConnType)
      (es : List Event) (s : Tunnel),
        run step (opened client channel myaddr type) es = .ok s → s.down.Delivered := by
  intro h
  obtain ⟨s, hs, hacked, htaken⟩ :
      ∃ s, run step (opened { channel := 1#8 } 1#8 0 .linkLayer) downGivenUp = .ok s ∧
        1 ∈ s.down.acked ∧ s.down.taken.count 1 = 0 := by decide +kernel
  have honce := (h _ _ _ _ _ s hs).once 1 hacked
  rw [htaken] at honce
  cases honce

/-! ## From the client to the server -/

/-- The step uses no number of the client for two frames, and the server accepts the frame it
    is about to take. -/
def UpMeets (s : Tunnel) : Event → Prop
  | .serverRecv i => ∀ d ∈ s.toServer[i]?, d.FreshRequest s.up s.server.rno ∧
      ∀ r ∈ EIBnetTunnelRequest.parse d.packet, s.server.rno = r.seqno → s.server.Accepts r.cemi
  | .clientRecv i => ∀ d ∈ s.toClient[i]?, d.FreshAnswer s.up s.client.sno
  | .clientTimeout => s.client.GivesUp → s.up.taken.length = s.up.acked.length
  | _ => True

instance (s : Tunnel) (e : Event) : Decidable (s.UpMeets e) :=
  match e with
  | .serverRecv i =>
      inferInstanceAs (Decidable (∀ d ∈ s.toServer[i]?, d.FreshRequest s.up s.server.rno ∧
        ∀ r ∈ EIBnetTunnelRequest.parse d.packet, s.server.rno = r.seqno → s.server.Accepts r.cemi))
  | .clientRecv i =>
      inferInstanceAs (Decidable (∀ d ∈ s.toClient[i]?, d.FreshAnswer s.up s.client.sno))
  | .clientTimeout =>
      inferInstanceAs (Decidable (s.client.GivesUp → s.up.taken.length = s.up.acked.length))
  | .serverPut _ | .serverSend _ | .clientPut _ | .clientControl _ | .clientHeartbeat
  | .clientMarker | .clientSend => inferInstanceAs (Decidable True)

theorem up_step {s s' : Tunnel} {e : Event} (hs : s.Up) (he : s.UpMeets e)
    (h : step s e = .ok s') : s'.Up := by
  cases e with
  | serverPut c =>
      cases h
      exact hs
  | serverRecv i =>
      cases hd : s.toServer[i]? with
      | none =>
          simp only [step, hd] at h
          cases h
          exact hs
      | some d =>
          simp only [step, hd] at h
          obtain ⟨hfresh, haccept⟩ := he d hd
          refine hs.atServer h (fun _ _ => ConnState.recv_outcome)
            (Carries.takeable hs (List.mem_of_getElem? hd) hfresh) fun p hp => ?_
          cases hp
          exact haccept
  | serverSend sendtimeout =>
      exact hs.atServer h (fun _ _ => ConnState.sendPhase_outcome) takeable_none nofun
  | clientPut c =>
      cases h
      exact Carries.put hs c
  | clientRecv i =>
      cases hd : s.toClient[i]? with
      | none =>
          simp only [step, hd] at h
          cases h
          exact hs
      | some d =>
          simp only [step, hd] at h
          refine hs.atClient h (fun client as hphase => ?_)
            (Carries.ackable hs (List.mem_of_getElem? hd) (he d hd))
          have hout := EIBNetIPTunnel.recv_outcome hphase
          exact ⟨hout, fun c hc => absurd hc (hout.not_dropped c)⟩
  | clientControl p =>
      simp only [step] at h
      split at h
      · cases h
        exact hs
      · next hp =>
        refine hs.atClient h (fun client as hphase => ?_) (ackable_of_not_tunnelling hp)
        have hout := EIBNetIPTunnel.recv_outcome hphase
        exact ⟨hout, fun c hc => absurd hc (hout.not_dropped c)⟩
  | clientTimeout =>
      refine hs.atClient h (fun client as hphase => ?_) ackable_none
      exact ⟨EIBNetIPTunnel.onTimeout_outcome hphase,
        fun c hc => he (EIBNetIPTunnel.givesUp_of_dropped hphase hc)⟩
  | clientHeartbeat =>
      refine hs.atClient h (fun client as hphase => ?_) ackable_none
      have hphase := Except.ok.inj hphase
      exact ⟨EIBNetIPTunnel.onHeartbeat_outcome hphase,
        fun c hc => absurd hc (EIBNetIPTunnel.not_dropped_of_heartbeat hphase c)⟩
  | clientMarker =>
      refine hs.atClient h (fun client as hphase => ?_) ackable_none
      obtain ⟨hout, hempty⟩ := EIBNetIPTunnel.dropMarker_outcome (Except.ok.inj hphase)
      refine ⟨hout, fun c hc => ?_⟩
      obtain ⟨rest, hqueue⟩ := hempty c hc
      -- the marker is an empty frame, which the server cannot have taken
      have hcarries :
          Carries s.up s.client.inqueue s.client.sno s.server.rno s.toServer s.toClient := hs
      rw [hqueue] at hcarries
      exact hcarries.taken_of_empty
  | clientSend =>
      refine hs.atClient h (fun client as hphase => ?_) ackable_none
      exact ⟨EIBNetIPTunnel.sendPhase_outcome hphase,
        fun c hc => absurd hc (EIBNetIPTunnel.not_dropped_of_sendPhase hphase c)⟩

theorem opened_up (client : EIBNetIPTunnel) (channel : Byte) (myaddr : EibAddr) (type : ConnType) :
    (opened client channel myaddr type).Up :=
  carries_empty client.inqueue

/-- In every run whose steps use no number for two frames, every frame the client dequeues on a
    response has been taken over by the server exactly once, in the order of the queue. -/
theorem up_delivered (client : EIBNetIPTunnel) (channel : Byte) (myaddr : EibAddr)
    (type : ConnType) {es : List Event} {s : Tunnel}
    (hmeet : StepsMeet step UpMeets (opened client channel myaddr type) es)
    (hrun : run step (opened client channel myaddr type) es = .ok s) : s.up.Delivered := by
  have hup : s.Up :=
    run_invariant (fun _ _ _ => up_step) (opened_up client channel myaddr type) hmeet hrun
  exact hup.sound.delivered

/-- The first response is lost, the repetition is answered, and a second frame follows. -/
theorem up_delivered_repeated :
    ∃ s, run step (opened { channel := 1#8 } 1#8 0 .linkLayer)
        [.clientPut (switchFrame 0x11#8 0x81#8), .clientPut (switchFrame 0x11#8 0x80#8),
          .clientSend, .serverRecv 0, .clientTimeout, .clientSend, .serverRecv 1, .clientRecv 1,
          .clientSend, .serverRecv 2, .clientRecv 2] = .ok s ∧ s.up.Delivered := by
  obtain ⟨s, hs, -⟩ : ∃ s, run step (opened { channel := 1#8 } 1#8 0 .linkLayer)
      [.clientPut (switchFrame 0x11#8 0x81#8), .clientPut (switchFrame 0x11#8 0x80#8),
        .clientSend, .serverRecv 0, .clientTimeout, .clientSend, .serverRecv 1, .clientRecv 1,
        .clientSend, .serverRecv 2, .clientRecv 2] = .ok s ∧ True := by decide +kernel
  exact ⟨s, hs, up_delivered { channel := 1#8 } 1#8 0 .linkLayer (by decide +kernel) hs⟩

/-- All responses to the first frame are lost.  The second one is sent with the same number,
    answered as a repetition, and dequeued without having been taken over. -/
def upGivenUp : List Event :=
  [.clientPut (switchFrame 0x11#8 0x81#8), .clientPut (switchFrame 0x11#8 0x80#8), .clientSend,
    .serverRecv 0, .clientTimeout, .clientSend, .clientTimeout, .clientSend, .clientTimeout,
    .clientSend, .clientTimeout, .clientSend, .serverRecv 4, .clientRecv 1]

theorem up_fails_givenUp :
    ¬ ∀ (client : EIBNetIPTunnel) (channel : Byte) (myaddr : EibAddr) (type : ConnType)
      (es : List Event) (s : Tunnel),
        run step (opened client channel myaddr type) es = .ok s → s.up.Delivered := by
  intro h
  obtain ⟨s, hs, hacked, htaken⟩ :
      ∃ s, run step (opened { channel := 1#8 } 1#8 0 .linkLayer) upGivenUp = .ok s ∧
        1 ∈ s.up.acked ∧ s.up.taken.count 1 = 0 := by decide +kernel
  have honce := (h _ _ _ _ _ s hs).once 1 hacked
  rw [htaken] at honce
  cases honce

end Tunnel

end BcuSdk.Eibd
