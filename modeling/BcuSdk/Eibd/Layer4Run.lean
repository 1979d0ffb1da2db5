/-
  BcuSdk.Eibd.Layer4Run

  A `T_Connection` over its whole life, against any peer
  (eibd/libserver/layer4.cpp).

  `ConnRun` keeps beside the connection what it has put into `out` and what it
  has acknowledged, what `Send` was given, what has been transmitted and which
  `T_ACK` has taken which payload from `in`.  `step_next` says what each event
  adds to that.  The sending side keeps all its promises (`sends_exactly`); the
  receiving side acknowledges only what it has delivered, unless the very first
  data telegram has the number 15 (`acksDelivered_iff`).
-/
import BcuSdk.Eibd.Layer4Pair

namespace BcuSdk.Eibd

open BcuSdk.Lib
open ConnPair (number number_succ number_pred)

/-! ## Runs -/

/-- What can happen to a `T_Connection`: `Send`, the beginning of `Run`, and a turn of its loop. -/
inductive RunEvent where
  | send (c : CArray)
  | start
  | turn (e : TEvent)
  deriving DecidableEq, Repr

/-- A payload put into `out`, with the TPDU that brought it. -/
structure Delivery where
  tpdu : Option TPDU
  payload : CArray
  deriving DecidableEq, Repr

/-- A `T_ACK` sent, and the payload that was put into `out` last at that time. -/
structure SentAck where
  number : Byte
  latest : Option Delivery
  deriving DecidableEq, Repr

/-- A `T_DATA_CONNECTED_REQ` sent; `index` says how many payloads had left `in` by then. -/
structure Transmission where
  index : Nat
  number : Byte
  tpdu : CArray
  deriving DecidableEq, Repr

/-- A payload taken from `in`, with the TPDU that did it. -/
structure Removal where
  tpdu : Option TPDU
  payload : CArray
  deriving DecidableEq, Repr

/-- A connection and what it has done so far. -/
structure ConnRun where
  conn : TConnection
  started : Bool := false
  delivered : List Delivery := []
  acks : List SentAck := []
  queued : List CArray := []
  sent : List Transmission := []
  removed : List Removal := []

namespace ConnRun

/-- An action of a turn enters the record. -/
def note (e : TEvent) (r : ConnRun) : TAction → ConnRun
  | .out payload => { r with delivered := r.delivered ++ [⟨e.received, payload⟩] }
  | .sendLData l =>
      match TPDU.fromPacket l.data with
      | .tAck number => { r with acks := r.acks ++ [⟨number, r.delivered.getLast?⟩] }
      | .tDataConnectedReq number _ =>
          { r with sent := r.sent ++ [⟨r.removed.length, number, l.data⟩] }
      | _ => r
  | .acked payload => { r with removed := r.removed ++ [⟨e.received, payload⟩] }
  -- the empty array that ends `out` is no payload
  | .ended => r

def step (r : ConnRun) : RunEvent → Checked ConnRun
  | .send c => .ok { r with conn := r.conn.send c, queued := r.queued ++ [c] }
  | .start =>
      -- the thread runs once
      if r.started then .ok r
      else do
        let (conn, _) ← r.conn.start
        return { r with conn, started := true }
  | .turn e => do
      let (conn, actions) ← r.conn.iterate e
      return actions.foldl (note e) { r with conn }

/-- A connection that has just been constructed. -/
def fresh (dest : EibAddr) : ConnRun where
  conn := { dest }

/-! ## What an event adds -/

/-- The event brings no data telegram that would be acknowledged. -/
def Silent (r : ConnRun) (e : RunEvent) : Prop :=
  ∀ te, e = .turn te → ¬ r.conn.Acknowledges te

/-- What an event can lead to. -/
inductive Next (r : ConnRun) (e : RunEvent) : ConnRun → Prop where
  | queues {c : CArray} (event : e = .send c) :
      Next r e { r with conn := r.conn.send c, queued := r.queued ++ [c] }
  | starts (event : e = .start) (first : r.started = false) :
      Next r e { r with
        conn := { r.conn with mode := .idle, sendno := 0#8, recvno := 0#8, repcount := 0 }
        started := true }
  | nothing (silent : r.Silent e) : Next r e r
  | closes (silent : r.Silent e) : Next r e { r with conn := { r.conn with mode := .closed } }
  | delivers {te : TEvent} {d : CArray} (event : e = .turn te)
      (opened : r.conn.mode ≠ .closed)
      (tpdu : te.received = some (.tDataConnectedReq r.conn.recvno d)) :
      Next r e { r with
        conn := { r.conn with recvno := (r.conn.recvno + 1#8) &&& 0x0f#8 }
        delivered := r.delivered ++ [⟨te.received, maskHead d⟩]
        acks := r.acks ++ [⟨r.conn.recvno, some ⟨te.received, maskHead d⟩⟩] }
  | repeatsAck {te : TEvent} {d : CArray} {n : Byte} (event : e = .turn te)
      (opened : r.conn.mode ≠ .closed)
      (tpdu : te.received = some (.tDataConnectedReq n d))
      (number : n = (r.conn.recvno - 1#8) &&& 0x0f#8) :
      Next r e { r with acks := r.acks ++ [⟨n, r.delivered.getLast?⟩] }
  | dequeues {te : TEvent} {c : CArray} {rest : List CArray} (silent : r.Silent e)
      (tpdu : te.received = some (.tAck r.conn.sendno)) (mode : r.conn.mode = .ackWait)
      (queue : r.conn.inq = c :: rest) :
      Next r e { r with
        conn := { r.conn with
          mode := .idle, inq := rest, sendno := (r.conn.sendno + 1#8) &&& 0x0f#8 }
        removed := r.removed ++ [⟨te.received, c⟩] }
  | sends {c : CArray} {rest : List CArray} (silent : r.Silent e) (mode : r.conn.mode = .idle)
      (queue : r.conn.inq = c :: rest) :
      Next r e { r with
        conn := { r.conn with repcount := 0, insem := r.conn.insem - 1, mode := .ackWait }
        sent := r.sent ++
          [⟨r.removed.length, r.conn.sendno, connectedBytes r.conn.sendno c⟩] }
  | repeats {c : CArray} {rest : List CArray} (silent : r.Silent e)
      (mode : r.conn.mode = .ackWait) (count : r.conn.repcount < 3)
      (queue : r.conn.inq = c :: rest) :
      Next r e { r with
        conn := { r.conn with repcount := r.conn.repcount + 1 }
        sent := r.sent ++
          [⟨r.removed.length, r.conn.sendno, connectedBytes r.conn.sendno c⟩] }

variable {r r' : ConnRun} {e : RunEvent}

theorem note_ack {te : TEvent} {s : TConnection} {n : Byte} (hn : n < 16#8) :
    note te r (s.frame .low (ackBytes n)) =
      { r with acks := r.acks ++ [⟨n, r.delivered.getLast?⟩] } := by
  simp only [note, TConnection.frame, TPDU.fromPacket_ackBytes hn]

theorem note_data {te : TEvent} {s : TConnection} {n : Byte} (hn : n < 16#8) {c : CArray}
    (hc : c ≠ []) :
    note te r (s.frame .low (connectedBytes n c)) =
      { r with sent := r.sent ++ [⟨r.removed.length, n, connectedBytes n c⟩] } := by
  simp only [note, TConnection.frame, TPDU.fromPacket_connectedBytes hn hc]

/-- What a turn adds to the record. -/
theorem next_of_turn {te : TEvent} {conn : TConnection} {actions : List TAction}
    (hs : r.conn.Sound) (h : TConnection.Turn r.conn te (.ok (conn, actions))) :
    Next r (.turn te) (actions.foldl (note te) { r with conn }) := by
  have hsilent (silent : ¬ r.conn.Acknowledges te) : r.Silent (.turn te) := by
    intro te' hte
    cases hte
    exact silent
  cases h with
  | nothing silent => exact .nothing (hsilent silent)
  | closes silent => exact .closes (hsilent silent)
  | @delivers d opened tpdu =>
      -- the payload is recorded first, so the `T_ACK` finds it as the latest
      have h := Next.delivers (r := r) rfl opened tpdu
      rw [List.foldl_cons, List.foldl_cons, List.foldl_nil, note, note_ack hs.recvno]
      simpa only [List.getLast?_concat] using h
  | @repeatsAck d n opened tpdu number =>
      have hn : n < 16#8 := number ▸ TConnection.previous_lt_16 _
      rw [List.foldl_cons, List.foldl_nil, note_ack hn]
      exact .repeatsAck rfl opened tpdu number
  | dequeues silent tpdu mode queue => exact .dequeues (hsilent silent) tpdu mode queue
  | sends silent mode queue payload =>
      rw [List.foldl_cons, List.foldl_nil, note_data hs.sendno payload]
      exact .sends (hsilent silent) mode queue
  | repeats silent mode count queue payload =>
      rw [List.foldl_cons, List.foldl_nil, note_data hs.sendno payload]
      exact .repeats (hsilent silent) mode count queue

theorem silent_of_ne_turn (h : ∀ te, e ≠ .turn te) : r.Silent e :=
  fun te hte => absurd hte (h te)

theorem step_next (hs : r.conn.Sound) (h : r.step e = .ok r') : Next r e r' := by
  cases e with
  | send c =>
      cases h
      exact .queues rfl
  | start =>
      rw [step] at h
      split at h
      · cases h
        exact .nothing (silent_of_ne_turn fun te hte => by cases hte)
      · next hfirst =>
        cases h
        exact .starts rfl (Bool.not_eq_true _ ▸ hfirst)
  | turn te =>
      obtain ⟨⟨conn, actions⟩, hturn, h⟩ := Checked.bind_eq_ok.mp h
      cases h
      have h := TConnection.iterate_turn hs te
      rw [hturn] at h
      exact next_of_turn hs h

/-- Only a turn can stop, and one that does has found an empty payload in front of `in`. -/
theorem step_fault (hs : r.conn.Sound) {f : Fault} (h : r.step e = .error f) :
    r.Silent e ∧ ∃ rest, r.conn.inq = [] :: rest := by
  cases e with
  | send c => cases h
  | start =>
      rw [step] at h
      split at h <;> cases h
  | turn te =>
      have hturn := TConnection.iterate_turn hs te
      rcases hiterate : r.conn.iterate te with f' | ⟨conn, actions⟩
      · rw [hiterate] at hturn
        cases hturn with
        | faults silent queue =>
          refine ⟨fun te' hte => ?_, _, queue⟩
          cases hte
          exact silent
      · rw [step, hiterate] at h
        cases h

/-- The record has no influence on the connection. -/
theorem note_conn (te : TEvent) (r : ConnRun) (a : TAction) : (note te r a).conn = r.conn := by
  cases a with
  | sendLData l =>
      rw [note]
      split <;> rfl
  | out => rfl
  | acked => rfl
  | ended => rfl

theorem foldl_note_conn (te : TEvent) (r : ConnRun) (actions : List TAction) :
    (actions.foldl (note te) r).conn = r.conn := by
  induction actions generalizing r with
  | nil => rfl
  | cons a actions ih => rw [List.foldl_cons, ih, note_conn]

/-! ## The invariant -/

/-- Before `Run` begins nothing has been received or sent. -/
structure Unstarted (r : ConnRun) : Prop where
  closed : r.conn.mode = .closed
  counted : r.conn.insem = r.conn.inq.length
  delivered : r.delivered = []
  removed : r.removed = []

/-- Both numbers count, modulo 16, what has gone through since `Run` began. -/
structure Inv (r : ConnRun) : Prop where
  sound : r.conn.Sound
  unstarted : r.started = false → r.Unstarted
  recvno : r.conn.recvno = number r.delivered.length
  sendno : r.conn.sendno = number r.removed.length
  latest : ∀ last, r.delivered.getLast? = some last →
    ∃ d, last = ⟨some (.tDataConnectedReq ((r.conn.recvno - 1#8) &&& 0x0f#8) d), maskHead d⟩

theorem Unstarted.sound (h : r.Unstarted) :
    ({ r.conn with mode := .idle, sendno := 0#8, recvno := 0#8, repcount := 0 } :
      TConnection).Sound :=
  ⟨show 0#8 < 16#8 by decide, show 0#8 < 16#8 by decide, fun _ => h.counted, nofun⟩

theorem sound_send {s : TConnection} (h : s.Sound) (c : CArray) : (s.send c).Sound := by
  refine ⟨h.sendno, h.recvno, fun hidle => ?_, fun hwaiting => ?_⟩
  · rw [TConnection.send, List.length_append, ← h.idle hidle]
    rfl
  · rw [TConnection.send, List.length_append, ← h.waiting hwaiting]
    rfl

theorem Inv.sound_step (h : Inv r) (hstep : r.step e = .ok r') : r'.conn.Sound := by
  cases e with
  | send c =>
      cases hstep
      exact sound_send h.sound c
  | start =>
      rw [step] at hstep
      split at hstep
      · cases hstep
        exact h.sound
      · next hfirst =>
        cases hstep
        exact (h.unstarted (Bool.not_eq_true _ ▸ hfirst)).sound
  | turn te =>
      obtain ⟨⟨conn, actions⟩, hturn, hstep⟩ := Checked.bind_eq_ok.mp hstep
      cases hstep
      have hsound := TConnection.iterate_turn h.sound te
      rw [hturn] at hsound
      rw [foldl_note_conn]
      exact hsound.sound h.sound

theorem Inv.step (h : Inv r) (hstep : r.step e = .ok r') : Inv r' := by
  have hsound := h.sound_step hstep
  -- a connection that is open has been started
  have hopen (hmode : r.conn.mode ≠ .closed) (P : Prop) (hfirst : r.started = false) : P :=
    absurd (h.unstarted hfirst).closed hmode
  cases step_next h.sound hstep with
  | @queues c =>
      refine ⟨hsound, fun hfirst => ?_, h.recvno, h.sendno, h.latest⟩
      have hu := h.unstarted hfirst
      refine ⟨hu.closed, ?_, hu.delivered, hu.removed⟩
      rw [TConnection.send, List.length_append, ← hu.counted]
      rfl
  | starts _ hfirst =>
      have hu := h.unstarted hfirst
      refine ⟨hsound, (fun hstarted => by cases hstarted), ?_, ?_, fun last hlast => ?_⟩
      · rw [hu.delivered]
        rfl
      · rw [hu.removed]
        rfl
      · rw [hu.delivered] at hlast
        cases hlast
  | nothing => exact h
  | closes =>
      refine ⟨hsound, fun hfirst => ?_, h.recvno, h.sendno, h.latest⟩
      have hu := h.unstarted hfirst
      exact ⟨rfl, hu.counted, hu.delivered, hu.removed⟩
  | @delivers te d _ opened tpdu =>
      -- the number behind the one delivered now
      have hrecvno : (r.conn.recvno + 1#8) &&& 0x0f#8 = number (r.delivered.length + 1) := by
        rw [h.recvno, number_succ]
      refine ⟨hsound, hopen opened _, ?_, h.sendno, fun last hlast => ?_⟩
      · rw [List.length_append]
        exact hrecvno
      · rw [List.getLast?_concat] at hlast
        refine ⟨d, ?_⟩
        rw [hrecvno, number_pred, ← h.recvno, ← tpdu]
        exact (Option.some.inj hlast).symm
  | repeatsAck _ opened => exact ⟨hsound, hopen opened _, h.recvno, h.sendno, h.latest⟩
  | dequeues _ _ mode =>
      refine ⟨hsound, hopen (by rw [mode]; decide) _, h.recvno, ?_, h.latest⟩
      rw [List.length_append, h.sendno, number_succ]
      rfl
  | sends _ mode =>
      exact ⟨hsound, hopen (by rw [mode]; decide) _, h.recvno, h.sendno, h.latest⟩
  | repeats _ mode =>
      exact ⟨hsound, hopen (by rw [mode]; decide) _, h.recvno, h.sendno, h.latest⟩

theorem fresh_inv (dest : EibAddr) : Inv (fresh dest) where
  sound := ⟨show 0#8 < 16#8 by decide, show 0#8 < 16#8 by decide, nofun, nofun⟩
  unstarted _ := ⟨rfl, rfl, rfl, rfl⟩
  recvno := rfl
  sendno := rfl
  latest := nofun

/-! ## The receiving side -/

/-- Each `T_ACK` carries the number of the data telegram whose payload was put into `out` last. -/
def AcksDelivered (r : ConnRun) : Prop :=
  ∀ a ∈ r.acks, ∃ d, a.latest = some ⟨some (.tDataConnectedReq a.number d), maskHead d⟩

/-- The first data telegram of the connection has the number 15. -/
def EarlyRepeat (r : ConnRun) (e : RunEvent) : Prop :=
  r.conn.mode ≠ .closed ∧ r.delivered = [] ∧
    ∃ te d, e = .turn te ∧ te.received = some (.tDataConnectedReq 15#8 d)

/-- It is taken for the repetition of one before. -/
theorem Inv.not_silent (h : Inv r) (hearly : r.EarlyRepeat e) : ¬ r.Silent e := by
  obtain ⟨hopen, hnone, te, d, rfl, htpdu⟩ := hearly
  intro hsilent
  refine hsilent te rfl ⟨hopen, 15#8, d, htpdu, .inr ?_⟩
  rw [h.recvno, hnone]
  rfl

theorem acksDelivered_snoc {a : SentAck} (h : r.AcksDelivered)
    (hacks : r'.acks = r.acks ++ [a]) :
    r'.AcksDelivered ↔
      ∃ d, a.latest = some ⟨some (.tDataConnectedReq a.number d), maskHead d⟩ := by
  rw [AcksDelivered, hacks, List.forall_mem_append, List.forall_mem_singleton]
  exact and_iff_right h

theorem Inv.acksDelivered_step (h : Inv r) (hacks : r.AcksDelivered)
    (hstep : r.step e = .ok r') : r'.AcksDelivered ↔ ¬ r.EarlyRepeat e := by
  cases step_next h.sound hstep with
  | queues event =>
      subst event
      exact iff_of_true hacks fun hearly => h.not_silent hearly (silent_of_ne_turn nofun)
  | starts event =>
      subst event
      exact iff_of_true hacks fun hearly => h.not_silent hearly (silent_of_ne_turn nofun)
  | nothing silent => exact iff_of_true hacks fun hearly => h.not_silent hearly silent
  | closes silent => exact iff_of_true hacks fun hearly => h.not_silent hearly silent
  | @delivers te d event opened tpdu =>
      rw [acksDelivered_snoc hacks rfl]
      refine iff_of_true ⟨d, by rw [tpdu]⟩ ?_
      -- the number expected first is 0
      rintro ⟨-, hnone, te', d', hte, htpdu⟩
      cases event.symm.trans hte
      have hnumber : r.conn.recvno = 15#8 :=
        (TPDU.tDataConnectedReq.inj (Option.some.inj (tpdu.symm.trans htpdu))).1
      rw [h.recvno, hnone] at hnumber
      exact absurd hnumber (by decide)
  | @repeatsAck te d n event opened tpdu number =>
      rw [acksDelivered_snoc hacks rfl]
      rcases hlast : r.delivered.getLast? with _ | last
      · -- nothing has been delivered, and the telegram has the number before 0
        have hnone := List.getLast?_eq_none_iff.mp hlast
        have hearly : r.EarlyRepeat e := by
          refine ⟨opened, hnone, te, d, event, ?_⟩
          rw [tpdu, number, h.recvno, hnone]
          rfl
        exact iff_of_false (fun ⟨_, h⟩ => by cases h) (not_not.mpr hearly)
      · -- a real repetition: the payload before had this number
        obtain ⟨d', rfl⟩ := h.latest last hlast
        refine iff_of_true ⟨d', by rw [number]⟩ fun hearly => ?_
        rw [hearly.2.1] at hlast
        cases hlast
  | dequeues silent => exact iff_of_true hacks fun hearly => h.not_silent hearly silent
  | sends silent => exact iff_of_true hacks fun hearly => h.not_silent hearly silent
  | repeats silent => exact iff_of_true hacks fun hearly => h.not_silent hearly silent

/-- Over a whole run: a connection acknowledges only what it has delivered, as long as the first
    data telegram has not the number 15. -/
theorem acksDelivered_iff (dest : EibAddr) (es : List RunEvent) :
    HoldsAlong ConnRun.step AcksDelivered (fresh dest) es ↔
      StepsMeet ConnRun.step (fun r e => ¬ r.EarlyRepeat e) (fresh dest) es := by
  refine holdsAlong_iff (E := fun _ => True) (fun r e r' (h : Inv r) _ => h.step) ?_
    (fun r e r' h hacks _ => h.acksDelivered_step hacks) (fun _ _ => trivial) (fresh_inv dest)
    (fun a ha => by cases ha)
  -- a turn that stops was not about a data telegram
  intro r e h _ _ hfault hearly
  rcases hstep : r.step e with f | r'
  · exact h.not_silent hearly (step_fault h.sound hstep).1
  · exact hfault r' hstep

/-- The data telegram with number 15 and payload 00 80. -/
def data15 : CArray := connectedBytes 15#8 [0x00#8, 0x80#8]

theorem acksDelivered_fails_15 :
    ¬ HoldsAlong ConnRun.step AcksDelivered (fresh 0#16) [.start, .turn (.buf data15)] := by
  intro h
  have hacks := h [_, _] [] _ rfl rfl
  obtain ⟨d, hd⟩ := hacks ⟨15#8, none⟩ (by decide)
  cases hd

/-! ## The sending side -/

/-- How often the payload with this index has been transmitted. -/
def tries (r : ConnRun) (i : Nat) : Nat := r.sent.countP (·.index = i)

/-- Payload `i` has been removed by the `T_ACK` with its number. -/
def TakenByAck (r : ConnRun) : Prop :=
  ∀ (i : Nat) (removal : Removal), r.removed[i]? = some removal →
    removal.tpdu = some (.tAck (number i))

/-- What has been transmitted are queued payloads, each with its own number. -/
def SentAsNumbered (r : ConnRun) : Prop :=
  ∀ t ∈ r.sent, t.number = number t.index ∧
    ∃ c, r.queued[t.index]? = some c ∧ t.tpdu = connectedBytes t.number c

/-- What the sending side of a connection promises. -/
structure SendsExactly (r : ConnRun) : Prop where
  /-- While a payload waits for its `T_ACK` it is still in `in`, and only it has been counted. -/
  waiting : r.conn.mode = .ackWait →
    r.conn.inq ≠ [] ∧ r.conn.insem = r.conn.inq.length - 1
  idle : r.conn.mode = .idle → r.conn.insem = r.conn.inq.length
  /-- A turn stops at no other assertion than the one about an empty payload, so that `in.top` and
      `in.get` never find the queue empty. -/
  faults : ∀ e f, r.conn.iterate e = .error f → ∃ rest, r.conn.inq = [] :: rest
  /-- Payloads leave `in` in their order. -/
  queued : r.queued = r.removed.map (·.payload) ++ r.conn.inq
  removed : r.TakenByAck
  sent : r.SentAsNumbered
  tries : ∀ i, r.tries i ≤ 4

/-- What is known about the transmissions besides. -/
structure SendInv (r : ConnRun) : Prop where
  inv : r.Inv
  unstarted : r.started = false → r.sent = []
  queued : r.queued = r.removed.map (·.payload) ++ r.conn.inq
  removed : r.TakenByAck
  sent : r.SentAsNumbered
  /-- Nothing behind the front of `in` has been transmitted. -/
  front : ∀ t ∈ r.sent, t.index ≤ r.removed.length
  tries : ∀ i, r.tries i ≤ 4
  idle : r.conn.mode = .idle → r.tries r.removed.length = 0
  waiting : r.conn.mode = .ackWait → r.tries r.removed.length = r.conn.repcount + 1

theorem SendInv.exact (h : SendInv r) : SendsExactly r where
  waiting hmode := by
    obtain ⟨c, rest, hq⟩ := h.inv.sound.queue_of_waiting hmode
    have hsem := h.inv.sound.waiting hmode
    exact ⟨by rw [hq]; exact List.cons_ne_nil _ _, by omega⟩
  idle := h.inv.sound.idle
  faults e f hf := by
    have hturn := TConnection.iterate_turn h.inv.sound e
    rw [hf] at hturn
    cases hturn with
    | faults _ queue => exact ⟨_, queue⟩
  queued := h.queued
  removed := h.removed
  sent := h.sent
  tries := h.tries

/-- More payloads in the queue make no difference to those transmitted. -/
theorem SentAsNumbered.queues (h : r.SentAsNumbered) {c : CArray} (hsent : r'.sent = r.sent)
    (hqueued : r'.queued = r.queued ++ [c]) : r'.SentAsNumbered := by
  rw [SentAsNumbered, hsent, hqueued]
  intro t ht
  obtain ⟨hnumber, c', hc', htpdu⟩ := h t ht
  refine ⟨hnumber, c', ?_, htpdu⟩
  rw [List.getElem?_append_left (List.getElem?_eq_some_iff.mp hc').1, hc']

/-- One more transmission of the payload in front of `in`. -/
theorem tries_snoc {t : Transmission} (hsent : r'.sent = r.sent ++ [t]) (i : Nat) :
    r'.tries i = r.tries i + if t.index = i then 1 else 0 := by
  rw [ConnRun.tries, hsent, List.countP_append, List.countP_singleton]
  simp only [decide_eq_true_eq]
  rfl

/-- A transmission of the payload in front of `in`, the first one or a repetition. -/
theorem SendInv.transmit {c : CArray} {rest : List CArray} {repcount : Nat} (insem : Nat)
    {r' : ConnRun} (h : SendInv r) (hinv : r'.Inv) (hopen : r.conn.mode ≠ .closed)
    (hq : r.conn.inq = c :: rest)
    (hr' : r' = { r with
      conn := { r.conn with mode := .ackWait, repcount, insem }
      sent := r.sent ++ [⟨r.removed.length, r.conn.sendno, connectedBytes r.conn.sendno c⟩] })
    (htries : r.tries r.removed.length = repcount) (hcount : repcount ≤ 3) : SendInv r' := by
  have hqueued : r.queued[r.removed.length]? = some c := by
    rw [h.queued, hq, ← List.length_map, List.getElem?_append_right le_rfl, Nat.sub_self]
    rfl
  have hsent : r'.sent =
      r.sent ++ [⟨r.removed.length, r.conn.sendno, connectedBytes r.conn.sendno c⟩] := by
    rw [hr']
  have hsnoc (i : Nat) : r'.tries i = r.tries i + if r.removed.length = i then 1 else 0 :=
    tries_snoc hsent i
  subst hr'
  refine ⟨hinv, fun hfirst => absurd (h.inv.unstarted hfirst).closed hopen, h.queued, h.removed,
    ?_, ?_, fun i => ?_, nofun, fun _ => ?_⟩
  · refine List.forall_mem_append.mpr ⟨h.sent, List.forall_mem_singleton.mpr ?_⟩
    exact ⟨h.inv.sendno, c, hqueued, rfl⟩
  · exact List.forall_mem_append.mpr ⟨h.front, List.forall_mem_singleton.mpr le_rfl⟩
  · -- only the payload in front is counted once more
    rw [hsnoc]
    split
    · next hi =>
      rw [← hi, htries]
      omega
    · exact h.tries i
  · rw [hsnoc, if_pos rfl]
    show r.tries r.removed.length + 1 = repcount + 1
    rw [htries]

theorem SendInv.step (h : SendInv r) (hstep : r.step e = .ok r') : SendInv r' := by
  have hinv := h.inv.step hstep
  cases step_next h.inv.sound hstep with
  | @queues c =>
      refine ⟨hinv, h.unstarted, ?_, h.removed, h.sent.queues rfl rfl, h.front, h.tries, h.idle,
        h.waiting⟩
      rw [h.queued, List.append_assoc]
      rfl
  | starts _ hfirst =>
      have hnone := h.unstarted hfirst
      refine ⟨hinv, nofun, h.queued, h.removed, h.sent, h.front, h.tries, fun _ => ?_, nofun⟩
      show r.sent.countP _ = 0
      rw [hnone]
      rfl
  | nothing => exact h
  | closes =>
      exact ⟨hinv, h.unstarted, h.queued, h.removed, h.sent, h.front, h.tries, nofun, nofun⟩
  | delivers => exact ⟨hinv, h.unstarted, h.queued, h.removed, h.sent, h.front, h.tries, h.idle,
      h.waiting⟩
  | repeatsAck => exact ⟨hinv, h.unstarted, h.queued, h.removed, h.sent, h.front, h.tries, h.idle,
      h.waiting⟩
  | @dequeues te c rest _ tpdu mode queue =>
      have hlength : (r.removed ++ [(⟨te.received, c⟩ : Removal)]).length =
          r.removed.length + 1 := List.length_append
      refine ⟨hinv, h.unstarted, ?_, ?_, h.sent, fun t ht => ?_, h.tries, fun _ => ?_, nofun⟩
      · rw [h.queued, queue, List.map_append, List.append_assoc]
        rfl
      · intro i removal hi
        rcases Nat.lt_or_ge i r.removed.length with hlt | hge
        · exact h.removed i removal (by rwa [List.getElem?_append_left hlt] at hi)
        · -- the payload removed now is the one in front
          have hlt : i < (r.removed ++ [(⟨te.received, c⟩ : Removal)]).length :=
            (List.getElem?_eq_some_iff.mp hi).1
          obtain rfl : i = r.removed.length := by omega
          rw [List.getElem?_concat_length] at hi
          rw [← Option.some.inj hi, ← h.inv.sendno]
          exact tpdu
      · show t.index ≤ (r.removed ++ [(⟨te.received, c⟩ : Removal)]).length
        rw [hlength]
        exact Nat.le_succ_of_le (h.front t ht)
      · -- the next payload has not been transmitted yet
        show r.sent.countP (·.index = (r.removed ++ [(⟨te.received, c⟩ : Removal)]).length) = 0
        rw [hlength, List.countP_eq_zero]
        intro t ht
        rw [decide_eq_true_eq]
        exact Nat.ne_of_lt (Nat.lt_succ_of_le (h.front t ht))
  | sends _ mode queue =>
      exact h.transmit (r.conn.insem - 1) hinv (by rw [mode]; decide) queue rfl (h.idle mode)
        (Nat.zero_le 3)
  | repeats _ mode count queue =>
      refine h.transmit r.conn.insem hinv (by rw [mode]; decide) queue ?_ (h.waiting mode) count
      rw [← mode]

theorem fresh_sendInv (dest : EibAddr) : SendInv (fresh dest) where
  inv := fresh_inv dest
  unstarted _ := rfl
  queued := rfl
  removed := nofun
  sent := nofun
  front := nofun
  tries _ := Nat.zero_le 4
  idle := nofun
  waiting := nofun

/-- Over a whole run, whatever the peer and the callers of `Send` do. -/
theorem sends_exactly (dest : EibAddr) (es : List RunEvent) :
    HoldsAlong ConnRun.step SendsExactly (fresh dest) es :=
  holdsAlong_of_invariant (fun _ _ _ (h : SendInv _) hstep => h.step hstep)
    (fun _ => SendInv.exact) (fresh_sendInv dest) es

end ConnRun

end BcuSdk.Eibd
