/-
  BcuSdk.Eibd.Layer4Turn

  What one turn of `T_Connection::Run` can do.

  `TConnection.Sound` is what holds between two turns.  `iterate_turn` is the
  inversion lemma of a turn: it ends in one of eight ways, of which one is the
  assertion about an empty payload.  A `Ready` connection has no such payload,
  and its turns return with one of the six outcomes of `iterate_outcome`.
-/
import BcuSdk.Eibd.Layer4

namespace BcuSdk.Eibd

open BcuSdk.Lib

/-! ## The TPDUs a connection sends -/

/-- The payload with the transport control bits cleared. -/
def maskHead (c : CArray) : CArray := c.modifyHead (· &&& 0x03#8)

/-- `T_ACK_PDU::ToPacket`. -/
def ackBytes (n : Byte) : CArray := [0xC2#8 ||| ((n &&& 0x0f#8) <<< 2)]

/-- `T_DATA_CONNECTED_REQ_PDU::ToPacket`. -/
def connectedBytes (n : Byte) (c : CArray) : CArray :=
  c.modifyHead fun d => (d &&& 0x03#8) ||| 0x40#8 ||| ((n &&& 0x0f#8) <<< 2)

theorem TPDU.fromPacket_ackBytes {n : Byte} (hn : n < 16#8) :
    TPDU.fromPacket (ackBytes n) = .tAck n :=
  TPDU.fromPacket_ackByte hn

theorem TPDU.fromPacket_connectedBytes {n : Byte} (hn : n < 16#8) {c : CArray} (hc : c ≠ []) :
    TPDU.fromPacket (connectedBytes n c) = .tDataConnectedReq n (connectedBytes n c) := by
  cases c with
  | nil => exact absurd rfl hc
  | cons d rest =>
      simp only [connectedBytes, List.modifyHead_cons, fromPacket, known, classOf_connected,
        Option.bind_some, tDataConnectedReqInit, sernoOf_connectedByte hn, Option.getD_some]

@[simp] theorem maskHead_connectedBytes (n : Byte) (c : CArray) :
    maskHead (connectedBytes n c) = maskHead c := by
  cases c with
  | nil => rfl
  | cons d rest =>
      simp only [maskHead, connectedBytes, List.modifyHead_cons, connectedByte_and_03]

namespace TConnection

theorem sendAck_eq {s : TConnection} {n : Byte} (hn : n < 16#8) :
    s.sendAck n = .ok (s.frame .low (ackBytes n)) := by
  simp [sendAck, TPDU.toPacket, and_f0_of_lt_16 hn, ackBytes]

theorem sendData_eq {s : TConnection} {n : Byte} (hn : n < 16#8) {c : CArray} (hc : c ≠ []) :
    s.sendData n c = .ok (s.frame .low (connectedBytes n c)) := by
  have hpos : 0 < c.length := List.length_pos_of_ne_nil hc
  simp [sendData, TPDU.decode, TPDU.toPacket, and_f0_of_lt_16 hn, APDU.decode_fromPacket, hpos,
    connectedBytes]

theorem sendDisconnect_eq (s : TConnection) :
    s.sendDisconnect = .ok (s.frame .system [0x81#8]) := rfl

/-! ## Between two turns -/

/-- What holds between two turns: the numbers are 4-bit, and while the loop runs `insem` counts
    the payloads that have not been sent. -/
structure Sound (s : TConnection) : Prop where
  sendno : s.sendno < 16#8
  recvno : s.recvno < 16#8
  idle : s.mode = .idle → s.insem = s.inq.length
  waiting : s.mode = .ackWait → s.insem + 1 = s.inq.length

/-- A sound connection in which no payload is empty. -/
structure Ready (s : TConnection) : Prop where
  sendno : s.sendno < 16#8
  recvno : s.recvno < 16#8
  nonempty : ∀ c ∈ s.inq, c ≠ []
  idle : s.mode = .idle → s.insem = s.inq.length
  waiting : s.mode = .ackWait → s.insem + 1 = s.inq.length

theorem Ready.sound {s : TConnection} (h : s.Ready) : s.Sound :=
  ⟨h.sendno, h.recvno, h.idle, h.waiting⟩

theorem next_lt_16 (n : Byte) : (n + 1#8) &&& 0x0f#8 < 16#8 :=
  Nat.lt_succ_of_le (toNat_and_le (n + 1#8) 0x0f#8)

theorem previous_lt_16 (n : Byte) : (n - 1#8) &&& 0x0f#8 < 16#8 :=
  Nat.lt_succ_of_le (toNat_and_le (n - 1#8) 0x0f#8)

end TConnection

/-- The TPDU that a turn takes from `buf`. -/
def TEvent.received : TEvent → Option TPDU
  | .buf data => some (TPDU.fromPacket data)
  | _ => none

theorem TEvent.received_eq_some {e : TEvent} {t : TPDU} (h : e.received = some t) :
    ∃ data, e = .buf data ∧ TPDU.fromPacket data = t := by
  cases e with
  | buf data => exact ⟨data, rfl, Option.some.inj h⟩
  | input => cases h
  | timeout => cases h
  | stop => cases h

namespace TConnection

/-- A data telegram with the number expected, or with the one before, comes in. -/
def Acknowledges (s : TConnection) (e : TEvent) : Prop :=
  s.mode ≠ .closed ∧ ∃ n d, e.received = some (.tDataConnectedReq n d) ∧
    (n = s.recvno ∨ n = (s.recvno - 1#8) &&& 0x0f#8)

/-- How a turn can end. -/
inductive Turn (s : TConnection) (e : TEvent) : Checked (TConnection × List TAction) → Prop where
  | nothing (silent : ¬ s.Acknowledges e) : Turn s e (.ok (s, []))
  | closes (silent : ¬ s.Acknowledges e) :
      Turn s e (.ok ({ s with mode := .closed }, [s.frame .system [0x81#8], .ended]))
  | delivers {d : CArray} (opened : s.mode ≠ .closed)
      (tpdu : e.received = some (.tDataConnectedReq s.recvno d)) :
      Turn s e (.ok ({ s with recvno := (s.recvno + 1#8) &&& 0x0f#8 },
        [.out (maskHead d), s.frame .low (ackBytes s.recvno)]))
  | repeatsAck {d : CArray} {n : Byte} (opened : s.mode ≠ .closed)
      (tpdu : e.received = some (.tDataConnectedReq n d))
      (number : n = (s.recvno - 1#8) &&& 0x0f#8) :
      Turn s e (.ok (s, [s.frame .low (ackBytes n)]))
  | dequeues {c : CArray} {rest : List CArray} (silent : ¬ s.Acknowledges e)
      (tpdu : e.received = some (.tAck s.sendno)) (mode : s.mode = .ackWait)
      (queue : s.inq = c :: rest) :
      Turn s e (.ok ({ s with mode := .idle, inq := rest, sendno := (s.sendno + 1#8) &&& 0x0f#8 },
        [.acked c]))
  | sends {c : CArray} {rest : List CArray} (silent : ¬ s.Acknowledges e) (mode : s.mode = .idle)
      (queue : s.inq = c :: rest) (payload : c ≠ []) :
      Turn s e (.ok ({ s with repcount := 0, insem := s.insem - 1, mode := .ackWait },
        [s.frame .low (connectedBytes s.sendno c)]))
  | repeats {c : CArray} {rest : List CArray} (silent : ¬ s.Acknowledges e)
      (mode : s.mode = .ackWait) (count : s.repcount < 3) (queue : s.inq = c :: rest)
      (payload : c ≠ []) :
      Turn s e (.ok ({ s with repcount := s.repcount + 1 },
        [s.frame .low (connectedBytes s.sendno c)]))
  | faults {f : Fault} {rest : List CArray} (silent : ¬ s.Acknowledges e)
      (queue : s.inq = [] :: rest) : Turn s e (.error f)

/-- The outcomes of a turn. -/
inductive Outcome (s : TConnection) (e : TEvent) : TConnection → List TAction → Prop where
  | nothing : Outcome s e s []
  | closes : Outcome s e { s with mode := .closed } [s.frame .system [0x81#8], .ended]
  | delivers {data d : CArray} (event : e = .buf data)
      (tpdu : TPDU.fromPacket data = .tDataConnectedReq s.recvno d) :
      Outcome s e { s with recvno := (s.recvno + 1#8) &&& 0x0f#8 }
        [.out (maskHead d), s.frame .low (ackBytes s.recvno)]
  | repeatsAck {data d : CArray} {n : Byte} (event : e = .buf data)
      (tpdu : TPDU.fromPacket data = .tDataConnectedReq n d)
      (number : n = (s.recvno - 1#8) &&& 0x0f#8) :
      Outcome s e s [s.frame .low (ackBytes n)]
  | dequeues {data c : CArray} {rest : List CArray} (event : e = .buf data)
      (tpdu : TPDU.fromPacket data = .tAck s.sendno) (mode : s.mode = .ackWait)
      (queue : s.inq = c :: rest) :
      Outcome s e { s with mode := .idle, inq := rest, sendno := (s.sendno + 1#8) &&& 0x0f#8 }
        [.acked c]
  | sends {c : CArray} {rest : List CArray} {r m : Nat} (queue : s.inq = c :: rest)
      (sem : m + 1 = s.inq.length) :
      Outcome s e { s with mode := .ackWait, repcount := r, insem := m }
        [s.frame .low (connectedBytes s.sendno c)]

/-- A turn leaves the connection ready. -/
theorem Outcome.ready {s s' : TConnection} {e : TEvent} {as : List TAction}
    (h : Outcome s e s' as) (hs : s.Ready) : s'.Ready := by
  cases h with
  | nothing => exact hs
  | closes => exact ⟨hs.sendno, hs.recvno, hs.nonempty, nofun, nofun⟩
  | delivers _ _ => exact ⟨hs.sendno, next_lt_16 _, hs.nonempty, hs.idle, hs.waiting⟩
  | repeatsAck _ _ _ => exact hs
  | dequeues _ _ mode queue =>
      refine ⟨next_lt_16 _, hs.recvno, ?_, ?_, nofun⟩
      · intro c hc
        exact hs.nonempty c (by rw [queue]; exact List.mem_cons_of_mem _ hc)
      · intro _
        have := hs.waiting mode
        rw [queue, List.length_cons] at this
        exact Nat.succ.inj this
  | sends queue sem => exact ⟨hs.sendno, hs.recvno, hs.nonempty, nofun, fun _ => sem⟩

/-- A turn leaves the connection sound. -/
theorem Turn.sound {s s' : TConnection} {e : TEvent} {as : List TAction}
    (h : Turn s e (.ok (s', as))) (hs : s.Sound) : s'.Sound := by
  cases h with
  | nothing => exact hs
  | closes => exact ⟨hs.sendno, hs.recvno, nofun, nofun⟩
  | delivers => exact ⟨hs.sendno, next_lt_16 _, hs.idle, hs.waiting⟩
  | repeatsAck => exact hs
  | dequeues _ _ mode queue =>
      refine ⟨next_lt_16 _, hs.recvno, fun _ => ?_, nofun⟩
      have hlen := hs.waiting mode
      rw [queue, List.length_cons] at hlen
      exact Nat.succ.inj hlen
  | sends _ mode queue =>
      refine ⟨hs.sendno, hs.recvno, nofun, fun _ => ?_⟩
      have hlen := hs.idle mode
      rw [queue, List.length_cons] at hlen
      show s.insem - 1 + 1 = s.inq.length
      rw [queue, List.length_cons]
      omega
  | repeats => exact ⟨hs.sendno, hs.recvno, hs.idle, hs.waiting⟩

/-- In a ready connection the turn has one of the six outcomes. -/
theorem Turn.outcome {s : TConnection} {e : TEvent} {x : Checked (TConnection × List TAction)}
    (h : Turn s e x) (hs : s.Ready) : ∃ s' as, x = .ok (s', as) ∧ Outcome s e s' as := by
  cases h with
  | nothing => exact ⟨_, _, rfl, .nothing⟩
  | closes => exact ⟨_, _, rfl, .closes⟩
  | delivers _ tpdu =>
      obtain ⟨data, hdata, htpdu⟩ := TEvent.received_eq_some tpdu
      exact ⟨_, _, rfl, .delivers hdata htpdu⟩
  | repeatsAck _ tpdu number =>
      obtain ⟨data, hdata, htpdu⟩ := TEvent.received_eq_some tpdu
      exact ⟨_, _, rfl, .repeatsAck hdata htpdu number⟩
  | dequeues _ tpdu mode queue =>
      obtain ⟨data, hdata, htpdu⟩ := TEvent.received_eq_some tpdu
      exact ⟨_, _, rfl, .dequeues hdata htpdu mode queue⟩
  | sends _ mode queue =>
      have hlen := hs.idle mode
      rw [queue, List.length_cons] at hlen
      refine ⟨_, _, rfl, .sends queue ?_⟩
      rw [queue, List.length_cons]
      omega
  | repeats _ mode _ queue =>
      have h := Outcome.sends (e := e) (r := s.repcount + 1) queue (hs.waiting mode)
      rw [← mode] at h
      exact ⟨_, _, rfl, h⟩
  | faults _ queue =>
      -- an empty payload is not in the queue of a ready connection
      exact absurd rfl (hs.nonempty [] (by rw [queue]; exact List.mem_cons_self ..))

/-! ## The branches of the loop body -/

section Turn

variable {s : TConnection} (hs : s.Sound)

theorem iterate_of_handle {e : TEvent} {s' : TConnection} {as : List TAction}
    (hopen : s.mode ≠ .closed) (hh : s.handle e = .ok (s', as)) (hopen' : s'.mode ≠ .closed) :
    s.iterate e = .ok (s', as) := by
  simp [iterate, hopen, hh, hopen']

theorem turn_of_close {e : TEvent} (silent : ¬ s.Acknowledges e) (hopen : s.mode ≠ .closed)
    (hh : s.handle e = s.close) : Turn s e (s.iterate e) := by
  have h : s.iterate e =
      .ok ({ s with mode := .closed }, [s.frame .system [0x81#8], .ended]) := by
    rw [iterate, if_neg hopen, hh, close, Checked.ok_bind]
    dsimp only
    rw [if_pos rfl, sendDisconnect_eq]
    rfl
  rw [h]
  exact .closes silent

theorem turn_of_nothing {e : TEvent} (silent : ¬ s.Acknowledges e) (hopen : s.mode ≠ .closed)
    (hh : s.handle e = .ok (s, [])) : Turn s e (s.iterate e) := by
  rw [iterate_of_handle hopen hh hopen]
  exact .nothing silent

theorem iterate_of_fault {e : TEvent} {f : Fault} (hopen : s.mode ≠ .closed)
    (hh : s.handle e = .error f) : s.iterate e = .error f := by
  simp [iterate, hopen, hh]

/-- Only a data telegram is acknowledged. -/
theorem silent_of_received {e : TEvent} (h : ∀ n d, e.received ≠ some (.tDataConnectedReq n d)) :
    ¬ s.Acknowledges e :=
  fun ⟨_, n, d, htpdu, _⟩ => h n d htpdu

/-- An empty payload stops at an assertion. -/
theorem sendData_nil (s : TConnection) (n : Byte) : ∃ f, s.sendData n [] = .error f := by
  rcases hsend : s.sendData n [] with f | a
  · exact ⟨f, rfl⟩
  · obtain ⟨_, -, hsend⟩ := Checked.bind_eq_ok.mp hsend
    obtain ⟨_, hpacket, -⟩ := Checked.bind_eq_ok.mp hsend
    cases hpacket

include hs

/-- The queue of a connection that waits for an acknowledgement is not empty. -/
theorem Sound.queue_of_waiting (hmode : s.mode = .ackWait) : ∃ c rest, s.inq = c :: rest := by
  have := hs.waiting hmode
  cases hq : s.inq with
  | nil => simp [hq] at this
  | cons c rest => exact ⟨c, rest, rfl⟩

/-- A repetition, from either of the two places that make one. -/
theorem turn_of_repeat {e : TEvent} (silent : ¬ s.Acknowledges e) (hmode : s.mode = .ackWait)
    (hcount : s.repcount < 3) (hh : s.handle e = s.repeatData) : Turn s e (s.iterate e) := by
  obtain ⟨c, rest, hq⟩ := hs.queue_of_waiting hmode
  have hopen : s.mode ≠ .closed := by simp [hmode]
  rcases eq_or_ne c [] with rfl | hc
  · obtain ⟨f, hf⟩ := sendData_nil s s.sendno
    rw [iterate_of_fault hopen (f := f) (by rw [hh, repeatData, top, hq, Checked.ok_bind, hf]; rfl)]
    exact .faults silent hq
  · have hsend : s.repeatData = .ok ({ s with repcount := s.repcount + 1 },
        [s.frame .low (connectedBytes s.sendno c)]) := by
      simp [repeatData, top, hq, sendData_eq hs.sendno hc]
    rw [iterate_of_handle hopen (hh.trans hsend) hopen]
    exact .repeats silent hmode hcount hq hc

theorem turn_onData {data d : CArray} {n : Byte} (hopen : s.mode ≠ .closed)
    (htpdu : TPDU.fromPacket data = .tDataConnectedReq n d) :
    Turn s (.buf data) (s.iterate (.buf data)) := by
  have hh : s.handle (.buf data) = s.onData n d := by simp [handle, onBuf, htpdu]
  have hreceived : TEvent.received (.buf data) = some (.tDataConnectedReq n d) :=
    congrArg some htpdu
  by_cases hcur : n = s.recvno
  · subst hcur
    rw [iterate_of_handle hopen ?_ ?_]
    · exact .delivers hopen hreceived
    · rw [hh]
      simp [onData, sendAck_eq hs.recvno, maskHead]
    · exact hopen
  · by_cases hprev : n = (s.recvno - 1#8) &&& 0x0f#8
    · -- the previous number is a 4-bit one, so the acknowledgement can be encoded
      have hn : n < 16#8 := hprev ▸ previous_lt_16 s.recvno
      have hack : s.handle (.buf data) = .ok (s, [s.frame .low (ackBytes n)]) := by
        rw [hh, onData, if_neg (fun h => h.2 hprev), if_neg hcur, sendAck_eq hn]
        rfl
      rw [iterate_of_handle hopen hack hopen]
      exact .repeatsAck hopen hreceived hprev
    · refine turn_of_close ?_ hopen (by rw [hh, onData, if_pos ⟨hcur, hprev⟩])
      rintro ⟨-, m, d', hm, hnumber⟩
      cases hreceived.symm.trans hm
      exact hnumber.elim hcur hprev

theorem turn_onNack {data : CArray} {n : Byte} (hopen : s.mode ≠ .closed)
    (htpdu : TPDU.fromPacket data = .tNack n) :
    Turn s (.buf data) (s.iterate (.buf data)) := by
  have hh : s.handle (.buf data) = s.onNack n := by simp [handle, onBuf, htpdu]
  have silent : ¬ s.Acknowledges (.buf data) :=
    silent_of_received fun _ _ => by simp [TEvent.received, htpdu]
  unfold onNack at hh
  -- another number, nothing to repeat, or no repetition left
  split at hh
  · exact turn_of_close silent hopen hh
  split at hh
  · exact turn_of_close silent hopen hh
  split at hh
  · exact turn_of_close silent hopen hh
  · next hrepeat =>
    rw [not_or, not_not, Nat.not_le] at hrepeat
    exact turn_of_repeat hs silent hrepeat.2 hrepeat.1 hh

theorem turn_onAck {data : CArray} {n : Byte} (hopen : s.mode ≠ .closed)
    (htpdu : TPDU.fromPacket data = .tAck n) :
    Turn s (.buf data) (s.iterate (.buf data)) := by
  have hh : s.handle (.buf data) = s.onAck n := by simp [handle, onBuf, htpdu]
  have silent : ¬ s.Acknowledges (.buf data) :=
    silent_of_received fun _ _ => by simp [TEvent.received, htpdu]
  unfold onAck at hh
  split at hh
  · exact turn_of_close silent hopen hh
  split at hh
  · exact turn_of_close silent hopen hh
  · next hcur hmode =>
    rw [not_not] at hcur hmode
    subst hcur
    obtain ⟨c, rest, hq⟩ := hs.queue_of_waiting hmode
    have hget : s.handle (.buf data) = .ok ({ s with
        mode := .idle, inq := rest, sendno := (s.sendno + 1#8) &&& 0x0f#8 }, [.acked c]) := by
      rw [hh]
      simp [top, hq]
    rw [iterate_of_handle hopen hget (by simp)]
    exact .dequeues silent (congrArg some htpdu) hmode hq

theorem turn_onBuf {data : CArray} (hopen : s.mode ≠ .closed) :
    Turn s (.buf data) (s.iterate (.buf data)) := by
  -- a TPDU that is no data telegram
  have silent {t : TPDU} (htpdu : TPDU.fromPacket data = t)
      (ht : ∀ n d, t ≠ .tDataConnectedReq n d) : ¬ s.Acknowledges (.buf data) :=
    silent_of_received fun n d h => ht n d (htpdu.symm.trans (Option.some.inj h))
  cases htpdu : TPDU.fromPacket data with
  | tDisconnectReq =>
      exact turn_of_close (silent htpdu nofun) hopen (by simp [handle, onBuf, htpdu])
  | tConnectReq => exact turn_of_close (silent htpdu nofun) hopen (by simp [handle, onBuf, htpdu])
  | tDataConnectedReq n d => exact turn_onData hs hopen htpdu
  | tNack n => exact turn_onNack hs hopen htpdu
  | tAck n => exact turn_onAck hs hopen htpdu
  | tUnknown pdu =>
      exact turn_of_nothing (silent htpdu nofun) hopen (by simp [handle, onBuf, htpdu])
  | tDataXXXReq d =>
      exact turn_of_nothing (silent htpdu nofun) hopen (by simp [handle, onBuf, htpdu])

theorem turn_onInput (hopen : s.mode ≠ .closed) : Turn s .input (s.iterate .input) := by
  have silent : ¬ s.Acknowledges .input := silent_of_received nofun
  by_cases hin : s.mode = .idle ∧ 0 < s.insem
  · have hsem := hs.idle hin.1
    have hh : s.handle .input = s.onInput := by simp [handle, hin]
    cases hq : s.inq with
    | nil =>
        -- while idle, `insem` counts the queue
        rw [hq, List.length_nil] at hsem
        omega
    | cons c rest =>
        rcases eq_or_ne c [] with rfl | hc
        · obtain ⟨f, hf⟩ := sendData_nil s s.sendno
          rw [iterate_of_fault hopen (f := f)
            (by rw [hh, onInput, top, hq, Checked.ok_bind, hf]; rfl)]
          exact .faults silent hq
        · have hsend : s.handle .input = .ok ({ s with
              repcount := 0, insem := s.insem - 1, mode := .ackWait },
              [s.frame .low (connectedBytes s.sendno c)]) := by
            rw [hh]
            simp [onInput, top, hq, sendData_eq hs.sendno hc]
          rw [iterate_of_handle hopen hsend (by simp)]
          exact .sends silent hin.1 hq hc
  · exact turn_of_nothing silent hopen (by simp only [handle, if_neg hin])

/-- A turn of a sound connection, whatever its event is. -/
theorem iterate_turn (e : TEvent) : Turn s e (s.iterate e) := by
  by_cases hopen : s.mode = .closed
  · rw [iterate, if_pos hopen]
    exact .nothing fun h => h.1 hopen
  cases e with
  | buf data => exact turn_onBuf hs hopen
  | input => exact turn_onInput hs hopen
  | timeout =>
      have silent : ¬ s.Acknowledges .timeout := silent_of_received nofun
      by_cases hrepeat : s.mode = .ackWait ∧ s.repcount < 3
      · exact turn_of_repeat hs silent hrepeat.1 hrepeat.2 (by simp [handle, onTimeout, hrepeat])
      · exact turn_of_close silent hopen (by simp only [handle, onTimeout, if_neg hrepeat])
  | stop => exact turn_of_close (silent_of_received nofun) hopen rfl

end Turn

/-- A turn of a ready connection returns, with one of the six outcomes. -/
theorem iterate_outcome {s : TConnection} (hs : s.Ready) (e : TEvent) :
    ∃ s' as, s.iterate e = .ok (s', as) ∧ Outcome s e s' as :=
  (iterate_turn hs.sound e).outcome hs

end TConnection

end BcuSdk.Eibd
