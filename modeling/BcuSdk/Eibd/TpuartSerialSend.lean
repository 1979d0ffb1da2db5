/-
  BcuSdk.Eibd.TpuartSerialSend

  The send path of `TPUARTSerialLayer2Driver` (eibd/backend/tpuartserial.cpp).

  `retry` counts the attempts of the frame in front of `inqueue`.  `SendRun`
  counts them again beside the driver, from when the frame came to the front,
  and notes what `retry` was then and how each frame left.  A frame that is
  given up because no answer came leaves its count behind; `attempts_iff` says
  for which runs that shows.
-/
import BcuSdk.Eibd.TpuartSerialSafety

namespace BcuSdk.Eibd

open BcuSdk.Lib

namespace TPUARTSerialLayer2Driver

/-! ## What an event does to the send path -/

def frontByte (s : TPUARTSerialLayer2Driver) : Option FrontByte := s.input.head?.map FrontByte.of

/-- The frame that a call puts into `inqueue`. -/
def Call.queues : Call → List LPDU
  | .sendLData l => [l]
  | _ => []

/-- An acknowledgement is written in the next pass, and other threads run meanwhile. -/
def writes (s : TPUARTSerialLayer2Driver) : Bool :=
  match s.frontByte with
  | some (.frame f) => f.header ≤ s.input.length ∧ s.acked = false
  | _ => false

/-- The frames that an event puts into `inqueue`. -/
def queues (s : TPUARTSerialLayer2Driver) : Event → List LPDU
  | .call c => c.queues
  | .pass _ others => if s.writes then others.flatMap Call.queues else []
  | _ => []

/-- The answer to the frame that has been sent: a confirmation, or a failure. -/
def answer (s : TPUARTSerialLayer2Driver) : Event → Option Bool
  | .pass _ _ =>
      match s.frontByte with
      | some .confirm => if s.waitconfirm then some true else none
      | some .noConfirm => if s.waitconfirm then some false else none
      | _ => none
  | .afterLoop sendtimeout _ => if s.waitconfirm ∧ sendtimeout then some false else none
  | _ => none

/-- The frame in front is given up because no answer has come. -/
def GivesUp (s : TPUARTSerialLayer2Driver) (e : Event) : Prop :=
  s.waitconfirm = true ∧ 3 ≤ s.retry + 1 ∧ ∃ watchdog, e = .afterLoop true watchdog

/-- What an event can do to `inqueue` and `retry`. -/
inductive SendTurn (s : TPUARTSerialLayer2Driver) (e : Event) (s' : TPUARTSerialLayer2Driver) :
    Prop
  | keeps (hanswer : s.answer e = none) (hqueue : s'.inqueue = s.inqueue ++ s.queues e)
      (hretry : s'.retry = s.retry)
  | confirms {l : LPDU} (hanswer : s.answer e = some true) (hqueue : s.inqueue = l :: s'.inqueue)
      (hretry : s'.retry = 0)
  | fails (hanswer : s.answer e = some false) (hup : ¬ s.GivesUp e)
      (hwait : s.waitconfirm = true) (hqueue : s'.inqueue = s.inqueue)
      (hretry : s'.retry = s.retry + 1)
  | refuses {l : LPDU} (hanswer : s.answer e = some false) (hup : ¬ s.GivesUp e)
      (hcount : 3 < s.retry + 1) (hqueue : s.inqueue = l :: s'.inqueue) (hretry : s'.retry = 0)
  | givesUp {l : LPDU} (hanswer : s.answer e = some false) (hup : s.GivesUp e)
      (hqueue : s.inqueue = l :: s'.inqueue) (hretry : s'.retry = s.retry + 1)

variable {s s' : TPUARTSerialLayer2Driver} {e : Event}

theorem answer_of_givesUp (h : s.GivesUp e) : s.answer e = some false := by
  obtain ⟨hwait, -, watchdog, rfl⟩ := h
  exact if_pos ⟨hwait, rfl⟩

/-- The variables of the send path. -/
structure SendState where
  inqueue : List LPDU
  waitconfirm : Bool
  retry : Nat

def sendState (s : TPUARTSerialLayer2Driver) : SendState := ⟨s.inqueue, s.waitconfirm, s.retry⟩

theorem SendTurn.of_sendState (hanswer : s.answer e = none) (hqueues : s.queues e = [])
    (h : s'.sendState = s.sendState) : s.SendTurn e s' := by
  obtain ⟨hqueue, -, hretry⟩ := SendState.mk.inj h
  exact .keeps hanswer (by rw [hqueues, List.append_nil, hqueue]) hretry

theorem recvLPDU_sendState {data : CArray} (h : s.recvLPDU data = .ok s') :
    s'.sendState = s.sendState := by
  have hbus : (if s.mode ∨ s.vmode then s.put (.busmonitor { pdu := data }) else s).sendState =
      s.sendState := by
    split <;> rfl
  rw [recvLPDU] at h
  rw [← hbus]
  generalize (if s.mode ∨ s.vmode then s.put (.busmonitor { pdu := data }) else s) = s₁ at h ⊢
  split at h
  · cases h
    rfl
  · obtain ⟨l, -, h⟩ := Checked.bind_eq_ok.mp h
    split at h
    · split at h
      · cases h
        rfl
      · cases h
        rfl
    · cases h
      rfl

theorem showConfirm_sendState {b : Byte} (h : s.showConfirm b = .ok s') :
    s'.sendState = s.sendState := by
  rw [showConfirm] at h
  split at h
  · exact recvLPDU_sendState h
  · cases h
    rfl

theorem dropSend_sendState (h : s.dropSend = .ok s') :
    ∃ l, s.inqueue = l :: s'.inqueue ∧ s'.retry = s.retry := by
  obtain ⟨⟨l, inqueue⟩, hget, h⟩ := Checked.bind_eq_ok.mp h
  obtain ⟨inSignal, -, h⟩ := Checked.bind_eq_ok.mp h
  cases h
  exact ⟨l, Queue.get_eq_ok.mp hget, rfl⟩

theorem onConfirm_sendState (h : s.onConfirm = .ok s') :
    s.waitconfirm = false ∧ s'.sendState = s.sendState ∨
      s.waitconfirm = true ∧ ∃ l, s.inqueue = l :: s'.inqueue ∧ s'.retry = 0 := by
  obtain ⟨s₁, hshow, h⟩ := Checked.bind_eq_ok.mp h
  have hsame := showConfirm_sendState hshow
  obtain ⟨hqueue, hwait, -⟩ := SendState.mk.inj hsame
  split at h
  · next hconfirm =>
    obtain ⟨s₂, hdrop, h⟩ := Checked.bind_eq_ok.mp h
    cases h
    obtain ⟨l, hl, -⟩ := dropSend_sendState hdrop
    exact .inr ⟨hwait.symm.trans hconfirm, l, hqueue.symm.trans hl, rfl⟩
  · next hconfirm =>
    cases h
    exact .inl ⟨hwait.symm.trans (Bool.eq_false_iff.mpr hconfirm), hsame⟩

theorem onNoConfirm_sendState (h : s.onNoConfirm = .ok s') :
    s.waitconfirm = false ∧ s'.sendState = s.sendState ∨
      s.waitconfirm = true ∧ 3 < s.retry + 1 ∧ (∃ l, s.inqueue = l :: s'.inqueue) ∧
        s'.retry = 0 ∨
      s.waitconfirm = true ∧ s'.inqueue = s.inqueue ∧ s'.retry = s.retry + 1 := by
  obtain ⟨s₁, hshow, h⟩ := Checked.bind_eq_ok.mp h
  have hsame := showConfirm_sendState hshow
  obtain ⟨hqueue, hwait, hretry⟩ := SendState.mk.inj hsame
  split at h
  · next hconfirm =>
    dsimp only at h
    split at h
    · next hcount =>
      obtain ⟨s₂, hdrop, h⟩ := Checked.bind_eq_ok.mp h
      cases h
      obtain ⟨l, hl, -⟩ := dropSend_sendState hdrop
      refine .inr (.inl ⟨hwait.symm.trans hconfirm, ?_, ⟨l, hqueue.symm.trans hl⟩, rfl⟩)
      rwa [← hretry]
    · cases h
      exact .inr (.inr ⟨hwait.symm.trans hconfirm, hqueue, congrArg (· + 1) hretry⟩)
  · next hconfirm =>
    cases h
    exact .inl ⟨hwait.symm.trans (Bool.eq_false_iff.mpr hconfirm), hsame⟩

/-! ### Other threads -/

theorem call_sends {c : Call} (h : s.call c = .ok s') :
    s'.inqueue = s.inqueue ++ c.queues ∧ s'.retry = s.retry := by
  cases c with
  | getLData =>
      obtain ⟨outSignal, -, h⟩ := Checked.bind_eq_ok.mp h
      obtain ⟨⟨l, outqueue⟩, -, h⟩ := Checked.bind_eq_ok.mp h
      cases h
      exact ⟨(List.append_nil _).symm, rfl⟩
  | sendLData l =>
      cases h
      exact ⟨rfl, rfl⟩
  | «open» | enterBusmonitor | leaveBusmonitor | openVBusmonitor | closeVBusmonitor | addAddress |
    addGroupAddress | removeAddress | removeGroupAddress =>
      cases h
      exact ⟨(List.append_nil _).symm, rfl⟩

theorem calls_sends {others : List Call} (h : s.calls others = .ok s') :
    s'.inqueue = s.inqueue ++ others.flatMap Call.queues ∧ s'.retry = s.retry := by
  induction others generalizing s with
  | nil =>
      cases h
      exact ⟨(List.append_nil _).symm, rfl⟩
  | cons c others ih =>
      obtain ⟨s₁, hcall, h⟩ := Checked.bind_eq_ok.mp h
      obtain ⟨hqueue₁, hretry₁⟩ := call_sends hcall
      obtain ⟨hqueue, hretry⟩ := ih h
      rw [hqueue, hqueue₁, List.append_assoc, List.flatMap_cons]
      exact ⟨rfl, hretry.trans hretry₁⟩

/-! ### A pass -/

theorem sendAck_sends {f : FrameFormat} {others : List Call} (h : s.sendAck f others = .ok s') :
    s'.inqueue = s.inqueue ++ (if s.acked = false then others.flatMap Call.queues else []) ∧
      s'.retry = s.retry := by
  rw [sendAck] at h
  split at h
  · next hacked =>
    cases h
    rw [if_neg (by rw [hacked]; decide), List.append_nil]
    exact ⟨rfl, rfl⟩
  · next hacked =>
    obtain ⟨s₁, hcalls, h⟩ := Checked.bind_eq_ok.mp h
    cases h
    obtain ⟨hqueue, hretry⟩ := calls_sends hcalls
    rw [if_pos (Bool.eq_false_iff.mpr hacked)]
    exact ⟨hqueue, hretry⟩

theorem awaitRest_sendState (s : TPUARTSerialLayer2Driver) (occurred : Bool) :
    (s.awaitRest occurred).state.sendState = s.sendState := by
  rw [awaitRest]
  split <;> rfl

theorem onFrame_sends {f : FrameFormat} {occurred : Bool} {others : List Call} {n : Next}
    (h : s.onFrame f occurred others = .ok n) :
    n.state.inqueue = s.inqueue ++
        (if f.header ≤ s.input.length ∧ s.acked = false then others.flatMap Call.queues else []) ∧
      n.state.retry = s.retry := by
  rw [onFrame] at h
  split at h
  · next hshort =>
    cases h
    obtain ⟨hqueue, -, hretry⟩ := SendState.mk.inj (s.awaitRest_sendState occurred)
    rw [if_neg (fun h => Nat.not_le.mpr hshort h.1), List.append_nil]
    exact ⟨hqueue, hretry⟩
  · next hheader =>
    obtain ⟨s₁, hack, h⟩ := Checked.bind_eq_ok.mp h
    -- all that happens behind the acknowledgement leaves the send path alone
    have hrest : n.state.sendState = s₁.sendState := by
      dsimp only at h
      split at h
      · cases h
        exact awaitRest_sendState _ occurred
      · obtain ⟨s₂, hrecv, h⟩ := Checked.bind_eq_ok.mp h
        cases h
        have hsame := recvLPDU_sendState hrecv
        exact hsame
    obtain ⟨hqueue, -, hretry⟩ := SendState.mk.inj hrest
    obtain ⟨hqueue₁, hretry₁⟩ := sendAck_sends hack
    have hwrites : (f.header ≤ s.input.length ∧ s.acked = false) = (s.acked = false) := by
      rw [eq_true (not_lt.mp hheader), true_and]
    simp only [hwrites]
    exact ⟨hqueue.trans hqueue₁, hretry.trans hretry₁⟩

/-- A byte that is no answer and begins no frame. -/
theorem SendTurn.of_front {x : FrontByte} {occurred : Bool} {others : List Call}
    (hfront : s.frontByte = some x) (hx : x = .state ∨ x = .ack ∨ x = .unknown)
    (h : s'.sendState = s.sendState) : s.SendTurn (.pass occurred others) s' := by
  have hwrites : s.writes = false := by
    rw [writes, hfront]
    rcases hx with rfl | rfl | rfl <;> rfl
  refine .of_sendState ?_ (by rw [queues, hwrites]; rfl) h
  rw [answer, hfront]
  rcases hx with rfl | rfl | rfl <;> rfl

theorem pass_sendTurn {occurred : Bool} {others : List Call} {n : Next}
    (h : s.pass occurred others = .ok n) : s.SendTurn (.pass occurred others) n.state := by
  rw [pass] at h
  split at h
  case h_1 hin =>
    -- nothing has been read
    cases h
    have hfront : s.frontByte = none := by rw [frontByte, hin]; rfl
    refine .of_sendState ?_ ?_ rfl
    · rw [answer, hfront]
    · rw [queues, writes, hfront]
      rfl
  case h_2 b rest hin =>
    have hup : ¬ s.GivesUp (.pass occurred others) := by
      rintro ⟨-, -, watchdog, hevent⟩
      cases hevent
    have hfront : s.frontByte = some (FrontByte.of b) := by rw [frontByte, hin]; rfl
    split at h
    case h_1 hb =>
      -- a positive confirmation, which may come unasked for
      rw [hb] at hfront
      obtain ⟨s₁, hconfirm, h⟩ := Checked.bind_eq_ok.mp h
      cases h
      rcases onConfirm_sendState hconfirm with ⟨hwait, hsame⟩ | ⟨hwait, l, hqueue, hretry⟩
      · refine .of_sendState ?_ ?_ hsame
        · rw [answer, hfront]
          exact if_neg (by rw [hwait]; decide)
        · rw [queues, writes, hfront]
          rfl
      · refine .confirms ?_ hqueue hretry
        rw [answer, hfront]
        exact if_pos hwait
    case h_2 hb =>
      -- a negative one
      rw [hb] at hfront
      obtain ⟨s₁, hconfirm, h⟩ := Checked.bind_eq_ok.mp h
      cases h
      have hanswer (hwait : s.waitconfirm = true) :
          s.answer (.pass occurred others) = some false := by
        rw [answer, hfront]
        exact if_pos hwait
      rcases onNoConfirm_sendState hconfirm with ⟨hwait, hsame⟩ |
        ⟨hwait, hcount, ⟨l, hqueue⟩, hretry⟩ | ⟨hwait, hqueue, hretry⟩
      · refine .of_sendState ?_ ?_ hsame
        · rw [answer, hfront]
          exact if_neg (by rw [hwait]; decide)
        · rw [queues, writes, hfront]
          rfl
      · exact .refuses (hanswer hwait) hup hcount hqueue hretry
      · exact .fails (hanswer hwait) hup hwait hqueue hretry
    case h_3 hb =>
      cases h
      exact .of_front (hfront.trans (congrArg some hb)) (.inl rfl) rfl
    case h_4 hb =>
      obtain ⟨s₁, hrecv, h⟩ := Checked.bind_eq_ok.mp h
      cases h
      have hsame := recvLPDU_sendState hrecv
      exact .of_front (hfront.trans (congrArg some hb)) (.inr (.inl rfl)) hsame
    case h_5 f hb =>
      -- a frame from the bus; while it is acknowledged other threads may send
      rw [hb] at hfront
      obtain ⟨hqueue, hretry⟩ := onFrame_sends h
      refine .keeps (by rw [answer, hfront]) ?_ hretry
      rw [hqueue, queues, writes, hfront]
      simp only [decide_eq_true_eq]
    case h_6 hb =>
      cases h
      exact .of_front (hfront.trans (congrArg some hb)) (.inr (.inr rfl)) rfl

/-! ### Behind the loop -/

theorem onWatchdog_sendState (s : TPUARTSerialLayer2Driver) (occurred : Bool) :
    (s.onWatchdog occurred).sendState = s.sendState := by
  have hite (s : TPUARTSerialLayer2Driver) (p : Prop) [Decidable p] (written : List CArray)
      (watch : Nat) : (if p then { s with written, watch } else s).sendState = s.sendState := by
    split <;> rfl
  exact (hite _ _ _ _).trans ((hite _ _ _ _).trans (hite _ _ _ _))

theorem sendNext_sends (h : s.sendNext = .ok s') :
    s'.inqueue = s.inqueue ∧ s'.retry = s.retry := by
  rw [sendNext] at h
  split at h
  · obtain ⟨l, -, h⟩ := Checked.bind_eq_ok.mp h
    obtain ⟨d, -, h⟩ := Checked.bind_eq_ok.mp h
    obtain ⟨w, -, h⟩ := Checked.bind_eq_ok.mp h
    cases h
    exact ⟨rfl, rfl⟩
  · split at h
    · cases h
      exact ⟨rfl, rfl⟩
    · cases h
      exact ⟨rfl, rfl⟩

theorem afterLoop_sendTurn {sendtimeout watchdog : Bool}
    (h : s.afterLoop sendtimeout watchdog = .ok s') :
    s.SendTurn (.afterLoop sendtimeout watchdog) s' := by
  obtain ⟨s₁, htimeout, hnext⟩ := Checked.bind_eq_ok.mp h
  obtain ⟨hqueue', hretry'⟩ := sendNext_sends hnext
  obtain ⟨hqueue, -, hretry⟩ := SendState.mk.inj (s₁.onWatchdog_sendState watchdog)
  have hqueue : s'.inqueue = s₁.inqueue := hqueue'.trans hqueue
  have hretry : s'.retry = s₁.retry := hretry'.trans hretry
  rw [onSendTimeout] at htimeout
  split at htimeout
  · -- no answer has come in time
    next hwait =>
    obtain ⟨hwait, rfl⟩ := hwait
    have hanswer : s.answer (.afterLoop true watchdog) = some false := if_pos ⟨hwait, rfl⟩
    dsimp only at htimeout
    split at htimeout
    · next hcount =>
      obtain ⟨l, hl, hretry₁⟩ := dropSend_sendState htimeout
      exact .givesUp hanswer ⟨hwait, hcount, watchdog, rfl⟩ (by rw [hqueue]; exact hl)
        (hretry.trans hretry₁)
    · next hcount =>
      cases htimeout
      exact .fails hanswer (fun hup => hcount hup.2.1) hwait hqueue hretry
  · next hno =>
    cases htimeout
    exact .keeps (if_neg hno) (by rw [hqueue]; exact (List.append_nil _).symm) hretry

theorem step_sendTurn (h : s.step e = .ok s') : s.SendTurn e s' := by
  cases e with
  | read buf =>
      cases h
      exact .of_sendState rfl rfl rfl
  | pass occurred others =>
      obtain ⟨n, hpass, h⟩ := Checked.bind_eq_ok.mp h
      cases h
      exact pass_sendTurn hpass
  | afterLoop sendtimeout watchdog => exact afterLoop_sendTurn h
  | call c =>
      obtain ⟨hqueue, hretry⟩ := call_sends h
      exact .keeps rfl hqueue hretry

theorem onSendTimeout_returns (h : s.SendSound) (occurred : Bool) :
    (s.onSendTimeout occurred).Returns := by
  rw [onSendTimeout]
  split
  · next hwait =>
    have hunwait := s.quiet_unwait (s.retry + 1)
    dsimp only
    split
    · obtain ⟨s₁, hs₁, -⟩ := dropSend_spec (hunwait.sends h) (h.pending hwait.1) rfl
      exact ⟨s₁, hs₁⟩
    · exact ⟨_, rfl⟩
  · exact ⟨s, rfl⟩

end TPUARTSerialLayer2Driver

/-! ## Runs -/

/-- How a frame has left `inqueue`, and how often it had failed. -/
structure SentFrame where
  confirmed : Bool
  failures : Nat
  deriving DecidableEq, Repr

/-- A driver, and what has become of the frames it has sent. -/
structure SendRun where
  driver : TPUARTSerialLayer2Driver
  /-- The values of `retry` when a frame came to the front of `inqueue`. -/
  starts : List Nat := []
  /-- How often the frame in front has failed since it came there. -/
  failed : Nat := 0
  removed : List SentFrame := []

namespace SendRun

open TPUARTSerialLayer2Driver (Event)

/-- How often the frame in front has failed, with what this event answers. -/
def failures (r : SendRun) (e : Event) : Nat :=
  if r.driver.answer e = some false then r.failed + 1 else r.failed

/-- What an event that leads to `driver` adds.  No event both removes a frame from `inqueue` and
    puts one in. -/
def note (r : SendRun) (e : Event) (driver : TPUARTSerialLayer2Driver) : SendRun :=
  let gone := driver.inqueue.length < r.driver.inqueue.length
  let came := driver.inqueue ≠ [] ∧ (gone ∨ r.driver.inqueue = [])
  { driver
    starts := if came then r.starts ++ [driver.retry] else r.starts
    failed := if gone then 0 else r.failures e
    removed :=
      if gone then r.removed ++ [⟨r.driver.answer e = some true, r.failures e⟩] else r.removed }

def step (r : SendRun) (e : Event) : Checked SendRun := do
  return r.note e (← r.driver.step e)

/-- What the send path promises. -/
structure Exact (r : SendRun) : Prop where
  starts : ∀ n ∈ r.starts, n = 0
  /-- What counts are the failures of the frame in front. -/
  retry : r.driver.inqueue ≠ [] → r.driver.retry = r.failed
  removed : ∀ frame ∈ r.removed, frame.confirmed = true ∨ 3 ≤ frame.failures
  waiting : r.driver.waitconfirm = true → r.driver.inqueue ≠ []
  /-- Neither an answer nor a timeout finds `inqueue` empty. -/
  confirm : r.driver.onConfirm.Returns
  noConfirm : r.driver.onNoConfirm.Returns
  timeout : ∀ occurred, (r.driver.onSendTimeout occurred).Returns

structure Inv (r : SendRun) : Prop where
  sound : r.driver.Sound
  empty : r.driver.inqueue = [] → r.failed = 0

/-- What the invariant leaves open. -/
structure Counted (r : SendRun) : Prop where
  starts : ∀ n ∈ r.starts, n = 0
  retry : r.driver.inqueue ≠ [] → r.driver.retry = r.failed
  removed : ∀ frame ∈ r.removed, frame.confirmed = true ∨ 3 ≤ frame.failures

variable {r r' : SendRun} {e : Event}

theorem Inv.exact_iff_counted (h : Inv r) : Exact r ↔ Counted r := by
  constructor
  · intro hexact
    exact ⟨hexact.starts, hexact.retry, hexact.removed⟩
  · intro hcounted
    obtain ⟨s₁, hconfirm, -⟩ := TPUARTSerialLayer2Driver.onConfirm_spec h.sound.sends
    obtain ⟨s₂, hnoConfirm, -⟩ := TPUARTSerialLayer2Driver.onNoConfirm_spec h.sound.sends
    exact ⟨hcounted.starts, hcounted.retry, hcounted.removed, h.sound.sends.pending,
      ⟨s₁, hconfirm⟩, ⟨s₂, hnoConfirm⟩,
      TPUARTSerialLayer2Driver.onSendTimeout_returns h.sound.sends⟩

/-- No frame comes to the front behind one that was given up: none is behind it then, and none is
    put into the empty `inqueue` while `retry` is not 0. -/
structure Resets (r : SendRun) (e : Event) : Prop where
  alone : r.driver.GivesUp e → r.driver.inqueue.length ≤ 1
  zero : r.driver.inqueue = [] → r.driver.queues e ≠ [] → r.driver.retry = 0

theorem step_eq_ok (h : r.step e = .ok r') :
    ∃ driver, r.driver.step e = .ok driver ∧ r' = r.note e driver := by
  obtain ⟨driver, hstep, h⟩ := Checked.bind_eq_ok.mp h
  cases h
  exact ⟨driver, hstep, rfl⟩

section Note

variable {driver : TPUARTSerialLayer2Driver}

/-- No frame leaves `inqueue`. -/
theorem note_of_stays {ls : List LPDU} (hqueue : driver.inqueue = r.driver.inqueue ++ ls) :
    r.note e driver = {
      driver
      starts := if driver.inqueue ≠ [] ∧ r.driver.inqueue = [] then r.starts ++ [driver.retry]
        else r.starts
      failed := r.failures e
      removed := r.removed } := by
  have hstays : ¬ driver.inqueue.length < r.driver.inqueue.length := by
    rw [hqueue, List.length_append]
    omega
  simp only [note, hstays, if_false, false_or]

/-- The frame in front leaves `inqueue`. -/
theorem note_of_gone {l : LPDU} (hqueue : r.driver.inqueue = l :: driver.inqueue) :
    r.note e driver = {
      driver
      starts := if driver.inqueue ≠ [] then r.starts ++ [driver.retry] else r.starts
      failed := 0
      removed := r.removed ++ [⟨r.driver.answer e = some true, r.failures e⟩] } := by
  have hgone : driver.inqueue.length < r.driver.inqueue.length := by
    rw [hqueue, List.length_cons]
    omega
  simp only [note, hgone, if_true, true_or, and_true]

/-- A removal for which `inqueue` has a next frame, or none. -/
theorem Counted.gone {l : LPDU} (h : Counted r) (hqueue : r.driver.inqueue = l :: driver.inqueue)
    (hleft : r.driver.answer e = some true ∨ 3 ≤ r.failures e) :
    Counted (r.note e driver) ↔ (driver.inqueue ≠ [] → driver.retry = 0) := by
  rw [note_of_gone hqueue]
  have hremoved : ∀ frame ∈
      r.removed ++ [(⟨r.driver.answer e = some true, r.failures e⟩ : SentFrame)],
      frame.confirmed = true ∨ 3 ≤ frame.failures := by
    refine List.forall_mem_append.mpr ⟨h.removed, List.forall_mem_singleton.mpr ?_⟩
    rwa [decide_eq_true_eq]
  constructor
  · intro hcounted hne
    exact hcounted.retry hne
  · intro hzero
    refine ⟨?_, hzero, hremoved⟩
    dsimp only
    split
    · next hne =>
      exact List.forall_mem_append.mpr ⟨h.starts, List.forall_mem_singleton.mpr (hzero hne)⟩
    · exact h.starts

theorem Counted.note (hinv : Inv r) (h : Counted r) (hturn : r.driver.SendTurn e driver) :
    Counted (r.note e driver) ↔ Resets r e := by
  -- only a step that gives the frame up can break the first half of the condition
  have hresets (hup : ¬ r.driver.GivesUp e) (hne : r.driver.inqueue ≠ []) : Resets r e :=
    ⟨fun h => absurd h hup, fun h => absurd h hne⟩
  cases hturn with
  | keeps hanswer hqueue hretry =>
      have hup : ¬ r.driver.GivesUp e := by
        intro hup
        cases hanswer.symm.trans (TPUARTSerialLayer2Driver.answer_of_givesUp hup)
      have hfailures : r.failures e = r.failed := if_neg (by rw [hanswer]; decide)
      rw [note_of_stays hqueue, hfailures]
      by_cases hne : r.driver.inqueue = []
      · -- what is put into the empty queue comes to the front
        rw [hne, List.nil_append] at hqueue
        have hstart : driver.retry = r.failed ↔ r.driver.retry = 0 := by
          rw [hinv.empty hne, hretry]
        constructor
        · intro hcounted
          refine ⟨fun h => absurd h hup, fun _ hqueues => ?_⟩
          exact hstart.mp (hcounted.retry (by rw [hqueue]; exact hqueues))
        · intro hcond
          refine ⟨?_, fun hnext => ?_, h.removed⟩
          · dsimp only
            split
            · next hcame =>
              have hzero : driver.retry = 0 :=
                hretry.trans (hcond.zero hne (by rw [← hqueue]; exact hcame.1))
              exact List.forall_mem_append.mpr ⟨h.starts, List.forall_mem_singleton.mpr hzero⟩
            · exact h.starts
          · exact hstart.mpr (hcond.zero hne (by rw [← hqueue]; exact hnext))
      · refine iff_of_true ⟨?_, fun _ => hretry.trans (h.retry hne), h.removed⟩
          (hresets hup hne)
        dsimp only
        rw [if_neg fun hcame => hne hcame.2]
        exact h.starts
  | confirms hanswer hqueue hretry =>
      have hup : ¬ r.driver.GivesUp e := by
        intro hup
        cases hanswer.symm.trans (TPUARTSerialLayer2Driver.answer_of_givesUp hup)
      rw [h.gone hqueue (.inl hanswer)]
      exact iff_of_true (fun _ => hretry) (hresets hup (by rw [hqueue]; exact List.cons_ne_nil _ _))
  | fails hanswer hup hwait hqueue hretry =>
      have hne : r.driver.inqueue ≠ [] := hinv.sound.sends.pending hwait
      have hfailures : r.failures e = r.failed + 1 := if_pos hanswer
      have hstays : driver.inqueue = r.driver.inqueue ++ [] := by rw [hqueue, List.append_nil]
      rw [note_of_stays hstays, hfailures]
      refine iff_of_true ⟨?_, fun _ => ?_, h.removed⟩ (hresets hup hne)
      · dsimp only
        rw [if_neg fun hcame => hne hcame.2]
        exact h.starts
      · rw [hretry, h.retry hne]
  | refuses hanswer hup hcount hqueue hretry =>
      have hne : r.driver.inqueue ≠ [] := by rw [hqueue]; exact List.cons_ne_nil _ _
      have hfailures : r.failures e = r.failed + 1 := if_pos hanswer
      rw [h.gone hqueue (.inr (by rw [hfailures, ← h.retry hne]; omega))]
      exact iff_of_true (fun _ => hretry) (hresets hup hne)
  | givesUp hanswer hup hqueue hretry =>
      have hne : r.driver.inqueue ≠ [] := by rw [hqueue]; exact List.cons_ne_nil _ _
      have hfailures : r.failures e = r.failed + 1 := if_pos hanswer
      have hthree : 3 ≤ r.driver.retry + 1 := hup.2.1
      rw [h.gone hqueue (.inr (by rw [hfailures, ← h.retry hne]; exact hthree))]
      -- the next frame starts with the count of this one, which is not 0
      constructor
      · intro hzero
        refine ⟨fun _ => ?_, fun h => absurd h hne⟩
        rw [hqueue, List.length_cons]
        by_contra hmore
        have hnext : driver.inqueue ≠ [] := by
          rintro hnil
          rw [hnil] at hmore
          exact hmore le_rfl
        have hretry₀ := hzero hnext
        omega
      · intro hcond hnext
        have halone := hcond.alone hup
        rw [hqueue, List.length_cons] at halone
        exact absurd (List.length_eq_zero_iff.mp (by omega)) hnext

/-- A frame that comes to the front has not failed. -/
theorem Inv.note (h : Inv r) (hstep : r.driver.step e = .ok driver) : Inv (r.note e driver) := by
  refine ⟨h.sound.step hstep, fun hempty => ?_⟩
  have hempty : driver.inqueue = [] := hempty
  have hturn := TPUARTSerialLayer2Driver.step_sendTurn hstep
  cases hturn with
  | keeps hanswer hqueue hretry =>
      rw [note_of_stays hqueue]
      have hfailures : r.failures e = r.failed := if_neg (by rw [hanswer]; decide)
      rw [hempty] at hqueue
      exact hfailures.trans (h.empty (List.append_eq_nil_iff.mp hqueue.symm).1)
  | confirms hanswer hqueue => rw [note_of_gone hqueue]
  | fails hanswer hup hwait hqueue =>
      -- a frame that waits for its answer is still in the queue
      exact absurd (hqueue.symm.trans hempty) (h.sound.sends.pending hwait)
  | refuses hanswer hup hcount hqueue => rw [note_of_gone hqueue]
  | givesUp hanswer hup hqueue => rw [note_of_gone hqueue]

end Note

theorem Inv.step (h : Inv r) (hstep : r.step e = .ok r') : Inv r' := by
  obtain ⟨driver, hdriver, rfl⟩ := step_eq_ok hstep
  exact h.note hdriver

theorem Inv.exact_step (h : Inv r) (hexact : Exact r) (hstep : r.step e = .ok r') :
    Exact r' ↔ Resets r e := by
  rw [(h.step hstep).exact_iff_counted]
  obtain ⟨driver, hdriver, rfl⟩ := step_eq_ok hstep
  exact (h.exact_iff_counted.mp hexact).note h
    (TPUARTSerialLayer2Driver.step_sendTurn hdriver)

def start (a : EibAddr) (ackallgroup ackallindividual : Bool) : SendRun where
  driver := .start a ackallgroup ackallindividual

theorem start_inv (a : EibAddr) (ackallgroup ackallindividual : Bool) :
    Inv (start a ackallgroup ackallindividual) :=
  ⟨TPUARTSerialLayer2Driver.sound_start a ackallgroup ackallindividual, fun _ => rfl⟩

/-- Over a whole run: the attempts of each frame are counted from 0, and a frame leaves `inqueue`
    confirmed or after three failures of its own, if and only if no frame comes to the front behind
    one that was given up. -/
theorem attempts_iff {a : EibAddr} {ackallgroup ackallindividual : Bool} {es : List Event}
    {r : SendRun} (hrun : run SendRun.step (start a ackallgroup ackallindividual) es = .ok r) :
    HoldsAlong SendRun.step Exact (start a ackallgroup ackallindividual) es ↔
      StepsMeet SendRun.step Resets (start a ackallgroup ackallindividual) es := by
  have hinit := start_inv a ackallgroup ackallindividual
  have hstart : Counted (start a ackallgroup ackallindividual) := ⟨nofun, fun _ => rfl, nofun⟩
  exact holdsAlong_iff_of_run (fun r e r' (h : Inv r) hstep => h.step hstep)
    (fun r e r' h hexact hstep => h.exact_step hexact hstep) hinit
    (hinit.exact_iff_counted.mpr hstart) hrun

/-- A group telegram. -/
def groupValue : LPDU := .lData { dest := 0x0001#16, data := [0x00#8, 0x81#8] }

theorem attempts_iff_confirmed :
    ∃ r, run SendRun.step (start 0x1101#16 false false)
      [.call (.sendLData groupValue), .afterLoop false false, .read [0x8B#8], .pass false []] =
        .ok r ∧
      (HoldsAlong SendRun.step Exact (start 0x1101#16 false false)
        [.call (.sendLData groupValue), .afterLoop false false, .read [0x8B#8],
          .pass false []] ↔
      StepsMeet SendRun.step Resets (start 0x1101#16 false false)
        [.call (.sendLData groupValue), .afterLoop false false, .read [0x8B#8],
          .pass false []]) := by
  obtain ⟨r, hrun⟩ : ∃ r, run SendRun.step (start 0x1101#16 false false)
      [.call (.sendLData groupValue), .afterLoop false false, .read [0x8B#8], .pass false []] =
        .ok r := ⟨_, rfl⟩
  exact ⟨r, hrun, attempts_iff hrun⟩

/-- Two frames; the first is sent three times without an answer, the second is refused once. -/
def unanswered : List Event :=
  [.call (.sendLData groupValue), .call (.sendLData groupValue), .afterLoop false false,
    .read [], .pass false [], .afterLoop true false,
    .read [], .pass false [], .afterLoop true false,
    .read [], .pass false [], .afterLoop true false,
    .read [0x0B#8], .pass false []]

/-- The second frame starts with `retry` at 3, and is given up after a single failure. -/
theorem attempts_fails_unanswered :
    (∃ r, run SendRun.step (start 0x1101#16 false false) unanswered = .ok r ∧
      r.starts = [0, 3] ∧ r.removed = [⟨false, 3⟩, ⟨false, 1⟩]) ∧
    ¬ HoldsAlong SendRun.step Exact (start 0x1101#16 false false) unanswered := by
  have hend : ∃ r, run SendRun.step (start 0x1101#16 false false) unanswered = .ok r ∧
      r.starts = [0, 3] ∧ r.removed = [⟨false, 3⟩, ⟨false, 1⟩] := ⟨_, rfl, rfl, rfl⟩
  refine ⟨hend, fun h => ?_⟩
  obtain ⟨r, hrun, hstarts, -⟩ := hend
  have hexact := h unanswered [] r (List.append_nil _).symm hrun
  have hstart : 3 = 0 := hexact.starts 3 (by rw [hstarts]; decide)
  cases hstart

end SendRun

end BcuSdk.Eibd
