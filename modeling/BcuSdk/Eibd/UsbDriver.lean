/-
  BcuSdk.Eibd.UsbDriver

  `USBLowLevelDriver` (eibd/backend/usbif.cpp): reports of 64 bytes over two
  interrupt endpoints.

  `Run` keeps a transfer submitted that receives, and one that sends the packet
  in front of `inqueue`.  A packet stays there until its transfer is complete,
  so it is submitted again when the transfer ends otherwise.  The interface
  tells by a report of its own whether it is connected to the bus; nothing is
  submitted while it is not.
-/
import BcuSdk.Eibd.EibNetIp
import BcuSdk.Lib.Attempts
import BcuSdk.Lib.Simulation

namespace BcuSdk.Eibd

open BcuSdk.Lib

/-! ## The driver -/

/-- `USBLowLevelDriver`, with the variables of `Run`. -/
structure USBLowLevelDriver where
  inqueue : List CArray := []
  inSignal : Nat := 0
  /-- The value of `send_empty` is 1. -/
  sendEmpty : Bool := true
  outqueue : List CArray := []
  outSignal : Nat := 0
  connectionState : Bool := true
  /-- `recvh`: a transfer that receives is submitted. -/
  recvh : Bool := false
  recvbuf : CArray
  /-- `sendh`, with the report that is being sent. -/
  sendh : Option CArray := none
  /-- `Run` has not left its loop. -/
  running : Bool := true
  deriving DecidableEq, Repr

/-- What the USB does in a pass of the loop: whether a transfer can be allocated and submitted, and
    what one that is submitted has ended with. -/
structure USBPass where
  recvStarts : Bool := true
  /-- Whether the transfer is complete, and the bytes it has written. -/
  received : Option (Bool × CArray) := none
  /-- Whether the transfer is complete. -/
  sent : Option Bool := none
  sendStarts : Bool := true
  deriving DecidableEq, Repr

/-- What the driver does to its surroundings. -/
inductive USBAction where
  /-- A report is submitted. -/
  | started (report : CArray)
  /-- The transfer with the report is complete. -/
  | sent (report : CArray)
  /-- A report enters `outqueue`. -/
  | arrived (report : CArray)
  /-- `Get_Packet` returns a report. -/
  | taken (report : CArray)
  deriving DecidableEq, Repr

/-- `sendbuf` for a packet: zeros, and the packet as far as there is room. -/
def report (c : CArray) : CArray :=
  c.take (if c.length > 64 then 64 else c.length) ++ List.replicate (64 - c.length) 0#8

/-- The front of the report about the connection to the bus. -/
def connectionReport : CArray :=
  [0x01#8, 0x13#8, 0x0A#8, 0x00#8, 0x08#8, 0x00#8, 0x02#8, 0x0F#8, 0x04#8, 0x00#8, 0x00#8, 0x03#8]

/-- What a report leaves of `connection_state`. -/
def connectionAfter (connected : Bool) (recvbuf : CArray) : Bool :=
  if recvbuf.take 12 = connectionReport then recvbuf.getD 12 0#8 &&& 0x1#8 ≠ 0#8 else connected

namespace USBLowLevelDriver

variable (s : USBLowLevelDriver)

/-- `Send_Packet`. -/
def sendPacket (l : CArray) : USBLowLevelDriver :=
  { s with inqueue := s.inqueue ++ [l], inSignal := s.inSignal + 1, sendEmpty := false }

/-- `Send_Queue_Empty`. -/
def sendQueueEmpty : Bool := s.inqueue.isEmpty

/-- `Get_Packet`, which waits as long as there is nothing. -/
def getPacket : Checked (List USBAction × USBLowLevelDriver) :=
  if s.outSignal = 0 then .ok ([], s)
  else do
    let (c, outqueue) ← Queue.get s.outqueue
    return ([.taken c], { s with outqueue, outSignal := s.outSignal - 1 })

/-- The transfer that receives has ended. -/
def onReceived (complete : Bool) (data : CArray) : List USBAction × USBLowLevelDriver :=
  let recvbuf := (data ++ s.recvbuf.drop data.length).take 64
  if complete then
    -- the report is the whole buffer, also when less has been received
    ([.arrived recvbuf],
      { s with
        recvh := false, recvbuf, outqueue := s.outqueue ++ [recvbuf]
        outSignal := s.outSignal + 1
        connectionState := connectionAfter s.connectionState recvbuf })
  else ([], { s with recvh := false, recvbuf })

/-- The transfer that sends `r` has ended. -/
def onSent (r : CArray) : Bool → Checked (List USBAction × USBLowLevelDriver)
  | false => .ok ([], { s with sendh := none })
  | true => do
      -- `pth_sem_dec` would wait
      check (0 < s.inSignal)
      let (_, inqueue) ← Queue.get s.inqueue
      return ([.sent r],
        { s with
          inqueue, inSignal := s.inSignal - 1, sendEmpty := s.sendEmpty || inqueue.isEmpty,
          sendh := none })

/-- The packet in front is submitted. -/
def startSend (starts : Bool) : Checked (List USBAction × USBLowLevelDriver) := do
  let c ← Queue.top s.inqueue
  if starts then return ([.started (report c)], { s with sendh := some (report c) })
  else return ([], { s with running := false })

/-- The part of a pass behind the one that receives. -/
def sendPhase (p : USBPass) : Checked (List USBAction × USBLowLevelDriver) :=
  match s.sendh, p.sent with
  | some r, some complete => s.onSent r complete
  | some _, none => .ok ([], s)
  | none, _ =>
      if ¬ s.inqueue.isEmpty ∧ s.connectionState then s.startSend p.sendStarts else .ok ([], s)

/-- One pass of the loop, up to the next `continue` or `pth_wait`. -/
def pass (p : USBPass) : Checked (List USBAction × USBLowLevelDriver) :=
  if s.running = false then .ok ([], s)
  else if s.recvh then
    match p.received with
    | some r => .ok (s.onReceived r.1 r.2)
    | none => s.sendPhase p
  else if p.recvStarts then { s with recvh := true }.sendPhase p
  else .ok ([], { s with running := false })

end USBLowLevelDriver

/-- What happens to a driver. -/
inductive USBEvent where
  | sendPacket (l : CArray)
  | getPacket
  | pass (p : USBPass)
  deriving DecidableEq, Repr

namespace USBLowLevelDriver

/-- One event. -/
def step (s : USBLowLevelDriver) : USBEvent → Checked (List USBAction × USBLowLevelDriver)
  | .sendPacket l => .ok ([], s.sendPacket l)
  | .getPacket => s.getPacket
  | .pass p => s.pass p

/-- The driver as its constructor leaves it; nobody has written the receive buffer. -/
def init (recvbuf : CArray) : USBLowLevelDriver := { recvbuf }

end USBLowLevelDriver

/-! ## What is kept -/

/-- The packets handed in. -/
def USBEvent.accepted : USBEvent → List CArray
  | .sendPacket l => [l]
  | _ => []

namespace USBAction

/-- The report submitted. -/
def started? : USBAction → Option CArray
  | .started r => some r
  | _ => none

/-- The report sent. -/
def sent? : USBAction → Option CArray
  | .sent r => some r
  | _ => none

/-- The report received. -/
def arrived? : USBAction → Option CArray
  | .arrived r => some r
  | _ => none

/-- The report taken. -/
def taken? : USBAction → Option CArray
  | .taken r => some r
  | _ => none

end USBAction

/-- The interface has told that it is connected, the last time it has told about it. -/
def connectedBehind (connected : Bool) (as : List USBAction) : Bool :=
  (as.filterMap USBAction.arrived?).foldl connectionAfter connected

/-- Nothing is submitted while the interface is not connected. -/
def Gated (connected : Bool) : List USBAction → Prop
  | [] => True
  | .started _ :: as => connected = true ∧ Gated connected as
  | .arrived r :: as => Gated (connectionAfter connected r) as
  | _ :: as => Gated connected as

theorem gated_append {connected : Bool} {as bs : List USBAction} :
    Gated connected (as ++ bs) ↔ Gated connected as ∧ Gated (connectedBehind connected as) bs := by
  induction as generalizing connected with
  | nil => exact (and_iff_right trivial).symm
  | cons a as ih =>
      cases a with
      | started r =>
          rw [List.cons_append, Gated, Gated, ih, and_assoc]
          rfl
      | sent r => exact ih
      | arrived r => exact ih
      | taken r => exact ih

namespace USBLowLevelDriver

/-- What a run has done with the packets and the reports.  The packets handed in are sent in their
    order or wait behind those; each one that is sent has been submitted once or more, and the one
    in front may have been; reports are taken as they arrive; and `send_empty` tells whether
    everything has been sent. -/
structure Kept (es : List USBEvent) (as : List USBAction) (s : USBLowLevelDriver) : Prop where
  sent : (es.flatMap USBEvent.accepted).map report =
    as.filterMap USBAction.sent? ++ s.inqueue.map report
  tried : ∃ pending, Attempts (as.filterMap USBAction.started?) (as.filterMap USBAction.sent?)
    pending ∧ (∀ r ∈ pending, (s.inqueue.map report).head? = some r) ∧
    ∀ r ∈ s.sendh, pending = some r
  taken : as.filterMap USBAction.arrived? = as.filterMap USBAction.taken? ++ s.outqueue
  inSignal : s.inSignal = s.inqueue.length
  outSignal : s.outSignal = s.outqueue.length
  sendEmpty : s.sendEmpty = s.sendQueueEmpty
  connected : s.connectionState = connectedBehind true as
  gated : Gated true as

variable {s s' : USBLowLevelDriver} {es : List USBEvent} {e : USBEvent} {as bs : List USBAction}

/-- Nothing that is seen happens, and the state differs where it does not matter. -/
theorem Kept.quiet (hs : Kept es as s) (he : e.accepted = []) (hin : s'.inqueue = s.inqueue)
    (hout : s'.outqueue = s.outqueue) (hinSignal : s'.inSignal = s.inSignal)
    (houtSignal : s'.outSignal = s.outSignal) (hempty : s'.sendEmpty = s.sendEmpty)
    (hconnected : s'.connectionState = s.connectionState)
    (hsendh : ∀ r ∈ s'.sendh, s.sendh = some r) : Kept (es ++ [e]) (as ++ []) s' := by
  obtain ⟨pending, htried, hhead, hpending⟩ := hs.tried
  rw [List.append_nil]
  refine ⟨?_, ⟨pending, htried, ?_, fun r hr => hpending r (hsendh r hr)⟩, ?_, ?_, ?_, ?_, ?_,
    hs.gated⟩
  · rw [List.flatMap_append, List.flatMap_singleton, he, List.append_nil, hs.sent, hin]
  · rwa [hin]
  · rw [hs.taken, hout]
  · rw [hinSignal, hs.inSignal, hin]
  · rw [houtSignal, hs.outSignal, hout]
  · rw [hempty, hs.sendEmpty, sendQueueEmpty, sendQueueEmpty, hin]
  · rw [hconnected, hs.connected]

theorem Kept.sendPacket (hs : Kept es as s) (l : CArray) :
    Kept (es ++ [.sendPacket l]) (as ++ []) (s.sendPacket l) := by
  obtain ⟨pending, htried, hhead, hpending⟩ := hs.tried
  rw [List.append_nil]
  refine ⟨?_, ⟨pending, htried, fun r hr => ?_, hpending⟩, hs.taken, ?_, hs.outSignal, ?_,
    hs.connected, hs.gated⟩
  · rw [List.flatMap_append, List.map_append, hs.sent, List.append_assoc]
    exact congrArg (_ ++ ·) List.map_append.symm
  · -- behind the packet in front
    rw [USBLowLevelDriver.sendPacket, List.map_append, List.head?_append, hhead r hr]
    rfl
  · rw [USBLowLevelDriver.sendPacket, hs.inSignal, List.length_append]
    rfl
  · simp [USBLowLevelDriver.sendPacket, sendQueueEmpty]

theorem Kept.getPacket (hs : Kept es as s) :
    ∃ bs s', s.getPacket = .ok (bs, s') ∧ Kept (es ++ [.getPacket]) (as ++ bs) s' := by
  rw [USBLowLevelDriver.getPacket]
  by_cases hsig : s.outSignal = 0
  · rw [if_pos hsig]
    exact ⟨_, _, rfl, hs.quiet rfl rfl rfl rfl rfl rfl rfl fun _ h => h⟩
  rw [if_neg hsig]
  rcases hout : s.outqueue with _ | ⟨c, rest⟩
  · exact absurd (by rw [hs.outSignal, hout]; rfl) hsig
  refine ⟨_, _, rfl, ?_⟩
  obtain ⟨pending, htried, hhead, hpending⟩ := hs.tried
  refine ⟨?_, ⟨pending, ?_, hhead, hpending⟩, ?_, hs.inSignal, ?_, hs.sendEmpty, ?_, ?_⟩
  · simpa [List.filterMap_cons, USBEvent.accepted, USBAction.sent?] using hs.sent
  · simpa [List.filterMap_cons, USBAction.started?, USBAction.sent?] using htried
  · simpa [List.filterMap_cons, USBAction.arrived?, USBAction.taken?, hout] using hs.taken
  · rw [hs.outSignal, hout, List.length_cons, Nat.add_sub_cancel]
  · simpa [connectedBehind, List.filterMap_cons, USBAction.arrived?] using hs.connected
  · exact gated_append.mpr ⟨hs.gated, trivial⟩

theorem connectedBehind_append {connected : Bool} :
    connectedBehind connected (as ++ bs) = connectedBehind (connectedBehind connected as) bs := by
  rw [connectedBehind, List.filterMap_append, List.foldl_append]
  rfl

theorem Kept.onReceived (hs : Kept es as s) (p : USBPass) (complete : Bool) (data : CArray) :
    Kept (es ++ [.pass p]) (as ++ (s.onReceived complete data).1)
      (s.onReceived complete data).2 := by
  rw [USBLowLevelDriver.onReceived]
  generalize (data ++ s.recvbuf.drop data.length).take 64 = recvbuf
  cases complete with
  | false => exact hs.quiet rfl rfl rfl rfl rfl rfl rfl fun _ h => h
  | true =>
      obtain ⟨pending, htried, hhead, hpending⟩ := hs.tried
      refine ⟨?_, ⟨pending, ?_, hhead, hpending⟩, ?_, hs.inSignal, ?_, hs.sendEmpty, ?_, ?_⟩
      · simpa [List.filterMap_cons, USBEvent.accepted, USBAction.sent?] using hs.sent
      · simpa [List.filterMap_cons, USBAction.started?, USBAction.sent?] using htried
      · simp [List.filterMap_cons, USBAction.arrived?, USBAction.taken?, hs.taken]
      · simp [hs.outSignal]
      · rw [if_pos rfl, connectedBehind_append, ← hs.connected]
        rfl
      · exact gated_append.mpr ⟨hs.gated, trivial⟩

theorem Kept.onSent (hs : Kept es as s) (p : USBPass) {r : CArray} (hr : s.sendh = some r)
    (complete : Bool) :
    ∃ bs s', s.onSent r complete = .ok (bs, s') ∧ Kept (es ++ [.pass p]) (as ++ bs) s' := by
  cases complete with
  | false =>
      exact ⟨_, _, rfl, hs.quiet rfl rfl rfl rfl rfl rfl rfl fun _ h =>
        (Option.not_mem_none _ h).elim⟩
  | true =>
      obtain ⟨pending, htried, hhead, hpending⟩ := hs.tried
      obtain rfl := hpending r hr
      have hfront := hhead r rfl
      rcases hin : s.inqueue with _ | ⟨c, rest⟩
      · rw [hin] at hfront
        cases hfront
      rw [hin] at hfront
      obtain rfl : report c = r := Option.some.inj hfront
      have hsig : check (0 < s.inSignal) = .ok () := check_of (by simp [hs.inSignal, hin])
      rw [USBLowLevelDriver.onSent, hsig, Checked.ok_bind, hin]
      refine ⟨_, _, rfl, ?_⟩
      refine ⟨?_, ⟨none, ?_, by simp, by simp⟩, ?_, ?_, hs.outSignal, ?_,
        ?_, ?_⟩
      · simpa [List.filterMap_cons, USBEvent.accepted, USBAction.sent?, hin] using hs.sent
      · simpa [List.filterMap_cons, USBAction.started?, USBAction.sent?] using htried.done
      · simpa [List.filterMap_cons, USBAction.arrived?, USBAction.taken?] using hs.taken
      · rw [hs.inSignal, hin, List.length_cons, Nat.add_sub_cancel]
      · simp [sendQueueEmpty, hs.sendEmpty, hin]
      · simpa [connectedBehind, List.filterMap_cons, USBAction.arrived?] using hs.connected
      · exact gated_append.mpr ⟨hs.gated, trivial⟩

theorem Kept.startSend (hs : Kept es as s) (p : USBPass) (hin : ¬ s.inqueue.isEmpty)
    (hconnected : s.connectionState = true) (starts : Bool) :
    ∃ bs s', s.startSend starts = .ok (bs, s') ∧ Kept (es ++ [.pass p]) (as ++ bs) s' := by
  rcases hfront : s.inqueue with _ | ⟨c, rest⟩
  · rw [hfront] at hin
    exact absurd rfl hin
  rw [USBLowLevelDriver.startSend, hfront]
  cases starts with
  | false =>
      exact ⟨_, _, rfl, hs.quiet rfl hfront.symm rfl rfl rfl rfl rfl fun _ h => h⟩
  | true =>
      obtain ⟨pending, htried, hhead, -⟩ := hs.tried
      have hagain : ∀ r ∈ pending, r = report c := fun r hr => by
        have h := hhead r hr
        rw [hfront] at h
        exact (Option.some.inj h).symm
      refine ⟨_, _, rfl, ?_⟩
      refine ⟨?_, ⟨some (report c), ?_, ?_, by simp⟩, ?_, ?_, hs.outSignal, ?_, ?_, ?_⟩
      · simpa [List.filterMap_cons, USBEvent.accepted, USBAction.sent?, hfront] using hs.sent
      · simpa [List.filterMap_cons, USBAction.started?, USBAction.sent?] using htried.again hagain
      · simp
      · simpa [List.filterMap_cons, USBAction.arrived?, USBAction.taken?] using hs.taken
      · rw [hs.inSignal, hfront]
      · simp [sendQueueEmpty, hs.sendEmpty, hfront]
      · simpa [connectedBehind, List.filterMap_cons, USBAction.arrived?] using hs.connected
      · exact gated_append.mpr ⟨hs.gated, hs.connected.symm.trans hconnected, trivial⟩

theorem Kept.sendPhase (hs : Kept es as s) (p : USBPass) :
    ∃ bs s', s.sendPhase p = .ok (bs, s') ∧ Kept (es ++ [.pass p]) (as ++ bs) s' := by
  have hnothing : Kept (es ++ [.pass p]) (as ++ []) s :=
    hs.quiet rfl rfl rfl rfl rfl rfl rfl fun _ h => h
  rw [USBLowLevelDriver.sendPhase.eq_def]
  split
  · next hsendh _ => exact hs.onSent p hsendh _
  · exact ⟨_, _, rfl, hnothing⟩
  · split
    · next hstart => exact hs.startSend p hstart.1 hstart.2 _
    · exact ⟨_, _, rfl, hnothing⟩

theorem Kept.pass (hs : Kept es as s) (p : USBPass) :
    ∃ bs s', s.pass p = .ok (bs, s') ∧ Kept (es ++ [.pass p]) (as ++ bs) s' := by
  rw [USBLowLevelDriver.pass.eq_def]
  split
  · exact ⟨_, _, rfl, hs.quiet rfl rfl rfl rfl rfl rfl rfl fun _ h => h⟩
  split
  · split
    · exact ⟨_, _, rfl, hs.onReceived p _ _⟩
    · exact hs.sendPhase p
  split
  · have hstarted : Kept es as { s with recvh := true } := ⟨hs.sent, hs.tried, hs.taken,
      hs.inSignal, hs.outSignal, hs.sendEmpty, hs.connected, hs.gated⟩
    exact hstarted.sendPhase p
  · exact ⟨_, _, rfl, hs.quiet rfl rfl rfl rfl rfl rfl rfl fun _ h => h⟩

theorem Kept.step (hs : Kept es as s) (e : USBEvent) :
    ∃ bs s', s.step e = .ok (bs, s') ∧ Kept (es ++ [e]) (as ++ bs) s' := by
  cases e with
  | sendPacket l => exact ⟨_, _, rfl, hs.sendPacket l⟩
  | getPacket => exact hs.getPacket
  | pass p => exact hs.pass p

end USBLowLevelDriver

end BcuSdk.Eibd
