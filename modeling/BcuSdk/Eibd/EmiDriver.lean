/-
  BcuSdk.Eibd.EmiDriver

  The Layer 2 drivers for bus interfaces that speak EMI1 and EMI2
  (eibd/libserver/emi1.cpp, emi2.cpp).

  The two sources differ in message codes and in the packets that switch the
  interface between its modes, and in nothing else but a pause.  The loop of
  `Run` takes a packet from the interface, if there is one, and sends the frame
  in front of `inqueue`; other threads hand frames in, take frames out and
  switch modes at any time, also while `Run` waits for the interface to come
  back after a reset.  Times are in microseconds.
-/
import BcuSdk.Eibd.Connection
import BcuSdk.Eibd.EibNetIp
import BcuSdk.Eibd.FrameSafety
import BcuSdk.Eibd.LpduRoundTrip
import BcuSdk.Lib.Simulation

namespace BcuSdk.Eibd

open BcuSdk.Lib

/-! ## The source -/

/-- `Decode` of any frame class. -/
def LPDU.decodeAny : LPDU → Checked Unit
  | .busmonitor l => l.decode
  | f => f.decode

inductive EMIVersion where
  | emi1
  | emi2
  deriving DecidableEq, Repr

namespace EMIVersion

/-- The code of `L_Data.con`. -/
def con : EMIVersion → Byte
  | .emi1 => 0x4E#8
  | .emi2 => 0x2E#8

/-- The code of `L_Data.ind`. -/
def ind : EMIVersion → Byte
  | .emi1 => 0x49#8
  | .emi2 => 0x29#8

/-- The code of `L_Busmon.ind`. -/
def busmonInd : EMIVersion → Byte
  | .emi1 => 0x49#8
  | .emi2 => 0x2B#8

/-- What `Open` sends. -/
def openPackets : EMIVersion → List CArray
  | .emi1 => [[0x46#8, 0x01#8, 0x00#8, 0x60#8, 0x12#8]]
  | .emi2 => [[0xa9#8, 0x1E#8, 0x12#8, 0x34#8, 0x56#8, 0x78#8, 0x9a#8],
      [0xa9#8, 0x00#8, 0x18#8, 0x34#8, 0x56#8, 0x78#8, 0x0a#8]]

/-- What `enterBusmonitor` sends. -/
def busmonPackets : EMIVersion → List CArray
  | .emi1 => [[0x46#8, 0x01#8, 0x00#8, 0x60#8, 0x90#8]]
  | .emi2 => [[0xa9#8, 0x1E#8, 0x12#8, 0x34#8, 0x56#8, 0x78#8, 0x9a#8],
      [0xa9#8, 0x90#8, 0x18#8, 0x34#8, 0x45#8, 0x67#8, 0x8a#8]]

/-- What `Close` and `leaveBusmonitor` send. -/
def closePacket : EMIVersion → CArray
  | .emi1 => [0x46#8, 0x01#8, 0x00#8, 0x60#8, 0xc0#8]
  | .emi2 => [0xa9#8, 0x1E#8, 0x12#8, 0x34#8, 0x56#8, 0x78#8, 0x9a#8]

/-- Only EMI1 pauses between the reset and the packets of `enterBusmonitor`. -/
def pauses : EMIVersion → Bool
  | .emi1 => true
  | .emi2 => false

end EMIVersion

/-- `Open`, `Close`, `enterBusmonitor` and `leaveBusmonitor`. -/
inductive ModeCall where
  | open
  | close
  | enterBusmonitor
  | leaveBusmonitor
  deriving DecidableEq, Repr

/-- The mode in which the call does something. -/
def ModeCall.from : ModeCall → Nat
  | .open => 0
  | .close => 2
  | .enterBusmonitor => 0
  | .leaveBusmonitor => 1

/-- The mode it sets at its end. -/
def ModeCall.to : ModeCall → Nat
  | .open => 2
  | .close => 0
  | .enterBusmonitor => 1
  | .leaveBusmonitor => 0

/-- A call that waits: in the pause before its packets, or for the interface to have sent them. -/
structure Waiting where
  call : ModeCall
  pausing : Bool
  deriving DecidableEq, Repr

/-- `EMI1Layer2Interface` and `EMI2Layer2Interface`. -/
structure EMILayer2Interface where
  version : EMIVersion
  noqueue : Bool
  showPrint : Bool
  mode : Nat := 0
  vmode : Bool := false
  sendmode : Nat := 0
  /-- The time at which the event of that name occurs. -/
  timeout : Nat := 0
  inqueue : List LDataPDU := []
  inSignal : Nat := 0
  outqueue : List LPDU := []
  outSignal : Nat := 0
  /-- The calls of other threads that wait. -/
  calls : List Waiting := []
  /-- The call in which `Run` itself waits, after a reset of the interface. -/
  reopening : Option Waiting := none
  deriving DecidableEq, Repr

/-- What the driver does to its surroundings. -/
inductive EMIAction where
  /-- `iface->SendReset`. -/
  | sendReset
  /-- `iface->Send_Packet`. -/
  | sendPacket (c : CArray)
  /-- The frame that has been sent goes into `outqueue`. -/
  | echo (l : LDataPDU)
  /-- The TP1 form of a frame goes into `outqueue` for the virtual busmonitor. -/
  | report (pdu : CArray)
  /-- A received frame goes into `outqueue`. -/
  | deliver (f : LPDU)
  /-- `Get_L_Data` returns a frame. -/
  | taken (f : LPDU)
  /-- What a call for a mode returns. -/
  | answer (b : Bool)
  deriving DecidableEq, Repr

namespace EMILayer2Interface

variable (s : EMILayer2Interface)

/-- `outqueue.put` and `pth_sem_inc`. -/
def put (f : LPDU) : EMILayer2Interface :=
  { s with outqueue := s.outqueue ++ [f], outSignal := s.outSignal + 1 }

/-! ### Sending -/

/-- `Send_L_Data`. -/
def sendLData (l : LPDU) : Checked EMILayer2Interface := do
  tracePrintf s.showPrint l.decodeAny
  match l with
  | .lData l1 =>
      if l.getType = .lData then
        check (l1.data.length ≥ 1)
        if l1.data.length > 0x10 then
          return s
        else
          check (l1.data.length ≤ 0x10)
          check (l1.hopcount &&& 0xf8#8 = 0#8)
          return { s with inqueue := s.inqueue ++ [l1], inSignal := s.inSignal + 1 }
      else
        return s
  | _ => return s

/-- `Send`. -/
def send (l : LDataPDU) : Checked (List EMIAction × EMILayer2Interface) := do
  tracePrintf s.showPrint l.decode
  let pdu := lDataToEMI 0x11#8 l
  if s.vmode then
    let c ← l.toPacket
    return ([.sendPacket pdu, .report c, .echo l],
      (s.put (.busmonitor { pdu := c })).put (.lData l))
  else
    return ([.sendPacket pdu, .echo l], s.put (.lData l))

/-- The part of a pass that sends; `in_signal` is never counted down. -/
def sendPhase (now : Nat) : Checked (List EMIAction × EMILayer2Interface) :=
  match s.inqueue with
  | [] => .ok ([], s)
  | l :: rest =>
      if s.sendmode = 0 then do
        let (as, s') ← { s with inqueue := rest }.send l
        if s.noqueue then
          return (as, { s' with timeout := now + 1000000, sendmode := 1 })
        else
          return (as, { s' with sendmode := 0 })
      else
        .ok ([], s)

/-- `if (sendmode == 1 && pth_event_status (timeout) == PTH_STATUS_OCCURRED) sendmode = 0;` -/
def timeoutPhase (now : Nat) : EMILayer2Interface :=
  if s.sendmode = 1 ∧ s.timeout ≤ now then { s with sendmode := 0 } else s

/-! ### Modes -/

/-- The packets a call sends after its reset or pause. -/
def packets : ModeCall → List CArray
  | .open => s.version.openPackets
  | .enterBusmonitor => s.version.busmonPackets
  | _ => [s.version.closePacket]

/-- A call up to the first place at which it waits. -/
def start (call : ModeCall) : List EMIAction × Waiting :=
  let packets := (s.packets call).map .sendPacket
  match call with
  | .open => (.sendReset :: packets, ⟨call, false⟩)
  | .enterBusmonitor =>
      if s.version.pauses then ([.sendReset], ⟨call, true⟩)
      else (.sendReset :: packets, ⟨call, false⟩)
  | _ => (packets, ⟨call, false⟩)

/-- A call of another thread. -/
def call (call : ModeCall) : List EMIAction × EMILayer2Interface :=
  if s.mode ≠ call.from then ([.answer false], s)
  else
    let (as, w) := s.start call
    (as, { s with calls := s.calls ++ [w] })

/-- The call at index `i` goes on. -/
def resume (i : Nat) : List EMIAction × EMILayer2Interface :=
  match s.calls[i]? with
  | none => ([], s)
  | some w =>
      if w.pausing then
        ((s.packets w.call).map .sendPacket,
          { s with calls := s.calls.set i { w with pausing := false } })
      else ([.answer true], { s with mode := w.call.to, calls := s.calls.eraseIdx i })

/-- `Run` goes on behind `Open ()` or `enterBusmonitor ()`. -/
def resumeRun : List EMIAction × EMILayer2Interface :=
  match s.reopening with
  | none => ([], s)
  | some w =>
      if w.pausing then
        ((s.packets w.call).map .sendPacket,
          { s with reopening := some { w with pausing := false } })
      else ([], { s with mode := w.call.to, reopening := none })

/-- `mode = 0;` and the call that has led to the old mode. -/
def reopen (call : ModeCall) : List EMIAction × EMILayer2Interface :=
  let (as, w) := s.start call
  (as, { s with mode := 0, reopening := some w })

/-! ### Receiving -/

/-- An `L_Data.ind`. -/
def onInd (c : CArray) : Checked (List EMIAction × EMILayer2Interface) := do
  match ← emiToLData c with
  | none => return ([], s)
  | some p =>
      let p := if p.addrType = .individualAddress then { p with dest := 0 } else p
      tracePrintf s.showPrint p.decode
      if s.vmode then
        let pdu ← p.toPacket
        return ([.report pdu, .deliver (.lData p)],
          (s.put (.busmonitor { pdu := pdu })).put (.lData p))
      else
        return ([.deliver (.lData p)], s.put (.lData p))

/-- An `L_Busmon.ind`. -/
def onBusmonInd (c : CArray) : Checked (List EMIAction × EMILayer2Interface) := do
  let c2 ← readByte c 2
  let c3 ← readByte c 3
  let p : LBusmonitorPDU :=
    { status := ← readByte c 1
      timestamp := (c2.zeroExtend 32 <<< 24) ||| (c3.zeroExtend 32 <<< 16)
      pdu := c.drop 4 }
  tracePrintf s.showPrint p.decode
  return ([.deliver (.busmonitor p)], s.put (.busmonitor p))

/-- The part of a pass behind `if (!c) continue;`. -/
def onPacket (c : CArray) : Checked (List EMIAction × EMILayer2Interface) :=
  if c = [0xA0#8] then
    if s.mode = 2 then .ok (s.reopen .open)
    else if s.mode = 1 then .ok (s.reopen .enterBusmonitor)
    else .ok ([], s)
  else if c.head? = some s.version.con then
    .ok ([], { s with sendmode := 0 })
  else if c.head? = some s.version.ind ∧ s.mode = 2 then
    s.onInd c
  else if c.length > 4 ∧ c.head? = some s.version.busmonInd ∧ s.mode = 1 then
    s.onBusmonInd c
  else
    .ok ([], s)

/-- One pass of the loop of `Run` with what `Get_Packet` returned; there is none while `Run` waits
    in a call. -/
def pass (now : Nat) (c : Option CArray) : Checked (List EMIAction × EMILayer2Interface) :=
  if s.reopening.isSome then .ok ([], s)
  else do
    let (sends, s₁) ← s.sendPhase now
    let s₂ := s₁.timeoutPhase now
    match c with
    | none => return (sends, s₂)
    | some c =>
        let (as, s₃) ← s₂.onPacket c
        return (sends ++ as, s₃)

/-- `Get_L_Data`, which waits as long as there is nothing. -/
def getLData : Checked (List EMIAction × EMILayer2Interface) :=
  if s.outSignal = 0 then .ok ([], s)
  else do
    let (l, outqueue) ← Queue.get s.outqueue
    tracePrintf s.showPrint l.decodeAny
    return ([.taken l], { s with outqueue, outSignal := s.outSignal - 1 })

end EMILayer2Interface

/-- What happens to a driver. -/
inductive EMIEvent where
  | sendLData (l : LPDU)
  | pass (now : Nat) (c : Option CArray)
  | getLData
  | call (call : ModeCall)
  | resume (i : Nat)
  | resumeRun
  /-- `openVBusmonitor` and `closeVBusmonitor`. -/
  | vbusmonitor (open_ : Bool)
  deriving DecidableEq, Repr

namespace EMILayer2Interface

/-- One event. -/
def step (s : EMILayer2Interface) : EMIEvent → Checked (List EMIAction × EMILayer2Interface)
  | .sendLData l => do return ([], ← s.sendLData l)
  | .pass now c => s.pass now c
  | .getLData => s.getLData
  | .call call => .ok (s.call call)
  | .resume i => .ok (s.resume i)
  | .resumeRun => .ok s.resumeRun
  | .vbusmonitor open_ => .ok ([], { s with vmode := open_ })

/-- The driver as its constructor leaves it. -/
def init (version : EMIVersion) (noqueue showPrint : Bool) : EMILayer2Interface :=
  { version, noqueue, showPrint }

end EMILayer2Interface

/-! ## What an event does to the queues -/

/-- The frames that `Send_L_Data` takes; longer ones are dropped. -/
def EMIEvent.accepted : EMIEvent → List LDataPDU
  | .sendLData (.lData l) => if l.validLength ∧ l.data.length ≤ 0x10 then [l] else []
  | _ => []

namespace EMIAction

/-- The `L_Data.req` sent. -/
def request? : EMIAction → Option CArray
  | .sendPacket c => if c.head? = some 0x11#8 then some c else none
  | _ => none

/-- The frame sent. -/
def sent? : EMIAction → Option LDataPDU
  | .echo l => some l
  | _ => none

/-- What goes into `outqueue`. -/
def put? : EMIAction → Option LPDU
  | .echo l => some (.lData l)
  | .report pdu => some (.busmonitor { pdu })
  | .deliver f => some f
  | _ => none

/-- What leaves it. -/
def taken? : EMIAction → Option LPDU
  | .taken f => some f
  | _ => none

end EMIAction

namespace EMILayer2Interface

variable {s s' : EMILayer2Interface} {as : List EMIAction}

/-- What an event can do to the queues: frames enter them at the end and leave them in front, a
    frame leaves `inqueue` only as a request, and with each one it goes into `outqueue`. -/
structure Turn (s : EMILayer2Interface) (accepted : List LDataPDU) (as : List EMIAction)
    (s' : EMILayer2Interface) : Prop where
  sent : s.inqueue ++ accepted = as.filterMap EMIAction.sent? ++ s'.inqueue
  requests : as.filterMap EMIAction.request? =
    (as.filterMap EMIAction.sent?).map (lDataToEMI 0x11#8)
  out : s.outqueue ++ as.filterMap EMIAction.put? =
    as.filterMap EMIAction.taken? ++ s'.outqueue
  signal : s.outSignal = s.outqueue.length → s'.outSignal = s'.outqueue.length
  noqueue : s'.noqueue = s.noqueue
  version : s'.version = s.version
  showPrint : s'.showPrint = s.showPrint

theorem Turn.refl (s : EMILayer2Interface) : Turn s [] [] s :=
  ⟨by simp, rfl, by simp, id, rfl, rfl, rfl⟩

/-- One turn after the other. -/
theorem Turn.trans {s₁ s₂ s₃ : EMILayer2Interface} {ls : List LDataPDU} {as₁ as₂ : List EMIAction}
    (h₁ : Turn s₁ ls as₁ s₂) (h₂ : Turn s₂ [] as₂ s₃)
    (htaken : as₂.filterMap EMIAction.taken? = []) : Turn s₁ ls (as₁ ++ as₂) s₃ where
  sent := by
    have hsent := h₂.sent
    rw [List.append_nil] at hsent
    rw [h₁.sent, hsent, List.filterMap_append, List.append_assoc]
  requests := by
    rw [List.filterMap_append, List.filterMap_append, List.map_append, h₁.requests, h₂.requests]
  out := by
    have hout := h₂.out
    rw [htaken, List.nil_append] at hout
    rw [List.filterMap_append, List.filterMap_append, htaken, List.append_nil, ← hout,
      ← List.append_assoc, h₁.out, List.append_assoc]
  signal h := h₂.signal (h₁.signal h)
  noqueue := h₂.noqueue.trans h₁.noqueue
  version := h₂.version.trans h₁.version
  showPrint := h₂.showPrint.trans h₁.showPrint

/-- Packets that are no requests, and answers, leave the queues alone. -/
theorem Turn.of_quiet (hin : s'.inqueue = s.inqueue) (hout : s'.outqueue = s.outqueue)
    (hsig : s'.outSignal = s.outSignal) (hnoqueue : s'.noqueue = s.noqueue)
    (hversion : s'.version = s.version) (hshow : s'.showPrint = s.showPrint)
    (hquiet : ∀ a ∈ as, a.sent? = none ∧ a.request? = none ∧ a.put? = none ∧ a.taken? = none) :
    Turn s [] as s' where
  sent := by
    rw [List.filterMap_eq_nil_iff.mpr fun a ha => (hquiet a ha).1, hin, List.append_nil,
      List.nil_append]
  requests := by
    rw [List.filterMap_eq_nil_iff.mpr fun a ha => (hquiet a ha).1,
      List.filterMap_eq_nil_iff.mpr fun a ha => (hquiet a ha).2.1, List.map_nil]
  out := by
    rw [List.filterMap_eq_nil_iff.mpr fun a ha => (hquiet a ha).2.2.1,
      List.filterMap_eq_nil_iff.mpr fun a ha => (hquiet a ha).2.2.2, hout, List.append_nil,
      List.nil_append]
  signal h := by rw [hsig, hout, h]
  noqueue := hnoqueue
  version := hversion
  showPrint := hshow

/-- The packets of a change of mode are no requests. -/
theorem quiet_packets (s : EMILayer2Interface) (call : ModeCall) :
    ∀ a ∈ (s.packets call).map EMIAction.sendPacket,
      a.sent? = none ∧ a.request? = none ∧ a.put? = none ∧ a.taken? = none := by
  intro a ha
  obtain ⟨c, hc, rfl⟩ := List.mem_map.mp ha
  have hhead : c.head? ≠ some 0x11#8 := by
    cases hv : s.version <;> cases call <;>
      simp [packets, hv, EMIVersion.openPackets, EMIVersion.busmonPackets,
        EMIVersion.closePacket] at hc
    all_goals first
      | (obtain rfl := hc; decide)
      | (rcases hc with rfl | rfl <;> decide)
  refine ⟨rfl, ?_, rfl, rfl⟩
  rw [EMIAction.request?, if_neg hhead]

theorem quiet_start (s : EMILayer2Interface) (call : ModeCall) :
    ∀ a ∈ (s.start call).1,
      a.sent? = none ∧ a.request? = none ∧ a.put? = none ∧ a.taken? = none := by
  have hpackets := quiet_packets s call
  have hreset : ∀ a ∈ EMIAction.sendReset :: (s.packets call).map EMIAction.sendPacket,
      a.sent? = none ∧ a.request? = none ∧ a.put? = none ∧ a.taken? = none := by
    intro a ha
    rcases List.mem_cons.mp ha with rfl | ha
    · exact ⟨rfl, rfl, rfl, rfl⟩
    · exact hpackets a ha
  cases call with
  | «open» => exact hreset
  | enterBusmonitor =>
      rw [start]
      split
      · intro a ha
        cases List.mem_singleton.mp ha
        exact ⟨rfl, rfl, rfl, rfl⟩
      · exact hreset
  | close => exact hpackets
  | leaveBusmonitor => exact hpackets

theorem send_turn {l : LDataPDU} {rest : List LDataPDU} (hin : s.inqueue = l :: rest)
    (h : send { s with inqueue := rest } l = .ok (as, s')) :
    Turn s [] as s' ∧ as.filterMap EMIAction.taken? = [] ∧ as.filterMap EMIAction.sent? = [l] := by
  obtain ⟨_, -, h⟩ := Checked.bind_eq_ok.mp h
  dsimp only at h
  split at h
  · obtain ⟨c, -, h⟩ := Checked.bind_eq_ok.mp h
    cases h
    refine ⟨⟨by rw [List.append_nil, hin]; rfl, rfl, ?_, ?_, rfl, rfl, rfl⟩, rfl, rfl⟩
    · exact (List.append_assoc s.outqueue [_] [_]).symm
    · intro hsig
      simp [put, hsig]
  · cases h
    refine ⟨⟨by rw [List.append_nil, hin]; rfl, rfl, rfl, ?_, rfl, rfl, rfl⟩, rfl, rfl⟩
    intro hsig
    simp [put, hsig]

/-- Other fields do not matter for a turn. -/
theorem Turn.congr {s'' : EMILayer2Interface} {ls : List LDataPDU} (h : Turn s ls as s')
    (hin : s''.inqueue = s'.inqueue) (hout : s''.outqueue = s'.outqueue)
    (hsig : s''.outSignal = s'.outSignal) (hnoqueue : s''.noqueue = s'.noqueue)
    (hversion : s''.version = s'.version) (hshow : s''.showPrint = s'.showPrint) :
    Turn s ls as s'' := by
  have hquiet : Turn s' [] [] s'' :=
    .of_quiet hin hout hsig hnoqueue hversion hshow fun a ha => absurd ha List.not_mem_nil
  have htrans := h.trans hquiet rfl
  rwa [List.append_nil] at htrans

theorem sendPhase_turn {now : Nat} (h : s.sendPhase now = .ok (as, s')) :
    Turn s [] as s' ∧ as.filterMap EMIAction.taken? = [] := by
  rw [sendPhase.eq_def] at h
  split at h
  · cases h
    exact ⟨.refl s, rfl⟩
  · next l rest hin =>
    split at h
    · obtain ⟨⟨as₁, s₁⟩, hsend, h⟩ := Checked.bind_eq_ok.mp h
      obtain ⟨hturn, htaken, -⟩ := send_turn hin hsend
      dsimp only at h
      split at h <;> cases h
      · exact ⟨hturn.congr rfl rfl rfl rfl rfl rfl, htaken⟩
      · exact ⟨hturn.congr rfl rfl rfl rfl rfl rfl, htaken⟩
    · cases h
      exact ⟨.refl s, rfl⟩

theorem deliver_turn (s : EMILayer2Interface) (f : LPDU) : Turn s [] [.deliver f] (s.put f) :=
  ⟨List.append_nil _, rfl, rfl, fun h => by simp [put, h], rfl, rfl, rfl⟩

theorem report_turn (s : EMILayer2Interface) (pdu : CArray) :
    Turn s [] [.report pdu] (s.put (.busmonitor { pdu })) :=
  ⟨List.append_nil _, rfl, rfl, fun h => by simp [put, h], rfl, rfl, rfl⟩

/-- What a packet leads to besides: nothing is taken or sent, and only a confirmation touches the
    variables that say when the next frame may go. -/
structure Calm (s : EMILayer2Interface) (c : CArray) (as : List EMIAction)
    (s' : EMILayer2Interface) : Prop where
  turn : Turn s [] as s'
  taken : as.filterMap EMIAction.taken? = []
  sent : as.filterMap EMIAction.sent? = []
  sendmode : c.head? ≠ some s.version.con → s'.sendmode = s.sendmode ∧ s'.timeout = s.timeout

theorem onPacket_calm {c : CArray} (h : s.onPacket c = .ok (as, s')) : Calm s c as s' := by
  have hreopen (call : ModeCall) : Calm s c (s.reopen call).1 (s.reopen call).2 :=
    ⟨.of_quiet rfl rfl rfl rfl rfl rfl (quiet_start s call),
      List.filterMap_eq_nil_iff.mpr fun a ha => (quiet_start s call a ha).2.2.2,
      List.filterMap_eq_nil_iff.mpr fun a ha => (quiet_start s call a ha).1, fun _ => ⟨rfl, rfl⟩⟩
  have hnothing : Calm s c [] s := ⟨.refl s, rfl, rfl, fun _ => ⟨rfl, rfl⟩⟩
  rw [onPacket] at h
  split at h
  · split at h
    · cases h
      exact hreopen .open
    · split at h
      · cases h
        exact hreopen .enterBusmonitor
      · cases h
        exact hnothing
  split at h
  · next hcon =>
    cases h
    exact ⟨(Turn.refl s).congr rfl rfl rfl rfl rfl rfl, rfl, rfl, fun hc => absurd hcon hc⟩
  split at h
  · obtain ⟨p, -, h⟩ := Checked.bind_eq_ok.mp h
    cases p with
    | none =>
        cases h
        exact hnothing
    | some p =>
        dsimp only at h
        generalize (if p.addrType = .individualAddress then { p with dest := 0 } else p) = q at h
        obtain ⟨_, -, h⟩ := Checked.bind_eq_ok.mp h
        split at h
        · obtain ⟨pdu, -, h⟩ := Checked.bind_eq_ok.mp h
          cases h
          exact ⟨(report_turn s pdu).trans (deliver_turn _ _) rfl, rfl, rfl, fun _ => ⟨rfl, rfl⟩⟩
        · cases h
          exact ⟨deliver_turn s _, rfl, rfl, fun _ => ⟨rfl, rfl⟩⟩
  split at h
  · obtain ⟨c2, -, h⟩ := Checked.bind_eq_ok.mp h
    obtain ⟨c3, -, h⟩ := Checked.bind_eq_ok.mp h
    obtain ⟨c1, -, h⟩ := Checked.bind_eq_ok.mp h
    obtain ⟨_, -, h⟩ := Checked.bind_eq_ok.mp h
    cases h
    exact ⟨deliver_turn s _, rfl, rfl, fun _ => ⟨rfl, rfl⟩⟩
  · cases h
    exact hnothing

theorem pass_turn {now : Nat} {c : Option CArray} (h : s.pass now c = .ok (as, s')) :
    Turn s [] as s' := by
  rw [pass] at h
  split at h
  · cases h
    exact .refl s
  obtain ⟨⟨sends, s₁⟩, hsend, h⟩ := Checked.bind_eq_ok.mp h
  obtain ⟨hturn, -⟩ := sendPhase_turn hsend
  have htimeout : Turn s [] sends (s₁.timeoutPhase now) := by
    rw [timeoutPhase]
    split
    · exact hturn.congr rfl rfl rfl rfl rfl rfl
    · exact hturn
  cases c with
  | none =>
      cases h
      exact htimeout
  | some c =>
      obtain ⟨⟨bs, s₃⟩, hpacket, h⟩ := Checked.bind_eq_ok.mp h
      cases h
      have hcalm := onPacket_calm hpacket
      exact htimeout.trans hcalm.turn hcalm.taken

theorem getLData_turn (h : s.getLData = .ok (as, s')) : Turn s [] as s' := by
  rw [getLData] at h
  split at h
  · cases h
    exact .refl s
  next hsig =>
  obtain ⟨⟨l, outqueue⟩, hget, h⟩ := Checked.bind_eq_ok.mp h
  obtain ⟨_, -, h⟩ := Checked.bind_eq_ok.mp h
  cases h
  have hout := Queue.get_eq_ok.mp hget
  refine ⟨List.append_nil _, rfl, ?_, fun h => ?_, rfl, rfl, rfl⟩
  · rw [hout]
    exact List.append_nil _
  · rw [hout, List.length_cons] at h
    exact Nat.sub_eq_of_eq_add h

theorem getType_lData {l : LDataPDU} : (LPDU.lData l).getType = .lData ↔ l.validLength = true := by
  rw [LPDU.getType]
  split <;> simp_all

theorem sendLData_turn {l : LPDU} (h : s.sendLData l = .ok s') :
    Turn s (EMIEvent.accepted (.sendLData l)) [] s' := by
  obtain ⟨_, -, h⟩ := Checked.bind_eq_ok.mp h
  cases l with
  | lData l =>
      dsimp only at h
      by_cases hvalid : l.validLength = true
      · rw [if_pos (getType_lData.mpr hvalid)] at h
        obtain ⟨_, -, h⟩ := Checked.bind_eq_ok.mp h
        by_cases hlen : l.data.length > 0x10
        · -- a long frame is dropped
          rw [if_pos hlen] at h
          cases h
          rw [EMIEvent.accepted, if_neg (by omega)]
          exact .refl s
        · rw [if_neg hlen] at h
          obtain ⟨_, -, h⟩ := Checked.bind_eq_ok.mp h
          obtain ⟨_, -, h⟩ := Checked.bind_eq_ok.mp h
          cases h
          rw [EMIEvent.accepted, if_pos ⟨hvalid, by omega⟩]
          exact ⟨rfl, rfl, List.append_nil _, id, rfl, rfl, rfl⟩
      · rw [if_neg (mt getType_lData.mp hvalid)] at h
        cases h
        rw [EMIEvent.accepted, if_neg (fun hl => hvalid hl.1)]
        exact .refl s
  | _ =>
      cases h
      exact .refl s

/-- Whatever happens, the queues only turn over. -/
theorem step_turn {e : EMIEvent} (h : s.step e = .ok (as, s')) : Turn s e.accepted as s' := by
  cases e with
  | sendLData l =>
      obtain ⟨s₁, hsend, h⟩ := Checked.bind_eq_ok.mp h
      cases h
      exact sendLData_turn hsend
  | pass now c => exact pass_turn h
  | getLData => exact getLData_turn h
  | call call =>
      rw [step, EMILayer2Interface.call.eq_def] at h
      split at h
      · cases h
        exact .of_quiet rfl rfl rfl rfl rfl rfl (by simp [EMIAction.sent?, EMIAction.request?,
          EMIAction.put?, EMIAction.taken?])
      · cases h
        exact .of_quiet rfl rfl rfl rfl rfl rfl (quiet_start s call)
  | resume i =>
      rw [step, resume] at h
      split at h
      · cases h
        exact .refl s
      · next w _ =>
        split at h
        · cases h
          exact .of_quiet rfl rfl rfl rfl rfl rfl (quiet_packets s w.call)
        · cases h
          exact .of_quiet rfl rfl rfl rfl rfl rfl (by simp [EMIAction.sent?, EMIAction.request?,
            EMIAction.put?, EMIAction.taken?])
  | resumeRun =>
      rw [step, resumeRun] at h
      split at h
      · cases h
        exact .refl s
      · next w _ =>
        split at h
        · cases h
          exact .of_quiet rfl rfl rfl rfl rfl rfl (quiet_packets s w.call)
        · cases h
          exact (Turn.refl s).congr rfl rfl rfl rfl rfl rfl
  | vbusmonitor open_ =>
      cases h
      exact (Turn.refl s).congr rfl rfl rfl rfl rfl rfl

/-! ## What is no fault -/

/-- A text can be made of the frame, if one is made. -/
def Shown (showPrint : Bool) (f : LPDU) : Prop := tracePrintf showPrint f.decodeAny = .ok ()

/-- The frame handed in can be encoded, and what the interface reports as a busmonitor can be
    shown. -/
def Sane (version : EMIVersion) (showPrint : Bool) : EMIEvent → Prop
  | .sendLData (.lData l) => l.Encodable
  | .sendLData f => Shown showPrint f
  | .pass _ (some c) => 4 < c.length → c.head? = some version.busmonInd → ∀ status timestamp,
      Shown showPrint (.busmonitor { pdu := c.drop 4, status, timestamp })
  | _ => True

/-- What is in the queues can be sent and shown. -/
structure Ready (s : EMILayer2Interface) : Prop where
  inqueue : ∀ l ∈ s.inqueue, l.Encodable
  outqueue : ∀ f ∈ s.outqueue, Shown s.showPrint f
  signal : s.outSignal = s.outqueue.length

theorem shown_lData {l : LDataPDU} (h : l.Encodable) (showPrint : Bool) :
    Shown showPrint (.lData l) := tracePrintf_decode h showPrint

/-- The busmonitor can show the TP1 form of every frame. -/
theorem shown_report {l : LDataPDU} {pdu : CArray} (h : l.toPacket = .ok pdu) (showPrint : Bool) :
    Shown showPrint (.busmonitor { pdu }) := by
  obtain ⟨henc, rfl⟩ := LDataPDU.toPacket_eq_ok.mp h
  have hreceived : l.received.Encodable := ⟨henc.nonempty, henc.fits, henc.hops⟩
  obtain ⟨u, hu⟩ := l.received.decode_returns hreceived
  have hdecode : LBusmonitorPDU.decode { pdu := l.body ++ [~~~(xorBytes l.body)] } = .ok () := by
    rw [LBusmonitorPDU.decode, if_neg (by simp), LPDU.fromPacket_body henc, Checked.ok_bind]
    exact hu
  cases showPrint with
  | true => exact hdecode
  | false => rfl

theorem Ready.put {f : LPDU} (hs : Ready s) (hf : Shown s.showPrint f) : Ready (s.put f) where
  inqueue := hs.inqueue
  outqueue g hg := by
    rcases List.mem_append.mp hg with hg | hg
    · exact hs.outqueue g hg
    · cases List.mem_singleton.mp hg
      exact hf
  signal := by simp [EMILayer2Interface.put, hs.signal]

/-- Other fields do not matter. -/
theorem Ready.congr (hs : Ready s) (hin : s'.inqueue = s.inqueue)
    (hout : s'.outqueue = s.outqueue) (hsig : s'.outSignal = s.outSignal)
    (hshow : s'.showPrint = s.showPrint) : Ready s' where
  inqueue := by
    rw [hin]
    exact hs.inqueue
  outqueue := by
    rw [hout, hshow]
    exact hs.outqueue
  signal := by rw [hsig, hout, hs.signal]

theorem Ready.send {l : LDataPDU} (hs : Ready s) (hl : l.Encodable) :
    ∃ as s', s.send l = .ok (as, s') ∧ Ready s' ∧ s'.showPrint = s.showPrint := by
  obtain ⟨pdu, hpdu⟩ := LDataPDU.toPacket_returns_iff.mpr hl
  rw [EMILayer2Interface.send, tracePrintf_decode hl, Checked.ok_bind]
  split
  · rw [hpdu]
    exact ⟨_, _, rfl, (hs.put (shown_report hpdu _)).put (shown_lData hl _), rfl⟩
  · exact ⟨_, _, rfl, hs.put (shown_lData hl _), rfl⟩

theorem Ready.sendPhase (hs : Ready s) (now : Nat) :
    ∃ as s', s.sendPhase now = .ok (as, s') ∧ Ready s' ∧ s'.showPrint = s.showPrint := by
  rw [EMILayer2Interface.sendPhase.eq_def]
  split
  · exact ⟨_, _, rfl, hs, rfl⟩
  · next l rest hin =>
    have hrest : Ready { s with inqueue := rest } :=
      ⟨fun x hx => hs.inqueue x (by rw [hin]; exact List.mem_cons_of_mem _ hx), hs.outqueue,
        hs.signal⟩
    split
    · obtain ⟨as, s₁, hsend, hs₁, hshow⟩ :=
        hrest.send (hs.inqueue l (by rw [hin]; exact List.mem_cons_self ..))
      rw [hsend, Checked.ok_bind]
      dsimp only
      split
      · exact ⟨_, _, rfl, hs₁.congr rfl rfl rfl rfl, hshow⟩
      · exact ⟨_, _, rfl, hs₁.congr rfl rfl rfl rfl, hshow⟩
    · exact ⟨_, _, rfl, hs, rfl⟩

theorem Ready.onPacket {c : CArray} (hs : Ready s)
    (hc : 4 < c.length → c.head? = some s.version.busmonInd → ∀ status timestamp,
      Shown s.showPrint (.busmonitor { pdu := c.drop 4, status, timestamp })) :
    ∃ as s', s.onPacket c = .ok (as, s') ∧ Ready s' := by
  rw [EMILayer2Interface.onPacket]
  split
  · split
    · exact ⟨_, _, rfl, hs.congr rfl rfl rfl rfl⟩
    · split
      · exact ⟨_, _, rfl, hs.congr rfl rfl rfl rfl⟩
      · exact ⟨_, _, rfl, hs⟩
  split
  · exact ⟨_, _, rfl, hs.congr rfl rfl rfl rfl⟩
  split
  · rw [onInd]
    obtain ⟨p, hp, hshort⟩ := emiToLData_answers c
    rw [hp, Checked.ok_bind]
    cases p with
    | none => exact ⟨_, _, rfl, hs⟩
    | some p =>
        have henc : (if p.addrType = .individualAddress then { p with dest := 0 }
            else p).Encodable := by
          have h := (hshort p rfl).1.forwardable.encodable
          split
          · exact ⟨h.nonempty, h.fits, h.hops⟩
          · exact h
        dsimp only
        generalize (if p.addrType = .individualAddress then { p with dest := 0 } else p) = q
          at henc ⊢
        obtain ⟨pdu, hpdu⟩ := LDataPDU.toPacket_returns_iff.mpr henc
        rw [tracePrintf_decode henc, Checked.ok_bind]
        split
        · rw [hpdu]
          exact ⟨_, _, rfl, (hs.put (shown_report hpdu _)).put (shown_lData henc _)⟩
        · exact ⟨_, _, rfl, hs.put (shown_lData henc _)⟩
  split
  · next hind =>
    have h4 : 4 < c.length := hind.1
    obtain ⟨c1, h1⟩ : (readByte c 1).Returns := readByte_returns (by omega)
    obtain ⟨c2, h2⟩ : (readByte c 2).Returns := readByte_returns (by omega)
    obtain ⟨c3, h3⟩ : (readByte c 3).Returns := readByte_returns (by omega)
    have hp := hc h4 hind.2.1 c1 ((c2.zeroExtend 32 <<< 24) ||| (c3.zeroExtend 32 <<< 16))
    have hshow : tracePrintf s.showPrint (LBusmonitorPDU.decode _) = .ok () := hp
    rw [onBusmonInd, h2, Checked.ok_bind, h3, Checked.ok_bind, h1, Checked.ok_bind]
    dsimp only
    rw [hshow]
    exact ⟨_, _, rfl, hs.put hp⟩
  · exact ⟨_, _, rfl, hs⟩

/-- Every sane event is taken without a fault. -/
theorem Ready.step {e : EMIEvent} (hs : Ready s) (he : Sane s.version s.showPrint e) :
    ∃ as s', s.step e = .ok (as, s') ∧ Ready s' := by
  cases e with
  | sendLData l =>
      cases l with
      | lData l =>
          have hl : l.Encodable := he
          have htrace : tracePrintf s.showPrint (LPDU.lData l).decodeAny = .ok () :=
            shown_lData hl _
          have hpos : check (l.data.length ≥ 1) = .ok () := check_of hl.nonempty
          have hhops : check (l.hopcount &&& 0xf8#8 = 0#8) = .ok () := check_of hl.hops
          rw [EMILayer2Interface.step, EMILayer2Interface.sendLData, htrace, Checked.ok_bind]
          split
          · rw [hpos, Checked.ok_bind]
            split
            · exact ⟨_, _, rfl, hs⟩
            · next hlen =>
              have hfits : check (l.data.length ≤ 0x10) = .ok () := check_of (by omega)
              rw [hfits, Checked.ok_bind, hhops, Checked.ok_bind]
              refine ⟨_, _, rfl, ⟨fun x hx => ?_, hs.outqueue, hs.signal⟩⟩
              rcases List.mem_append.mp hx with hx | hx
              · exact hs.inqueue x hx
              · cases List.mem_singleton.mp hx
                exact hl
          · exact ⟨_, _, rfl, hs⟩
      | _ =>
          have htrace : tracePrintf s.showPrint _ = .ok () := he
          rw [EMILayer2Interface.step, EMILayer2Interface.sendLData.eq_def, htrace]
          exact ⟨_, _, rfl, hs⟩
  | pass now c =>
      rw [EMILayer2Interface.step, pass]
      split
      · exact ⟨_, _, rfl, hs⟩
      obtain ⟨as, s₁, hsend, hs₁, hshow⟩ := hs.sendPhase now
      rw [hsend, Checked.ok_bind]
      have hversion : s₁.version = s.version := (sendPhase_turn hsend).1.version
      have htimeout : Ready (s₁.timeoutPhase now) ∧
          (s₁.timeoutPhase now).showPrint = s.showPrint ∧
          (s₁.timeoutPhase now).version = s.version := by
        rw [timeoutPhase]
        split
        · exact ⟨hs₁.congr rfl rfl rfl rfl, hshow, hversion⟩
        · exact ⟨hs₁, hshow, hversion⟩
      cases c with
      | none => exact ⟨_, _, rfl, htimeout.1⟩
      | some c =>
          obtain ⟨bs, s₃, hpacket, hs₃⟩ := htimeout.1.onPacket (c := c) (by
            rw [htimeout.2.1, htimeout.2.2]
            exact he)
          dsimp only
          rw [hpacket]
          exact ⟨_, _, rfl, hs₃⟩
  | getLData =>
      rw [EMILayer2Interface.step, getLData]
      split
      · exact ⟨_, _, rfl, hs⟩
      · next hsig =>
        rcases hout : s.outqueue with _ | ⟨f, rest⟩
        · exact absurd (by rw [hs.signal, hout]; rfl) hsig
        · have hf : tracePrintf s.showPrint f.decodeAny = .ok () :=
            hs.outqueue f (by rw [hout]; exact List.mem_cons_self ..)
          have hget : Queue.get (f :: rest) = .ok (f, rest) := rfl
          rw [hget, Checked.ok_bind]
          dsimp only
          rw [hf]
          refine ⟨_, _, rfl, hs.inqueue, fun g hg => ?_, ?_⟩
          · exact hs.outqueue g (by rw [hout]; exact List.mem_cons_of_mem _ hg)
          · rw [hs.signal, hout, List.length_cons, Nat.add_sub_cancel]
  | call call =>
      rw [EMILayer2Interface.step, EMILayer2Interface.call.eq_def]
      split
      · exact ⟨_, _, rfl, hs⟩
      · exact ⟨_, _, rfl, hs.congr rfl rfl rfl rfl⟩
  | resume i =>
      rw [EMILayer2Interface.step, resume]
      split
      · exact ⟨_, _, rfl, hs⟩
      · split
        · exact ⟨_, _, rfl, hs.congr rfl rfl rfl rfl⟩
        · exact ⟨_, _, rfl, hs.congr rfl rfl rfl rfl⟩
  | resumeRun =>
      rw [EMILayer2Interface.step, resumeRun]
      split
      · exact ⟨_, _, rfl, hs⟩
      · split
        · exact ⟨_, _, rfl, hs.congr rfl rfl rfl rfl⟩
        · exact ⟨_, _, rfl, hs.congr rfl rfl rfl rfl⟩
  | vbusmonitor open_ => exact ⟨_, _, rfl, hs.congr rfl rfl rfl rfl⟩

/-! ## Whole runs -/

/-- What a run has done with the frames: those accepted are sent in their order, each with one
    request, and wait behind those; what goes into `outqueue`, each frame sent among it, is taken in
    its order. -/
structure Kept (es : List EMIEvent) (as : List EMIAction) (s : EMILayer2Interface) : Prop where
  sent : es.flatMap EMIEvent.accepted = as.filterMap EMIAction.sent? ++ s.inqueue
  requests : as.filterMap EMIAction.request? =
    (as.filterMap EMIAction.sent?).map (lDataToEMI 0x11#8)
  taken : as.filterMap EMIAction.put? = as.filterMap EMIAction.taken? ++ s.outqueue
  signal : s.outSignal = s.outqueue.length

theorem Kept.step {es : List EMIEvent} {e : EMIEvent} {bs : List EMIAction} (hs : Kept es as s)
    (h : s.step e = .ok (bs, s')) : Kept (es ++ [e]) (as ++ bs) s' := by
  have hturn := step_turn h
  refine ⟨?_, ?_, ?_, hturn.signal hs.signal⟩
  · rw [List.flatMap_append, List.flatMap_singleton, hs.sent, List.append_assoc, hturn.sent,
      List.filterMap_append, List.append_assoc]
  · rw [List.filterMap_append, List.filterMap_append, List.map_append, hs.requests,
      hturn.requests]
  · rw [List.filterMap_append, List.filterMap_append, hs.taken, List.append_assoc, hturn.out,
      List.append_assoc]

end EMILayer2Interface

open EMILayer2Interface in
/-- Neither version loses, doubles or reorders a frame, in whichever order frames come and go and
    modes are switched.  A run ends in a fault only if a frame handed in cannot be encoded, or, with
    the traces on, if no text can be made of what a busmonitor reports. -/
theorem emi_keeps_frames (version : EMIVersion) (noqueue showPrint : Bool) (es : List EMIEvent) :
    (∀ os s', transcript EMILayer2Interface.step (init version noqueue showPrint) es =
      .ok (os, s') → Kept es os.flatten s') ∧
    ((∀ e ∈ es, Sane version showPrint e) →
      (transcript EMILayer2Interface.step (init version noqueue showPrint) es).Returns) := by
  constructor
  · intro os s' hrun
    exact transcript_history (I := fun es os s => Kept es os.flatten s) (P := fun _ => True)
      (fun es os s e o s' hs _ hstep => by
        rw [List.flatten_append, List.flatten_singleton]
        exact hs.step hstep) ⟨rfl, rfl, rfl, rfl⟩ (fun _ _ => trivial) hrun
  · intro hes
    have hready : Ready (init version noqueue showPrint) ∧
        (init version noqueue showPrint).version = version ∧
        (init version noqueue showPrint).showPrint = showPrint :=
      ⟨⟨fun _ h => absurd h List.not_mem_nil, fun _ h => absurd h List.not_mem_nil, rfl⟩, rfl, rfl⟩
    obtain ⟨os, s', hrun, -⟩ := transcript_returns
      (I := fun s => Ready s ∧ s.version = version ∧ s.showPrint = showPrint)
      (fun s e hs he => by
        obtain ⟨as, s₁, hstep, hs₁⟩ := hs.1.step (by rwa [hs.2.1, hs.2.2])
        have hturn := step_turn hstep
        exact ⟨as, s₁, hstep, hs₁, hturn.version.trans hs.2.1, hturn.showPrint.trans hs.2.2⟩)
      hready hes
    exact ⟨_, hrun⟩

open EMILayer2Interface in
/-- A group telegram is handed in and sent while a packet of 0xA0 announces a reset. -/
theorem emi_keeps_frames_telegram :
    ∃ os s', transcript EMILayer2Interface.step (init .emi2 true true)
      [.call .open, .resume 0, .sendLData (.lData { data := [0x00#8, 0x81#8] }),
        .pass 0 (some [0xA0#8]), .getLData, .resumeRun] = .ok (os, s') ∧
      Kept [.call .open, .resume 0, .sendLData (.lData { data := [0x00#8, 0x81#8] }),
        .pass 0 (some [0xA0#8]), .getLData, .resumeRun] os.flatten s' := by
  obtain ⟨hkept, hreturns⟩ := emi_keeps_frames .emi2 true true
    [.call .open, .resume 0, .sendLData (.lData { data := [0x00#8, 0x81#8] }),
      .pass 0 (some [0xA0#8]), .getLData, .resumeRun]
  have hsane : ∀ e ∈ ([.call .open, .resume 0, .sendLData (.lData { data := [0x00#8, 0x81#8] }),
      .pass 0 (some [0xA0#8]), .getLData, .resumeRun] : List EMIEvent), Sane .emi2 true e := by
    simp only [List.forall_mem_cons, List.not_mem_nil, false_implies, implies_true, and_true]
    exact ⟨trivial, trivial, ⟨by decide, by decide, by decide⟩, fun _ _ _ _ => rfl, trivial, trivial⟩
  obtain ⟨⟨os, s'⟩, hrun⟩ := hreturns hsane
  exact ⟨os, s', hrun, hkept os s' hrun⟩

/-! ## Flow control -/

namespace EMILayer2Interface

variable {s s' : EMILayer2Interface} {as : List EMIAction}

/-- A pass with a confirmation. -/
def Confirms (version : EMIVersion) : EMIEvent → Prop
  | .pass _ (some c) => c.head? = some version.con
  | _ => False

/-- A pass within the second from `t₀` on, without a confirmation. -/
def Within (version : EMIVersion) (t₀ : Nat) (e : EMIEvent) : Prop :=
  ¬ Confirms version e ∧ ∀ now c, e = .pass now c → t₀ ≤ now ∧ now < t₀ + 1000000

/-- Nothing has been sent, or one frame has, and the next one has to wait. -/
structure Held (version : EMIVersion) (t₀ : Nat) (as : List EMIAction) (s : EMILayer2Interface) :
    Prop where
  noqueue : s.noqueue = true
  version : s.version = version
  sent : as.filterMap EMIAction.sent? = [] ∨ (as.filterMap EMIAction.sent?).length = 1 ∧
    s.sendmode = 1 ∧ t₀ + 1000000 ≤ s.timeout

theorem Held.quiet {version : EMIVersion} {t₀ : Nat} {bs : List EMIAction}
    (hs : Held version t₀ as s) (hsent : bs.filterMap EMIAction.sent? = [])
    (hnoqueue : s'.noqueue = s.noqueue) (hversion : s'.version = s.version)
    (hsendmode : s'.sendmode = s.sendmode) (htimeout : s'.timeout = s.timeout) :
    Held version t₀ (as ++ bs) s' where
  noqueue := hnoqueue.trans hs.noqueue
  version := hversion.trans hs.version
  sent := by
    rw [List.filterMap_append, hsent, List.append_nil, hsendmode, htimeout]
    exact hs.sent

theorem Held.sendPhase {version : EMIVersion} {t₀ now : Nat} {bs : List EMIAction}
    (hs : Held version t₀ as s) (hnow : t₀ ≤ now) (h : s.sendPhase now = .ok (bs, s')) :
    Held version t₀ (as ++ bs) s' := by
  have hnothing : Held version t₀ (as ++ []) s := hs.quiet rfl rfl rfl rfl rfl
  have hturn := (sendPhase_turn h).1
  rw [EMILayer2Interface.sendPhase.eq_def] at h
  split at h
  · cases h
    exact hnothing
  · next l rest hin =>
    split at h
    · next hmode =>
      obtain ⟨⟨bs₁, s₁⟩, hsend, h⟩ := Checked.bind_eq_ok.mp h
      obtain ⟨-, -, hone⟩ := send_turn hin hsend
      dsimp only at h
      rw [if_pos hs.noqueue] at h
      cases h
      refine ⟨hturn.noqueue.trans hs.noqueue, hturn.version.trans hs.version, .inr ⟨?_, rfl, ?_⟩⟩
      · -- it is the first one: after another one the mode would be 1
        rcases hs.sent with hnone | ⟨-, hone', -⟩
        · rw [List.filterMap_append, hnone, hone]
          rfl
        · rw [hmode] at hone'
          cases hone'
      · exact Nat.add_le_add_right hnow _
    · cases h
      exact hnothing

theorem Held.timeoutPhase {version : EMIVersion} {t₀ now : Nat} (hs : Held version t₀ as s)
    (hnow : now < t₀ + 1000000) : Held version t₀ as (s.timeoutPhase now) := by
  rw [EMILayer2Interface.timeoutPhase]
  split
  · next hdue =>
    refine ⟨hs.noqueue, hs.version, .inl ?_⟩
    -- a frame sent in this second would not time out yet
    rcases hs.sent with hnone | ⟨-, -, htimeout⟩
    · exact hnone
    · omega
  · exact hs

theorem Held.pass {version : EMIVersion} {t₀ now : Nat} {c : Option CArray} {bs : List EMIAction}
    (hs : Held version t₀ as s) (he : Within version t₀ (.pass now c))
    (h : s.pass now c = .ok (bs, s')) : Held version t₀ (as ++ bs) s' := by
  obtain ⟨hnow, hlt⟩ := he.2 now c rfl
  rw [EMILayer2Interface.pass] at h
  split at h
  · cases h
    exact hs.quiet rfl rfl rfl rfl rfl
  obtain ⟨⟨sends, s₁⟩, hsend, h⟩ := Checked.bind_eq_ok.mp h
  have htimeout := (hs.sendPhase hnow hsend).timeoutPhase hlt
  cases c with
  | none =>
      cases h
      exact htimeout
  | some c =>
      obtain ⟨⟨ps, s₃⟩, hpacket, h⟩ := Checked.bind_eq_ok.mp h
      cases h
      have hcalm := onPacket_calm hpacket
      have hcon : c.head? ≠ some (s₁.timeoutPhase now).version.con := by
        rw [htimeout.version]
        exact he.1
      obtain ⟨hmode, htime⟩ := hcalm.sendmode hcon
      rw [← List.append_assoc]
      exact htimeout.quiet hcalm.sent hcalm.turn.noqueue hcalm.turn.version hmode htime

/-- Between two passes nothing is sent, and nothing touches the variables of the sender. -/
theorem step_between {e : EMIEvent} (he : ∀ now c, e ≠ .pass now c)
    (h : s.step e = .ok (as, s')) :
    as.filterMap EMIAction.sent? = [] ∧ s'.sendmode = s.sendmode ∧ s'.timeout = s.timeout := by
  have hquiet {as : List EMIAction} (h : ∀ a ∈ as,
      a.sent? = none ∧ a.request? = none ∧ a.put? = none ∧ a.taken? = none) :
      as.filterMap EMIAction.sent? = [] :=
    List.filterMap_eq_nil_iff.mpr fun a ha => (h a ha).1
  cases e with
  | pass now c => exact absurd rfl (he now c)
  | sendLData l =>
      obtain ⟨s₁, hsend, h⟩ := Checked.bind_eq_ok.mp h
      cases h
      obtain ⟨_, -, h⟩ := Checked.bind_eq_ok.mp hsend
      split at h
      · split at h
        · obtain ⟨_, -, h⟩ := Checked.bind_eq_ok.mp h
          split at h
          · cases h
            exact ⟨rfl, rfl, rfl⟩
          · obtain ⟨_, -, h⟩ := Checked.bind_eq_ok.mp h
            obtain ⟨_, -, h⟩ := Checked.bind_eq_ok.mp h
            cases h
            exact ⟨rfl, rfl, rfl⟩
        · cases h
          exact ⟨rfl, rfl, rfl⟩
      · cases h
        exact ⟨rfl, rfl, rfl⟩
  | getLData =>
      rw [step, getLData] at h
      split at h
      · cases h
        exact ⟨rfl, rfl, rfl⟩
      · obtain ⟨⟨l, outqueue⟩, -, h⟩ := Checked.bind_eq_ok.mp h
        obtain ⟨_, -, h⟩ := Checked.bind_eq_ok.mp h
        cases h
        exact ⟨rfl, rfl, rfl⟩
  | call call =>
      rw [step, EMILayer2Interface.call.eq_def] at h
      split at h
      · cases h
        exact ⟨rfl, rfl, rfl⟩
      · cases h
        exact ⟨hquiet (quiet_start s call), rfl, rfl⟩
  | resume i =>
      rw [step, resume] at h
      split at h
      · cases h
        exact ⟨rfl, rfl, rfl⟩
      · next w _ =>
        split at h
        · cases h
          exact ⟨hquiet (quiet_packets s w.call), rfl, rfl⟩
        · cases h
          exact ⟨rfl, rfl, rfl⟩
  | resumeRun =>
      rw [step, resumeRun] at h
      split at h
      · cases h
        exact ⟨rfl, rfl, rfl⟩
      · next w _ =>
        split at h
        · cases h
          exact ⟨hquiet (quiet_packets s w.call), rfl, rfl⟩
        · cases h
          exact ⟨rfl, rfl, rfl⟩
  | vbusmonitor open_ =>
      cases h
      exact ⟨rfl, rfl, rfl⟩

theorem Held.step {version : EMIVersion} {t₀ : Nat} {e : EMIEvent} {bs : List EMIAction}
    (hs : Held version t₀ as s) (he : Within version t₀ e) (h : s.step e = .ok (bs, s')) :
    Held version t₀ (as ++ bs) s' := by
  by_cases hpass : ∃ now c, e = .pass now c
  · obtain ⟨now, c, rfl⟩ := hpass
    exact hs.pass he h
  · have hturn := step_turn h
    obtain ⟨hsent, hmode, htime⟩ :=
      step_between (fun now c heq => hpass ⟨now, c, heq⟩) h
    exact hs.quiet hsent hturn.noqueue hturn.version hmode htime

/-- With `FLAG_B_EMI_NOQUEUE`, from whatever state on: within a second without a confirmation the
    interface gets one frame at most, however many wait. -/
theorem emi_one_at_a_time {s s' : EMILayer2Interface} {es : List EMIEvent}
    {os : List (List EMIAction)} {t₀ : Nat} (hnoqueue : s.noqueue = true)
    (hes : ∀ e ∈ es, Within s.version t₀ e)
    (hrun : transcript EMILayer2Interface.step s es = .ok (os, s')) :
    (os.flatten.filterMap EMIAction.sent?).length ≤ 1 := by
  have hheld : Held s.version t₀ os.flatten s' :=
    transcript_history (I := fun _ os s₁ => Held s.version t₀ os.flatten s₁)
      (fun es os s₁ e o s₂ hs he hstep => by
        rw [List.flatten_append, List.flatten_singleton]
        exact hs.step he hstep) ⟨hnoqueue, rfl, .inl rfl⟩ hes hrun
  rcases hheld.sent with hnone | ⟨hone, -, -⟩
  · rw [hnone]
    exact Nat.zero_le 1
  · exact hone.le

/-- A driver in which two frames wait. -/
def twoWaiting : EMILayer2Interface where
  version := .emi1
  noqueue := true
  showPrint := false
  inqueue := [{ data := [0x00#8, 0x80#8] }, { data := [0x00#8, 0x81#8] }]

/-- Of two passes half a second apart only the first one sends. -/
theorem emi_one_at_a_time_two :
    ∃ os s', transcript EMILayer2Interface.step twoWaiting
        [.pass 7000000 none, .pass 7500000 none] = .ok (os, s') ∧
      os.flatten.filterMap EMIAction.sent? = [{ data := [0x00#8, 0x80#8] }] ∧
      (os.flatten.filterMap EMIAction.sent?).length ≤ 1 := by
  have hes : ∀ e ∈ [EMIEvent.pass 7000000 none, .pass 7500000 none], Within .emi1 7000000 e := by
    intro e he
    simp only [List.mem_cons, List.not_mem_nil, or_false] at he
    rcases he with rfl | rfl
    · refine ⟨nofun, fun now c h => ?_⟩
      cases h
      omega
    · refine ⟨nofun, fun now c h => ?_⟩
      cases h
      omega
  exact ⟨_, _, rfl, rfl, emi_one_at_a_time (s := twoWaiting) rfl hes rfl⟩

end EMILayer2Interface

end BcuSdk.Eibd
