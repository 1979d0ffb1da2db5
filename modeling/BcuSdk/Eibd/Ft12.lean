/-
  BcuSdk.Eibd.Ft12

  `FT12LowLevelDriver` (eibd/backend/ft12.cpp): frames of FT1.2 on a serial
  line.

  What has been received is collected in `akt`.  A pass of the inner loop of
  `Run` looks at the front of it; each branch says by itself how many bytes it
  removes.  In the branch for a frame of variable length that number is `len`,
  which is set only if the frame is delivered.
-/
import BcuSdk.Eibd.EibNetIp
import BcuSdk.Lib.Buffer
import BcuSdk.Lib.Run

namespace BcuSdk.Eibd

open BcuSdk.Lib

/-! ## Frames -/

/-- A frame of variable length. -/
def variableFrame (control : Byte) (payload : CArray) : CArray :=
  [0x68#8, BitVec.ofNat 8 (payload.length + 1), BitVec.ofNat 8 (payload.length + 1), 0x68#8] ++
    (control :: payload) ++ [sumBytes (control :: payload), 0x16#8]

/-- A frame of variable length that announces no byte at all, not even a control byte. -/
def emptyFrame : CArray := [0x68#8, 0#8, 0#8, 0x68#8, 0#8, 0x16#8]

/-- A frame of fixed length. -/
def fixedFrame (control : Byte) : CArray := [0x10#8, control, control, 0x16#8]

@[simp] theorem length_variableFrame (control : Byte) (payload : CArray) :
    (variableFrame control payload).length = payload.length + 7 := by
  simp only [variableFrame, List.length_append, List.length_cons, List.length_nil]
  omega

/-- The acknowledgement. -/
def ft12Ack : CArray := [0xE5#8]

/-- What `Run` puts into `outqueue` for a reset. -/
def ft12Reset : CArray := [0xA0#8]

/-! ## The driver -/

/-- `FT12LowLevelDriver` and the variables of its `Run`. -/
structure FT12 where
  akt : CArray := []
  /-- The payload delivered last. -/
  last : CArray := []
  sendflag : Bool := false
  recvflag : Bool := false
  repeatcount : Nat := 0
  /-- `mode == 1`: a frame waits for its acknowledgement. -/
  mode : Bool := false
  inqueue : List CArray := []
  outqueue : List CArray := []
  inSignal : Nat := 0
  outSignal : Nat := 0
  sendEmpty : Bool := true
  /-- What has been handed to `write`. -/
  written : List CArray := []
  deriving DecidableEq, Repr

namespace FT12

/-- `akt[k]`, behind a test of the length. -/
def byte (s : FT12) (k : Nat) : Byte := s.akt.getD k 0#8

/-- `akt[1]` as a number. -/
def announced (s : FT12) : Nat := (s.byte 1).toNat

/-- `CArray (akt.array () + 5, akt[1] - 1)`. -/
def payload (s : FT12) : CArray := (s.akt.drop 5).take (s.announced - 1)

/-- `outqueue.put` and `pth_sem_inc`. -/
def deliver (s : FT12) (c : CArray) : FT12 :=
  { s with outqueue := s.outqueue ++ [c], outSignal := s.outSignal + 1 }

/-- The acknowledgement is written. -/
def acknowledge (s : FT12) : FT12 := { s with written := s.written ++ [ft12Ack] }

/-- `akt.deletepart (0, n)`. -/
def consume (s : FT12) (n : Nat) : FT12 := { s with akt := deletepart s.akt 0 n }

/-- `recvflag = !recvflag`. -/
def flip (s : FT12) : FT12 := { s with recvflag := !s.recvflag }

/-- The control byte carries the sequence bit that is expected, -/
def InSequence (s : FT12) (control : Byte) : Prop :=
  (control = 0xF3#8 ∧ s.recvflag = false) ∨ (control = 0xD3#8 ∧ s.recvflag = true)

/-- or the other one. -/
def OutOfSequence (s : FT12) (control : Byte) : Prop :=
  (control = 0xF3#8 ∧ s.recvflag = true) ∨ (control = 0xD3#8 ∧ s.recvflag = false)

instance (s : FT12) (control : Byte) : Decidable (s.InSequence control) :=
  inferInstanceAs (Decidable (_ ∨ _))

instance (s : FT12) (control : Byte) : Decidable (s.OutOfSequence control) :=
  inferInstanceAs (Decidable (_ ∨ _))

/-- The branch for 0xE5. -/
def onAck (s : FT12) : Checked FT12 := do
  let inSignal ← semDec s.inSignal
  let (_, inqueue) ← Queue.get s.inqueue
  let sendEmpty := if inqueue = [] then true else s.sendEmpty
  return { s with inSignal, inqueue, sendEmpty, mode := false, repeatcount := 0 }.consume 1

/-- The branch for four bytes that begin with 0x10. -/
def onFixed (s : FT12) : FT12 :=
  if s.byte 1 = s.byte 2 ∧ s.byte 3 = 0x16#8 then
    let s := s.acknowledge
    let s := if s.InSequence (s.byte 1) then s.flip else s
    let s := if s.byte 1 &&& 0x0f#8 = 0#8 then s.deliver ft12Reset else s
    s.consume 4
  else s.consume 4

/-- "Sequence jump": with a payload other than the last one the wrong sequence bit is taken for the
    right one. -/
def sequenceJump (s : FT12) : FT12 :=
  if s.OutOfSequence (s.byte 4) ∧ s.payload ≠ s.last then s.flip else s

/-- A frame of variable length that is in order; `unset` is what `len` happens to hold. -/
def onVariable (s : FT12) (unset : Nat) : FT12 :=
  let s := s.acknowledge.sequenceJump
  if s.InSequence (s.byte 4) then
    let c := s.payload
    { s.flip with last := c }.deliver c |>.consume (s.announced + 6)
  else s.consume unset

/-- The two tests behind the header. -/
def ChecksumOk (s : FT12) : Prop :=
  s.byte (s.announced + 4) = sumBytes ((s.akt.drop 4).take s.announced) ∧
    s.byte (s.announced + 5) = 0x16#8

instance (s : FT12) : Decidable s.ChecksumOk := inferInstanceAs (Decidable (_ ∧ _))

/-- A pass of the inner loop; `none` leaves it. -/
def pass (s : FT12) (unset : Nat) : Checked (Option FT12) :=
  if s.akt.length = 0 then .ok none
  else if s.byte 0 = 0xE5#8 ∧ s.mode = true then s.onAck.map some
  else if s.byte 0 = 0x10#8 then
    if s.akt.length < 4 then .ok none else .ok (some s.onFixed)
  else if s.byte 0 = 0x68#8 then
    if s.akt.length < 7 then .ok none
    else if s.byte 1 ≠ s.byte 2 ∨ s.byte 3 ≠ 0x68#8 then .ok (some (s.consume 1))
    else if s.akt.length < s.announced + 6 then .ok none
    else if s.ChecksumOk then .ok (some (s.onVariable unset))
    else .ok (some (s.consume (s.announced + 6)))
  else .ok (some (s.consume 1))

/-! ### The rest of `Run`, and the other threads -/

/-- `Send_Packet`. -/
def sendPacket (s : FT12) (l : CArray) : Checked FT12 := do
  check (l.length ≤ 32)
  let pdu := variableFrame (if s.sendflag then 0x53#8 else 0x73#8) l
  return { s with
    sendflag := !s.sendflag
    inqueue := s.inqueue ++ [pdu]
    inSignal := s.inSignal + 1
    sendEmpty := false }

/-- `SendReset`. -/
def sendReset (s : FT12) : FT12 :=
  { s with
    sendflag := false
    recvflag := false
    inqueue := s.inqueue ++ [fixedFrame 0x40#8]
    inSignal := s.inSignal + 1
    sendEmpty := false }

/-- `Get_Packet`, when there is one. -/
def getPacket (s : FT12) : Checked FT12 := do
  let outSignal ← semDec s.outSignal
  let (_, outqueue) ← Queue.get s.outqueue
  return { s with outSignal, outqueue }

/-- The frame in front of `inqueue` is written; `all` says that the line has taken all of it. -/
def write (s : FT12) (all : Bool) : FT12 :=
  match s.mode, s.inqueue with
  | false, c :: _ =>
      { s with
        repeatcount := s.repeatcount + 1
        mode := all
        written := s.written ++ [c] }
  | _, _ => s

/-- What can happen next. -/
inductive Event where
  /-- A read returns these bytes. -/
  | read (buf : CArray)
  /-- A pass of the inner loop, with what `len` happens to hold. -/
  | pass (unset : Nat)
  /-- `timeout` has occurred. -/
  | timeout
  | write (all : Bool)
  | sendPacket (l : CArray)
  | sendReset
  | getPacket
  deriving DecidableEq, Repr

def step (s : FT12) : Event → Checked FT12
  | .read buf => .ok { s with akt := s.akt ++ buf }
  | .pass unset => do return (← s.pass unset).getD s
  | .timeout => .ok { s with mode := false }
  | .write all => .ok (s.write all)
  | .sendPacket l => s.sendPacket l
  | .sendReset => .ok s.sendReset
  | .getPacket => s.getPacket

/-! ## A frame at the front -/

/-- The frame is delivered: its sequence bit is the expected one, or its payload is new. -/
def Wanted (s : FT12) (control : Byte) (payload : CArray) : Prop :=
  s.InSequence control ∨ (s.OutOfSequence control ∧ payload ≠ s.last)

instance (s : FT12) (control : Byte) (payload : CArray) : Decidable (s.Wanted control payload) :=
  inferInstanceAs (Decidable (_ ∨ _))

/-- The buffer begins with a frame that is in order. -/
structure FrameFirst (s : FT12) (control : Byte) (payload rest : CArray) : Prop where
  akt : s.akt = variableFrame control payload ++ rest
  fits : payload.length + 1 < 256

/-- The frame is acknowledged and removed, and delivered if it is to be. -/
structure TakesFrame (s : FT12) (control : Byte) (payload rest : CArray) (s' : FT12) : Prop where
  akt : s'.akt = rest
  acked : s'.written = s.written ++ [ft12Ack]
  outqueue : s'.outqueue = s.outqueue ++ if s.Wanted control payload then [payload] else []
  last : s'.last = if s.Wanted control payload then payload else s.last

/-- A frame without a control byte is acknowledged and removed. -/
structure TakesEmpty (s : FT12) (rest : CArray) (s' : FT12) : Prop where
  akt : s'.akt = rest
  acked : s'.written = s.written ++ [ft12Ack]
  outqueue : s'.outqueue = s.outqueue
  last : s'.last = s.last

/-- A pass leaves the loop or removes something, and takes a frame as a whole.  The code waits for a
    seventh byte in front of any frame. -/
structure PassOk (s : FT12) (result : Option FT12) : Prop where
  progress : ∀ s', result = some s' → s'.akt.length < s.akt.length
  frame : ∀ control payload rest, s.FrameFirst control payload rest →
    ∃ s', result = some s' ∧ s.TakesFrame control payload rest s'
  empty : ∀ rest, rest ≠ [] → s.akt = emptyFrame ++ rest →
    ∃ s', result = some s' ∧ s.TakesEmpty rest s'

variable {s s' : FT12} {control : Byte} {payload rest : CArray}

/-! ### What a pass can do -/

/-- The buffer begins with what passes the tests for a frame of variable length. -/
structure Accepted (s : FT12) : Prop where
  first : s.byte 0 = 0x68#8
  twice : s.byte 1 = s.byte 2
  second : s.byte 3 = 0x68#8
  header : 7 ≤ s.akt.length
  complete : s.announced + 6 ≤ s.akt.length
  checksum : s.ChecksumOk

/-- The branches of the inner loop. -/
inductive PassTurn (s : FT12) (unset : Nat) : Checked (Option FT12) → Prop where
  /-- The rest has not come yet, or there is nothing. -/
  | waits : PassTurn s unset (.ok none)
  | acks (nonempty : 0 < s.akt.length) (mode : s.mode = true) :
      PassTurn s unset (s.onAck.map some)
  | fixed (nonempty : 0 < s.akt.length) : PassTurn s unset (.ok (some s.onFixed))
  | accepts (frame : s.Accepted) : PassTurn s unset (.ok (some (s.onVariable unset)))
  /-- What begins no frame, or one that is damaged, is removed. -/
  | skips (n : Nat) (nonempty : 0 < s.akt.length) :
      PassTurn s unset (.ok (some (s.consume (n + 1))))

theorem pass_turn (s : FT12) (unset : Nat) : PassTurn s unset (s.pass unset) := by
  rw [pass]
  -- the tests of a pass, in the order of the code
  by_cases hnil : s.akt.length = 0
  · rw [if_pos hnil]
    exact .waits
  have hpos : 0 < s.akt.length := Nat.pos_of_ne_zero hnil
  rw [if_neg hnil]
  by_cases hack : s.byte 0 = 0xE5#8 ∧ s.mode = true
  · rw [if_pos hack]
    exact .acks hpos hack.2
  rw [if_neg hack]
  by_cases hfixed : s.byte 0 = 0x10#8
  · rw [if_pos hfixed]
    split
    · exact .waits
    · exact .fixed hpos
  rw [if_neg hfixed]
  by_cases hvariable : s.byte 0 = 0x68#8
  · rw [if_pos hvariable]
    by_cases h7 : s.akt.length < 7
    · rw [if_pos h7]
      exact .waits
    rw [if_neg h7]
    by_cases hheader : s.byte 1 ≠ s.byte 2 ∨ s.byte 3 ≠ 0x68#8
    · rw [if_pos hheader]
      exact .skips 0 hpos
    rw [if_neg hheader]
    obtain ⟨h12, h3⟩ := not_or.mp hheader
    -- the length byte says how much has to be there
    by_cases hshort : s.akt.length < s.announced + 6
    · rw [if_pos hshort]
      exact .waits
    rw [if_neg hshort]
    by_cases hsum : s.ChecksumOk
    · rw [if_pos hsum]
      exact .accepts ⟨hvariable, not_not.mp h12, not_not.mp h3, not_lt.mp h7, not_lt.mp hshort,
        hsum⟩
    -- the whole of a damaged frame goes
    · rw [if_neg hsum]
      exact .skips (s.announced + 5) hpos
  · rw [if_neg hvariable]
    exact .skips 0 hpos

/-- A pass takes the branch for frames that are in order. -/
theorem Accepted.pass_eq (h : s.Accepted) (unset : Nat) :
    s.pass unset = .ok (some (s.onVariable unset)) := by
  have hlen := h.header
  rw [pass, if_neg (by omega), if_neg (by rw [h.first]; exact fun hc => absurd hc.1 (by decide)),
    if_neg (by rw [h.first]; decide), if_pos h.first, if_neg (by omega),
    if_neg (by rw [h.twice, h.second]; exact fun hc => hc.elim (absurd rfl) (absurd rfl)),
    if_neg (not_lt.mpr h.complete), if_pos h.checksum]

/-! ### A frame that is in order -/

theorem FrameFirst.announced_eq (h : s.FrameFirst control payload rest) :
    s.announced = payload.length + 1 := by
  rw [announced, byte, h.akt]
  exact toNat_ofNat_byte h.fits

theorem FrameFirst.byte_four (h : s.FrameFirst control payload rest) : s.byte 4 = control := by
  rw [byte, h.akt]
  rfl

theorem FrameFirst.drop_four (h : s.FrameFirst control payload rest) :
    s.akt.drop 4 = control :: (payload ++ ([sumBytes (control :: payload), 0x16#8] ++ rest)) := by
  rw [h.akt, variableFrame, List.append_assoc, List.append_assoc]
  rfl

theorem FrameFirst.payload_eq (h : s.FrameFirst control payload rest) : s.payload = payload := by
  have hdrop : s.akt.drop 5 = payload ++ ([sumBytes (control :: payload), 0x16#8] ++ rest) := by
    rw [← List.drop_drop (i := 1) (j := 4), h.drop_four]
    rfl
  rw [FT12.payload, h.announced_eq, hdrop, Nat.add_sub_cancel, List.take_left]

/-- What stands behind the payload. -/
theorem FrameFirst.byte_behind (h : s.FrameFirst control payload rest) (k : Nat) :
    s.byte (s.announced + 4 + k) =
      ([sumBytes (control :: payload), 0x16#8] ++ rest).getD k 0#8 := by
  have hindex : s.announced + 4 + k = 4 + ((control :: payload).length + k) := by
    rw [h.announced_eq, List.length_cons]
    omega
  rw [byte, hindex, List.getD_eq_getElem?_getD, ← List.getElem?_drop, h.drop_four,
    ← List.cons_append, List.getElem?_append_right (Nat.le_add_right _ _),
    Nat.add_sub_cancel_left, List.getD_eq_getElem?_getD]

theorem FrameFirst.checksumOk (h : s.FrameFirst control payload rest) : s.ChecksumOk := by
  constructor
  · rw [h.drop_four, h.announced_eq, List.take_succ_cons, List.take_left, ← h.announced_eq]
    exact h.byte_behind 0
  · exact h.byte_behind 1

theorem FrameFirst.length_akt (h : s.FrameFirst control payload rest) :
    s.akt.length = payload.length + 7 + rest.length := by
  rw [h.akt, List.length_append, length_variableFrame]

theorem FrameFirst.accepted (h : s.FrameFirst control payload rest) : s.Accepted where
  first := by
    rw [byte, h.akt]
    rfl
  twice := by
    rw [byte, byte, h.akt]
    rfl
  second := by
    rw [byte, h.akt]
    rfl
  header := by
    rw [h.length_akt]
    omega
  complete := by
    rw [h.length_akt, h.announced_eq]
    omega
  checksum := h.checksumOk

/-! ### The branch for such a frame -/

/-- The two sequence bits exclude each other, and the flag turns one into the other. -/
theorem inSequence_flip (s : FT12) (control : Byte) :
    s.flip.InSequence control ↔ s.OutOfSequence control := by
  rcases hflag : s.recvflag with _ | _ <;> simp [InSequence, OutOfSequence, flip, hflag]

theorem not_outOfSequence (h : s.InSequence control) : ¬ s.OutOfSequence control := by
  rintro (⟨rfl, hf⟩ | ⟨rfl, hf⟩)
  · rcases h with ⟨-, hf'⟩ | ⟨hc, -⟩
    · exact Bool.false_ne_true (hf'.symm.trans hf)
    · exact absurd hc (by decide)
  · rcases h with ⟨hc, -⟩ | ⟨-, hf'⟩
    · exact absurd hc (by decide)
    · exact Bool.false_ne_true (hf.symm.trans hf')

theorem FrameFirst.drop_frame (h : s.FrameFirst control payload rest) :
    s.akt.drop (payload.length + 7) = rest := by
  rw [h.akt, List.drop_left' (length_variableFrame control payload)]

/-- The frame is delivered with whatever sequence bit. -/
theorem takesFrame_of_deliver (h : s.FrameFirst control payload rest)
    (hw : s.Wanted control payload) (recvflag : Bool) :
    s.TakesFrame control payload rest
      (({ s.acknowledge with recvflag, last := s.payload }.deliver s.payload).consume
        (s.announced + 6)) := by
  rw [h.payload_eq, h.announced_eq]
  refine ⟨?_, rfl, ?_, ?_⟩
  · show deletepart s.akt 0 (payload.length + 7) = rest
    rw [deletepart_zero, h.drop_frame]
  · rw [if_pos hw]
    rfl
  · rw [if_pos hw]
    rfl

/-- A frame that is to be delivered. -/
theorem onVariable_of_wanted (h : s.FrameFirst control payload rest)
    (hw : s.Wanted control payload) (unset : Nat) :
    s.TakesFrame control payload rest (s.onVariable unset) := by
  have h4 : s.acknowledge.byte 4 = control := h.byte_four
  have hpayload : s.acknowledge.payload = payload := h.payload_eq
  rcases id hw with hin | ⟨hout, hne⟩
  · have hjump : s.acknowledge.sequenceJump = s.acknowledge := by
      rw [sequenceJump, h4, hpayload]
      exact if_neg fun hc => not_outOfSequence hin hc.1
    have hnow : s.acknowledge.InSequence (s.acknowledge.byte 4) := by
      rw [h4]
      exact hin
    rw [onVariable, hjump]
    dsimp only
    rw [if_pos hnow]
    exact takesFrame_of_deliver h hw _
  · -- the flag is turned first
    have hjump : s.acknowledge.sequenceJump = s.acknowledge.flip := by
      rw [sequenceJump, h4, hpayload]
      exact if_pos ⟨hout, hne⟩
    have hnow : s.acknowledge.flip.InSequence (s.acknowledge.flip.byte 4) := by
      rw [show s.acknowledge.flip.byte 4 = control from h4]
      exact (inSequence_flip s control).mpr hout
    rw [onVariable, hjump]
    dsimp only
    rw [if_pos hnow]
    exact takesFrame_of_deliver h hw _

/-- A frame out of sequence that is no jump either: `len` decides what is removed. -/
theorem onVariable_of_not_inSequence (hjump : s.acknowledge.sequenceJump = s.acknowledge)
    (hnow : ¬ s.acknowledge.InSequence (s.acknowledge.byte 4)) (unset : Nat) :
    s.onVariable unset = s.acknowledge.consume unset := by
  rw [onVariable, hjump]
  dsimp only
  rw [if_neg hnow]

/-- A frame that is not. -/
theorem onVariable_of_not_wanted (h : s.FrameFirst control payload rest)
    (hw : ¬ s.Wanted control payload) (unset : Nat) :
    s.onVariable unset = s.acknowledge.consume unset := by
  have h4 : s.acknowledge.byte 4 = control := h.byte_four
  have hpayload : s.acknowledge.payload = payload := h.payload_eq
  have hjump : s.acknowledge.sequenceJump = s.acknowledge := by
    rw [sequenceJump, h4, hpayload]
    exact if_neg fun hc => hw (.inr hc)
  have hnow : ¬ s.acknowledge.InSequence (s.acknowledge.byte 4) := by
    rw [h4]
    exact fun hin => hw (.inl hin)
  exact onVariable_of_not_inSequence hjump hnow unset

/-! ### What passes the tests -/

/-- What a buffer holds that passes the tests of a pass. -/
theorem Accepted.akt (h : s.Accepted) :
    ∃ body rest : CArray, body.length = s.announced ∧
      s.akt = [0x68#8, s.byte 1, s.byte 1, 0x68#8] ++ body ++ [sumBytes body, 0x16#8] ++ rest := by
  have hlen := h.complete
  -- the four bytes of the header, and what is behind them
  obtain ⟨b0, b1, b2, b3, t, ht⟩ : ∃ b0 b1 b2 b3 t, s.akt = b0 :: b1 :: b2 :: b3 :: t := by
    rcases hakt : s.akt with _ | ⟨b0, _ | ⟨b1, _ | ⟨b2, _ | ⟨b3, t⟩⟩⟩⟩
    · rw [hakt] at hlen
      exact absurd hlen (Nat.not_succ_le_zero _)
    all_goals
      first
        | exact ⟨_, _, _, _, _, rfl⟩
        | rw [hakt] at hlen
          simp only [List.length_cons, List.length_nil] at hlen
          omega
  have hbehind : ∀ k, s.byte (s.announced + 4 + k) = (t.drop s.announced).getD k 0#8 := by
    intro k
    have hindex : s.announced + 4 + k = s.announced + k + 4 := by omega
    rw [byte, ht, hindex, List.getD_eq_getElem?_getD, List.getD_eq_getElem?_getD,
      List.getElem?_drop]
    rfl
  have htlen : s.announced + 2 ≤ t.length := by
    rw [ht] at hlen
    simp only [List.length_cons] at hlen
    omega
  -- the checksum and the end byte, behind the bytes announced
  obtain ⟨x, y, rest, hrest⟩ : ∃ x y rest, t.drop s.announced = x :: y :: rest := by
    rcases hdrop : t.drop s.announced with _ | ⟨x, _ | ⟨y, rest⟩⟩
    · have := congrArg List.length hdrop
      rw [List.length_drop, List.length_nil] at this
      omega
    · have := congrArg List.length hdrop
      rw [List.length_drop, List.length_singleton] at this
      omega
    · exact ⟨x, y, rest, rfl⟩
  have hx := hbehind 0
  have hy := hbehind 1
  rw [hrest] at hx hy
  have hx' : x = sumBytes (t.take s.announced) := by
    have hdrop4 : s.akt.drop 4 = t := by
      rw [ht]
      rfl
    rw [← hdrop4]
    exact hx.symm.trans h.checksum.1
  have hy' : y = 0x16#8 := hy.symm.trans h.checksum.2
  refine ⟨t.take s.announced, rest, by rw [List.length_take]; omega, ?_⟩
  -- the header byte by byte
  have e0 : b0 = 0x68#8 := by
    rw [← h.first, byte, ht]
    rfl
  have e1 : s.byte 1 = b1 := by
    rw [byte, ht]
    rfl
  have e2 : b2 = s.byte 1 := by
    rw [h.twice, byte, ht]
    rfl
  have e3 : b3 = 0x68#8 := by
    rw [← h.second, byte, ht]
    rfl
  rw [← hx', ht, e0, e2, e1, e3, List.append_assoc, List.append_assoc, ← hy']
  show _ = _ :: _ :: _ :: _ :: (t.take s.announced ++ (x :: y :: rest))
  rw [← hrest, List.take_append_drop]

/-- `len` happens to hold the length of a frame that is not delivered, with or without a control
    byte. -/
structure LenRight (s : FT12) (unset : Nat) : Prop where
  frame : ∀ control payload rest, s.FrameFirst control payload rest →
    ¬ s.Wanted control payload → min unset s.akt.length = payload.length + 7
  empty : ∀ rest, rest ≠ [] → s.akt = emptyFrame ++ rest → unset = 6

/-- A frame the code takes for one is a frame, or one without a control byte. -/
theorem Accepted.cases (h : s.Accepted) :
    (∃ control payload rest, s.FrameFirst control payload rest) ∨
      ∃ rest, rest ≠ [] ∧ s.akt = emptyFrame ++ rest := by
  obtain ⟨body, rest, hbody, hakt⟩ := h.akt
  rcases body with _ | ⟨control, payload⟩
  -- no control byte
  · right
    have h1 : s.byte 1 = 0#8 := BitVec.eq_of_toNat_eq hbody.symm
    rw [h1] at hakt
    refine ⟨rest, ?_, hakt⟩
    rintro rfl
    have h7 := h.header
    rw [hakt] at h7
    exact absurd h7 (by decide)
  · left
    have hlt : s.announced < 256 := (s.byte 1).isLt
    have h1 : s.byte 1 = BitVec.ofNat 8 (payload.length + 1) := by
      refine BitVec.eq_of_toNat_eq ?_
      rw [toNat_ofNat_byte (by rw [← List.length_cons (a := control), hbody]; exact hlt)]
      exact hbody.symm
    rw [h1] at hakt
    refine ⟨control, payload, rest, hakt, ?_⟩
    rw [← List.length_cons (a := control), hbody]
    exact hlt

/-- A frame without a control byte is acknowledged, and `len` decides. -/
theorem onVariable_of_empty (hakt : s.akt = emptyFrame ++ rest)
    (unset : Nat) : s.onVariable unset = s.acknowledge.consume unset := by
  have h4 : s.acknowledge.byte 4 = 0#8 := by
    show s.byte 4 = 0#8
    rw [byte, hakt]
    rfl
  have hneither : ∀ t : FT12, ¬ t.InSequence 0#8 ∧ ¬ t.OutOfSequence 0#8 := by
    intro t
    constructor
    · rintro (⟨hc, -⟩ | ⟨hc, -⟩) <;> exact absurd hc (by decide)
    · rintro (⟨hc, -⟩ | ⟨hc, -⟩) <;> exact absurd hc (by decide)
  have hjump : s.acknowledge.sequenceJump = s.acknowledge := by
    rw [sequenceJump, h4]
    exact if_neg fun hc => (hneither _).2 hc.1
  exact onVariable_of_not_inSequence hjump (by rw [h4]; exact (hneither _).1) unset

theorem length_of_empty (hakt : s.akt = emptyFrame ++ rest) : s.akt.length = 6 + rest.length := by
  rw [hakt, List.length_append]
  rfl

theorem accepted_of_empty (hakt : s.akt = emptyFrame ++ rest)
    (hrest : rest ≠ []) : s.Accepted := by
  have hpos := List.length_pos_iff.mpr hrest
  have hlen := length_of_empty hakt
  have hn : s.announced = 0 := by
    rw [announced, byte, hakt]
    rfl
  refine ⟨?_, ?_, ?_, by omega, by omega, ?_⟩
  · rw [byte, hakt]
    rfl
  · rw [byte, byte, hakt]
    rfl
  · rw [byte, hakt]
    rfl
  · rw [ChecksumOk, hn, byte, byte, hakt]
    exact ⟨rfl, rfl⟩

theorem pass_of_empty (hakt : s.akt = emptyFrame ++ rest)
    (hrest : rest ≠ []) (unset : Nat) :
    s.pass unset = .ok (some (s.acknowledge.consume unset)) := by
  rw [(accepted_of_empty hakt hrest).pass_eq, onVariable_of_empty hakt]

/-! ### One pass -/

/-- `in_signal` counts `inqueue`, and the frame that waits for its acknowledgement is in it. -/
structure Sound (s : FT12) : Prop where
  signal : s.inSignal = s.inqueue.length
  pending : s.mode = true → s.inqueue ≠ []

theorem length_consume (s : FT12) (n : Nat) : (s.consume n).akt.length = s.akt.length - n := by
  show (deletepart s.akt 0 n).length = _
  rw [deletepart_zero, List.length_drop]

theorem onFixed_akt (s : FT12) : s.onFixed.akt = s.akt.drop 4 := by
  rw [onFixed]
  split
  · dsimp only
    split
    · split
      · exact deletepart_zero _ 4
      · exact deletepart_zero _ 4
    · split
      · exact deletepart_zero _ 4
      · exact deletepart_zero _ 4
  · exact deletepart_zero _ 4

theorem onAck_returns (h : s.Sound) (hmode : s.mode = true) :
    ∃ s', s.onAck = .ok s' ∧ s'.akt = s.akt.drop 1 ∧ s'.Sound := by
  obtain ⟨c, inqueue, hqueue⟩ := List.exists_cons_of_ne_nil (h.pending hmode)
  have hsignal : s.inSignal = inqueue.length + 1 := by
    rw [h.signal, hqueue, List.length_cons]
  rw [onAck, hsignal, hqueue]
  refine ⟨_, rfl, deletepart_zero _ 1, rfl, nofun⟩

/-- What a frame in order leaves of the buffer is shorter, if `len` is right. -/
theorem onVariable_progress {unset : Nat} (hlen : s.LenRight unset)
    (hcases : (∃ control payload rest, s.FrameFirst control payload rest) ∨
      ∃ rest, rest ≠ [] ∧ s.akt = emptyFrame ++ rest) :
    (s.onVariable unset).akt.length < s.akt.length := by
  rcases hcases with ⟨control, payload, rest, hframe⟩ | ⟨rest, hrest, hakt⟩
  · have htotal := hframe.length_akt
    by_cases hw : s.Wanted control payload
    · rw [(onVariable_of_wanted hframe hw unset).akt]
      omega
    · have hmin := hlen.frame control payload rest hframe hw
      rw [onVariable_of_not_wanted hframe hw, length_consume]
      show s.akt.length - unset < s.akt.length
      omega
  · obtain rfl := hlen.empty rest hrest hakt
    have hpos : 0 < s.akt.length := by
      rw [hakt]
      exact Nat.succ_pos _
    rw [onVariable_of_empty hakt, length_consume]
    exact Nat.sub_lt hpos (Nat.succ_pos 5)

theorem pass_progress {unset : Nat} (h : s.Sound) (hlen : s.LenRight unset) :
    ∃ result, s.pass unset = .ok result ∧
      ∀ s', result = some s' → s'.akt.length < s.akt.length := by
  have hsome : ∀ t : FT12, t.akt.length < s.akt.length → ∃ result,
      (.ok (some t) : Checked (Option FT12)) = .ok result ∧
        ∀ s', result = some s' → s'.akt.length < s.akt.length := by
    intro t ht
    refine ⟨some t, rfl, ?_⟩
    rintro s' hs'
    rwa [← Option.some.inj hs']
  have hturn := s.pass_turn unset
  generalize s.pass unset = x at hturn
  cases hturn with
  | waits => exact ⟨none, rfl, nofun⟩
  | acks nonempty mode =>
      obtain ⟨s', hs', hakt, -⟩ := onAck_returns h mode
      rw [hs']
      refine hsome s' ?_
      rw [hakt, List.length_drop]
      omega
  | fixed nonempty =>
      refine hsome _ ?_
      rw [onFixed_akt, List.length_drop]
      omega
  -- here alone `len` decides what is removed
  | accepts frame => exact hsome _ (onVariable_progress hlen frame.cases)
  | skips n nonempty =>
      refine hsome _ ?_
      rw [length_consume]
      omega

/-- A pass does as it should exactly if `len` holds the right value. -/
theorem passOk_iff {unset : Nat} (h : s.Sound) :
    (∃ result, s.pass unset = .ok result ∧ s.PassOk result) ↔ s.LenRight unset := by
  constructor
  · rintro ⟨result, hpass, -, htakes, hempty⟩
    constructor
    · intro control payload rest hframe hw
      obtain ⟨s', hs', htaken⟩ := htakes control payload rest hframe
      cases (hframe.accepted.pass_eq unset).symm.trans hpass
      obtain rfl := Option.some.inj hs'
      have hrest := congrArg List.length htaken.akt
      rw [onVariable_of_not_wanted hframe hw, length_consume] at hrest
      have hrest' : s.akt.length - unset = rest.length := hrest
      have htotal := hframe.length_akt
      omega
    · intro rest hne hakt
      obtain ⟨s', hs', htaken⟩ := hempty rest hne hakt
      cases (pass_of_empty hakt hne unset).symm.trans hpass
      obtain rfl := Option.some.inj hs'
      have hrest := congrArg List.length htaken.akt
      rw [length_consume] at hrest
      have hrest' : s.akt.length - unset = rest.length := hrest
      have hpos := List.length_pos_iff.mpr hne
      have htotal := length_of_empty hakt
      omega
  · intro hlen
    obtain ⟨result, hpass, hprogress⟩ := pass_progress h hlen
    refine ⟨result, hpass, hprogress, fun control payload rest hframe => ?_,
      fun rest hne hakt => ?_⟩
    · cases (hframe.accepted.pass_eq unset).symm.trans hpass
      refine ⟨_, rfl, ?_⟩
      by_cases hw : s.Wanted control payload
      · exact onVariable_of_wanted hframe hw unset
      · -- what `len` removes is the frame
        rw [onVariable_of_not_wanted hframe hw]
        have hmin := hlen.frame control payload rest hframe hw
        have htotal := hframe.length_akt
        refine ⟨?_, rfl, ?_, ?_⟩
        · show deletepart s.akt 0 unset = rest
          rw [deletepart_zero, ← hframe.drop_frame]
          rcases Nat.lt_or_ge unset s.akt.length with hlt | hge
          · rw [← hmin, Nat.min_eq_left (Nat.le_of_lt hlt)]
          · rw [List.drop_of_length_le hge, List.drop_of_length_le (by omega)]
        · rw [if_neg hw, List.append_nil]
          rfl
        · rw [if_neg hw]
          rfl
    · obtain rfl := hlen.empty rest hne hakt
      cases (pass_of_empty hakt hne 6).symm.trans hpass
      refine ⟨_, rfl, ?_, rfl, rfl, rfl⟩
      show deletepart s.akt 0 6 = rest
      rw [deletepart_zero, hakt]
      rfl

/-! ## Runs -/

theorem sound_consume (h : s.Sound) (n : Nat) : (s.consume n).Sound := ⟨h.signal, h.pending⟩

theorem sound_onFixed (h : s.Sound) : s.onFixed.Sound := by
  rw [onFixed]
  split
  · dsimp only
    split
    · split
      · exact ⟨h.signal, h.pending⟩
      · exact ⟨h.signal, h.pending⟩
    · split
      · exact ⟨h.signal, h.pending⟩
      · exact ⟨h.signal, h.pending⟩
  · exact ⟨h.signal, h.pending⟩

theorem sound_onVariable (h : s.Sound) (unset : Nat) : (s.onVariable unset).Sound := by
  have hjump : s.acknowledge.sequenceJump.Sound := by
    rw [sequenceJump]
    split
    · exact ⟨h.signal, h.pending⟩
    · exact ⟨h.signal, h.pending⟩
  rw [onVariable]
  dsimp only
  split
  · exact ⟨hjump.signal, hjump.pending⟩
  · exact ⟨hjump.signal, hjump.pending⟩

theorem Sound.pass {unset : Nat} (h : s.Sound) (hpass : s.pass unset = .ok (some s')) :
    s'.Sound := by
  have hkeep : ∀ {t : FT12}, t.Sound →
      (.ok (some t) : Checked (Option FT12)) = .ok (some s') → s'.Sound := by
    rintro t ht heq
    rwa [← Option.some.inj (Except.ok.inj heq)]
  have hturn := s.pass_turn unset
  generalize s.pass unset = x at hturn hpass
  cases hturn with
  | waits => cases hpass
  | acks nonempty mode =>
      obtain ⟨t, ht, -, hsound⟩ := onAck_returns h mode
      rw [ht] at hpass
      exact hkeep hsound hpass
  | fixed => exact hkeep (sound_onFixed h) hpass
  | accepts => exact hkeep (sound_onVariable h unset) hpass
  | skips n => exact hkeep (sound_consume h _) hpass

/-- One more frame in `inqueue`. -/
theorem Sound.put (h : s.Sound) {c : CArray} (hqueue : s'.inqueue = s.inqueue ++ [c])
    (hsignal : s'.inSignal = s.inSignal + 1) : s'.Sound where
  signal := by rw [hsignal, hqueue, h.signal, List.length_append, List.length_singleton]
  pending _ := by
    rw [hqueue]
    exact List.append_ne_nil_of_right_ne_nil _ (List.cons_ne_nil _ _)

theorem Sound.step {e : Event} (h : s.Sound) (hstep : s.step e = .ok s') : s'.Sound := by
  cases e with
  | read buf =>
      cases hstep
      exact ⟨h.signal, h.pending⟩
  | pass unset =>
      obtain ⟨result, hpass, hstep⟩ := Checked.bind_eq_ok.mp hstep
      cases hstep
      rcases result with _ | t
      · exact h
      · exact h.pass hpass
  | timeout =>
      cases hstep
      exact ⟨h.signal, nofun⟩
  -- the frame stays in front of the queue until it is acknowledged
  | write all =>
      cases hstep
      rw [write]
      split
      case h_1 c rest hmode hqueue =>
        exact ⟨h.signal, fun _ => by rw [hqueue]; exact List.cons_ne_nil _ _⟩
      case h_2 => exact h
  | sendPacket l =>
      obtain ⟨-, -, hstep⟩ := Checked.bind_eq_ok.mp hstep
      cases hstep
      exact h.put rfl rfl
  | sendReset =>
      cases hstep
      exact h.put rfl rfl
  | getPacket =>
      obtain ⟨outSignal, -, hstep⟩ := Checked.bind_eq_ok.mp hstep
      obtain ⟨⟨c, outqueue⟩, -, hstep⟩ := Checked.bind_eq_ok.mp hstep
      cases hstep
      exact ⟨h.signal, h.pending⟩

/-- The passes of the inner loop that follow each other, as long as `len` is right, come to its
    end before they are more than the bytes in the buffer. -/
theorem loop_ends {us : List Nat} (h : s.Sound) (hlong : s.akt.length < us.length)
    (hmeet : StepsMeet step (fun s e => ∀ unset, e = .pass unset → s.LenRight unset) s
      (us.map .pass)) :
    ∃ us₁ unset us₂ s', us = us₁ ++ unset :: us₂ ∧ run step s (us₁.map .pass) = .ok s' ∧
      s'.pass unset = .ok none := by
  induction us generalizing s with
  | nil => exact absurd hlong (Nat.not_lt_zero _)
  | cons u us ih =>
      obtain ⟨result, hpass, hprogress⟩ := pass_progress h (hmeet.1 u rfl)
      rcases result with _ | t
      · exact ⟨[], u, us, s, rfl, rfl, hpass⟩
      · have hstep : s.step (.pass u) = .ok t := by
          rw [step, hpass]
          rfl
        have hlt := hprogress t rfl
        rw [List.length_cons] at hlong
        obtain ⟨us₁, unset, us₂, s', hus, hrun, hend⟩ :=
          ih (h.pass hpass) (by omega) (hmeet.2 t hstep)
        refine ⟨u :: us₁, unset, us₂, s', by rw [hus]; rfl, ?_, hend⟩
        rw [List.map_cons, run_cons, hstep, Checked.ok_bind, hrun]

/-- From the start, whatever arrives and however it is split: every pass of the inner loop leaves
    it or removes something, and takes a frame that is in order as a whole, if and only if `len`
    happens to hold the right value wherever it is not set; and then the loop ends. -/
theorem passes_ok_iff_len_right (es : List Event) :
    (StepsMeet step (fun s e => ∀ unset, e = .pass unset →
        ∃ result, s.pass unset = .ok result ∧ s.PassOk result) {} es ↔
      StepsMeet step (fun s e => ∀ unset, e = .pass unset → s.LenRight unset) {} es) ∧
    ∀ s us, run step {} es = .ok s → s.akt.length < us.length →
      StepsMeet step (fun s e => ∀ unset, e = .pass unset → s.LenRight unset) s (us.map .pass) →
      ∃ us₁ unset us₂ s', us = us₁ ++ unset :: us₂ ∧ run step s (us₁.map .pass) = .ok s' ∧
        s'.pass unset = .ok none := by
  have hinit : Sound {} := ⟨rfl, nofun⟩
  constructor
  · have hiff : ∀ (s : FT12) (e : Event), Sound s →
        ((∀ unset, e = .pass unset → ∃ result, s.pass unset = .ok result ∧ s.PassOk result) ↔
          ∀ unset, e = .pass unset → s.LenRight unset) :=
      fun s e h => forall₂_congr fun unset _ => passOk_iff h
    exact StepsMeet.congr (fun s e s' h hstep => h.step hstep) hiff hinit
  · intro s us hrun hlong hmeet
    have hsound : Sound s := run_invariant (P := fun _ _ => True)
      (fun s e s' h _ hstep => h.step hstep) hinit (StepsMeet.of_events fun _ _ => trivial) hrun
    exact loop_ends hsound hlong hmeet

theorem lenRight_of_short (h : s.akt.length < 7) (unset : Nat) : s.LenRight unset where
  frame control payload rest hframe _ := by
    have := hframe.length_akt
    omega
  empty rest hrest hakt := by
    have hpos := List.length_pos_iff.mpr hrest
    have hlen := length_of_empty hakt
    omega

/-- `len` is set for a frame that is delivered. -/
theorem lenRight_of_wanted (h : s.FrameFirst control payload rest) (hw : s.Wanted control payload)
    (unset : Nat) : s.LenRight unset where
  frame control' payload' rest' hframe hnot := by
    have hcontrol : control' = control := hframe.byte_four.symm.trans h.byte_four
    have hpayload : payload' = payload := hframe.payload_eq.symm.trans h.payload_eq
    rw [hcontrol, hpayload] at hnot
    exact absurd hw hnot
  empty rest' _ hakt := by
    have hzero : s.announced = 0 := by
      rw [announced, byte, hakt]
      rfl
    rw [h.announced_eq] at hzero
    exact absurd hzero (Nat.succ_ne_zero _)

/-- Once less than a frame is left, `len` does not matter any more. -/
theorem lenRight_along_of_short (h : s.Sound) (hshort : s.akt.length < 7) (us : List Nat) :
    StepsMeet step (fun s e => ∀ unset, e = .pass unset → s.LenRight unset) s (us.map .pass) := by
  induction us generalizing s with
  | nil => exact trivial
  | cons u us ih =>
      refine ⟨fun unset _ => lenRight_of_short hshort unset, fun s' hs' => ?_⟩
      obtain ⟨result, hpass, hprogress⟩ := pass_progress h (lenRight_of_short hshort u)
      refine ih (h.step hs') ?_
      rw [step, hpass] at hs'
      cases hs'
      rcases result with _ | t
      · exact hshort
      · exact lt_trans (hprogress t rfl) hshort

/-- A frame that is delivered. -/
theorem passes_ok_iff_len_right_frame :
    ∃ us₁ unset us₂ s', List.replicate 9 0 = us₁ ++ unset :: us₂ ∧
      run step { akt := variableFrame 0xF3#8 [0x01#8] } (us₁.map .pass) = .ok s' ∧
      s'.pass unset = .ok none := by
  have hframe : FrameFirst { akt := variableFrame 0xF3#8 [0x01#8] } 0xF3#8 [0x01#8] [] :=
    ⟨(List.append_nil _).symm, by decide⟩
  have hwanted : Wanted { akt := variableFrame 0xF3#8 [0x01#8] } 0xF3#8 [0x01#8] := by decide
  refine (passes_ok_iff_len_right [.read (variableFrame 0xF3#8 [0x01#8])]).2 _ _ rfl (by decide)
    ⟨fun unset _ => lenRight_of_wanted hframe hwanted unset, fun s' hs' => ?_⟩
  have hsound : Sound { akt := variableFrame 0xF3#8 [0x01#8] } :=
    ⟨rfl, fun h => absurd h Bool.false_ne_true⟩
  refine lenRight_along_of_short (hsound.step hs') ?_ (List.replicate 8 0)
  rw [step, hframe.accepted.pass_eq] at hs'
  cases hs'
  decide

/-- A frame comes twice, since its acknowledgement was lost. -/
def repeatedFrame : List Event :=
  [.read (variableFrame 0xF3#8 [0x01#8]), .pass 0, .read (variableFrame 0xF3#8 [0x01#8])]

/-- The pass over the repetition, with 0 in `len`, removes nothing. -/
theorem repeatedFrame_not_taken :
    ¬ StepsMeet step (fun s e => ∀ unset, e = .pass unset →
        ∃ result, s.pass unset = .ok result ∧ s.PassOk result) {}
      (repeatedFrame ++ [.pass 0]) := by
  have hend : ∃ s, run step {} repeatedFrame = .ok s ∧
      s.akt = variableFrame 0xF3#8 [0x01#8] ∧ s.recvflag = true ∧ s.last = [0x01#8] := by
    decide +kernel
  obtain ⟨s, hrun, hakt, hflag, hlast⟩ := hend
  have hsound : Sound s := run_invariant (P := fun _ _ => True)
    (fun s e s' h _ hstep => h.step hstep) (⟨rfl, nofun⟩ : Sound {})
    (StepsMeet.of_events fun _ _ => trivial) hrun
  have hframe : s.FrameFirst 0xF3#8 [0x01#8] [] := ⟨by rw [hakt, List.append_nil], by decide⟩
  -- neither its sequence bit nor its payload makes it a new one
  have hw : ¬ s.Wanted 0xF3#8 [0x01#8] := by
    rintro ((⟨-, hf⟩ | ⟨hc, -⟩) | ⟨-, hne⟩)
    · rw [hflag] at hf
      cases hf
    · exact absurd hc (by decide)
    · exact hne hlast.symm
  intro h
  have hmin := ((passOk_iff hsound).mp (h.of_append hrun 0 rfl)).frame _ _ _ hframe hw
  rw [Nat.zero_min] at hmin
  cases hmin

end FT12

end BcuSdk.Eibd
