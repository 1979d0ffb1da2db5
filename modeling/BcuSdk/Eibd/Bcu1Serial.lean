/-
  BcuSdk.Eibd.Bcu1Serial

  `BCU1SerialLowLevelDriver` (eibd/backend/bcu1serial.cpp): a BCU1 on a serial
  line, byte by byte.

  Each byte goes over the line between a `startsync` and an `endsync`, which
  set RTS and wait for CTS to follow; a turn of `Run` leaves at the first of
  these calls that fails.  What the line does in a turn is given by a
  `Handshake` for each byte.  In the loop over the bytes of a packet the test
  behind `endsync` is the other way round than behind every other `endsync`.
-/
import BcuSdk.Eibd.EibNetIp
import BcuSdk.Lib.Run

namespace BcuSdk.Eibd

open BcuSdk.Lib

/-! ## One byte -/

/-- What the three calls for a byte return. -/
structure Handshake where
  startsync : Bool
  /-- The byte that comes back, unless it does not come in time. -/
  exchange : Option Byte
  endsync : Bool
  deriving DecidableEq, Repr

/-- A call that has been made, with its result. -/
inductive LineCall where
  | startsync (ok : Bool)
  | exchange (c : Byte) (result : Option Byte)
  | endsync (ok : Bool)
  deriving DecidableEq, Repr

namespace LineCall

def Failed : LineCall → Prop
  | .startsync ok => ok = false
  | .exchange _ result => result = none
  | .endsync ok => ok = false

/-- The calls of a byte that went over the line. -/
def ofByte (c s : Byte) : List LineCall :=
  [.startsync true, .exchange c (some s), .endsync true]

theorem not_failed_ofByte {c s : Byte} : ∀ x ∈ ofByte c s, ¬ x.Failed := by
  simp [ofByte, Failed]

end LineCall

/-- The three calls for a byte, with the number of the error where one of them leaves the turn;
    `goOn` is the result of `endsync` that does not. -/
def syncByte (goOn : Bool) (h : Handshake) (c : Byte) : List LineCall × Except Nat Byte :=
  match h.startsync, h.exchange with
  | false, _ => ([.startsync false], .error 1)
  | true, none => ([.startsync true, .exchange c none], .error 3)
  | true, some s =>
      ([.startsync true, .exchange c (some s), .endsync h.endsync],
        if h.endsync = goOn then .ok s else .error 2)

theorem syncByte_eq_ok {goOn : Bool} {h : Handshake} {c s : Byte} :
    (syncByte goOn h c).2 = .ok s ↔
      h.startsync = true ∧ h.exchange = some s ∧ h.endsync = goOn := by
  obtain ⟨start, x, stop⟩ := h
  cases start with
  | false => simp [syncByte]
  | true =>
      cases x with
      | none => simp [syncByte]
      | some s' =>
          by_cases hstop : stop = goOn
          · simp [syncByte, hstop]
          · simp [syncByte, hstop]

/-! ## The driver -/

/-- The number of set bits. -/
def bitcount (x : Byte) : Nat := (List.range 8).countP fun i => x.getLsbD i

/-- `e[0]` for a packet: its length in five bits, a mark and a parity bit. -/
def lengthByte (c : CArray) : Byte :=
  let s := BitVec.ofNat 8 c.length &&& 0x1f#8 ||| 0x20#8
  s ||| BitVec.ofNat 8 (0x80 * bitcount s)

/-- The parity bit makes the number of set bits even, and leaves the rest as it is. -/
theorem lengthByte_low (b : Byte) :
    let s := b &&& 0x1f#8 ||| 0x20#8
    let e := s ||| BitVec.ofNat 8 (0x80 * bitcount s)
    e ≠ 0xff#8 ∧ e &&& 0x1f#8 = b &&& 0x1f#8 ∧ bitcount e % 2 = 0 := by
  have hsmall : (b &&& 0x1f#8).toNat < 32 := Nat.lt_succ_of_le (toNat_and_le b 0x1f#8)
  generalize b &&& 0x1f#8 = x at hsmall
  revert hsmall
  exact of_toNat_lt (p := fun x =>
    let e := x ||| 0x20#8 ||| BitVec.ofNat 8 (0x80 * bitcount (x ||| 0x20#8))
    e ≠ 0xff#8 ∧ e &&& 0x1f#8 = x ∧ bitcount e % 2 = 0) (by decide)

theorem lengthByte_ne (c : CArray) : lengthByte c ≠ 0xff#8 := (lengthByte_low _).1

/-- `BCU1SerialLowLevelDriver`, with what the last turn of its `Run` did. -/
structure BCU1Serial where
  inqueue : List CArray := []
  outqueue : List CArray := []
  inSignal : Nat := 0
  outSignal : Nat := 0
  sendEmpty : Bool := true
  /-- The calls of the last turn. -/
  calls : List LineCall := []
  /-- The last turn's `error`. -/
  error : Option Nat := none
  deriving DecidableEq, Repr

namespace BCU1Serial

/-- `e[0]`; 0xff asks for a packet of the device. -/
def firstByte (d : BCU1Serial) : Byte :=
  match d.inqueue with
  | c :: _ => lengthByte c
  | [] => 0xff#8

/-- `e` behind `e[0]`. -/
def payload (d : BCU1Serial) : CArray := d.inqueue.headD []

/-- The loop over `e`; `k` counts the bytes of the turn.  Here it is an `endsync` that succeeds
    that leaves it. -/
def sendBytes (line : Nat → Handshake) : Nat → CArray → Byte → List LineCall × Except Nat Byte
  | _, [], s => ([], .ok s)
  | k, c :: cs, _ =>
      match syncByte false (line k) c with
      | (calls, .error n) => (calls, .error n)
      | (calls, .ok s) =>
          let (calls', r) := sendBytes line (k + 1) cs s
          (calls ++ calls', r)

/-- The loop over `r`. -/
def receiveBytes (line : Nat → Handshake) : Nat → Nat → List LineCall × Except Nat CArray
  | _, 0 => ([], .ok [])
  | k, i + 1 =>
      match syncByte true (line k) 0#8 with
      | (calls, .error n) => (calls, .error n)
      | (calls, .ok s) =>
          let (calls', r) := receiveBytes line (k + 1) i
          (calls ++ calls', r.map (s :: ·))

/-- Behind the loop over `e`, when the device has taken the packet. -/
def dropSent (d : BCU1Serial) : Checked BCU1Serial := do
  let (_, inqueue) ← Queue.get d.inqueue
  let inSignal ← semDec d.inSignal
  let sendEmpty := if inqueue = [] then true else d.sendEmpty
  return { d with inqueue, inSignal, sendEmpty }

/-- `outqueue.put` and `pth_sem_inc`. -/
def deliver (d : BCU1Serial) (r : CArray) : BCU1Serial :=
  { d with outqueue := d.outqueue ++ [r], outSignal := d.outSignal + 1 }

/-- A turn of `Run`. -/
def turn (d : BCU1Serial) (line : Nat → Handshake) : Checked BCU1Serial :=
  match syncByte true (line 0) d.firstByte with
  | (calls, .error n) => .ok { d with calls, error := some n }
  | (calls, .ok s) =>
      if s = 0xff#8 ∧ d.firstByte ≠ 0xff#8 then
        match sendBytes line 1 d.payload s with
        | (calls', .error n) => .ok { d with calls := calls ++ calls', error := some n }
        | (calls', .ok s) =>
            let d := { d with calls := calls ++ calls' }
            if s ≠ 0x00#8 then .ok { d with error := some 10 } else dropSent { d with error := none }
      else if s ≠ 0xff#8 then
        match receiveBytes line 1 (s &&& 0x1f#8).toNat with
        | (calls', .error n) => .ok { d with calls := calls ++ calls', error := some n }
        | (calls', .ok r) => .ok (deliver { d with calls := calls ++ calls', error := none } r)
      else .ok { d with calls, error := none }

/-- What can happen next. -/
inductive Event where
  | sendPacket (l : CArray)
  /-- `Get_Packet`, when there is one. -/
  | getPacket
  | turn (line : Nat → Handshake)

def step (d : BCU1Serial) : Event → Checked BCU1Serial
  | .sendPacket l =>
      .ok { d with inqueue := d.inqueue ++ [l], inSignal := d.inSignal + 1, sendEmpty := false }
  | .getPacket => do
      let outSignal ← semDec d.outSignal
      let (_, outqueue) ← Queue.get d.outqueue
      return { d with outSignal, outqueue }
  | .turn line => d.turn line

/-! ## A packet on the line -/

/-- All bytes of the packet have gone over the line once, in order, behind a length byte that was
    answered by 0xff, and the answer to the last one was 0. -/
def Complete (c : CArray) (calls : List LineCall) : Prop :=
  ∃ answers : List Byte,
    answers.length = c.length + 1 ∧ answers.head? = some 0xff#8 ∧ answers.getLast? = some 0x00#8 ∧
      calls = (List.zipWith LineCall.ofByte (lengthByte c :: c) answers).flatten

theorem Complete.not_failed {c : CArray} {calls : List LineCall} (h : Complete c calls) :
    ∀ x ∈ calls, ¬ x.Failed := by
  obtain ⟨answers, -, -, -, rfl⟩ := h
  intro x hx
  obtain ⟨l, hl, hxl⟩ := List.mem_flatten.mp hx
  obtain ⟨i, hi, rfl⟩ := List.getElem_of_mem hl
  rw [List.getElem_zipWith] at hxl
  exact LineCall.not_failed_ofByte x hxl

/-- The device takes the packet: it has 0xff ready for the length byte and 0 for the last one, and
    nothing up to there fails, whatever the `endsync`s of the packet's bytes return. -/
structure Accepts (line : Nat → Handshake) (c : CArray) : Prop where
  first : (line 0).startsync = true ∧ (line 0).exchange = some 0xff#8 ∧ (line 0).endsync = true
  bytes : ∀ i < c.length, (line (i + 1)).startsync = true ∧ (line (i + 1)).exchange.isSome
  last : (line c.length).exchange = some 0x00#8

/-- The `endsync`s of the packet's bytes all return `ok`. -/
def EndsyncsReturn (line : Nat → Handshake) (c : CArray) (ok : Bool) : Prop :=
  ∀ i < c.length, (line (i + 1)).endsync = ok

theorem Accepts.ne_nil {line : Nat → Handshake} {c : CArray} (h : Accepts line c) : c ≠ [] := by
  rintro rfl
  have hzero : some 0xff#8 = some 0x00#8 := h.first.2.1.symm.trans h.last
  exact absurd hzero (by decide)

/-- The byte goes over the line, but for its `endsync`. -/
def Unreleased (h : Handshake) : Prop :=
  h.startsync = true ∧ h.exchange.isSome ∧ h.endsync = false

/-- The loop reaches its end when every `endsync` in it fails. -/
theorem sendBytes_eq_ok {line : Nat → Handshake} {k : Nat} {cs : CArray} {s s' : Byte}
    (hs : (line k).exchange = some s) :
    (sendBytes line (k + 1) cs s).2 = .ok s' ↔
      (∀ i < cs.length, Unreleased (line (k + 1 + i))) ∧
        (line (k + cs.length)).exchange = some s' := by
  induction cs generalizing k s with
  | nil => simp [sendBytes, hs]
  | cons c cs ih =>
      have hlen : k + (c :: cs).length = k + 1 + cs.length := by
        rw [List.length_cons]
        omega
      have hshift : (∀ i < cs.length, Unreleased (line (k + 1 + (i + 1)))) ↔
          ∀ i < cs.length, Unreleased (line (k + 1 + 1 + i)) :=
        forall₂_congr fun i _ => by rw [Nat.add_right_comm (k + 1) 1 i, Nat.add_assoc (k + 1)]
      rw [hlen, List.length_cons, Nat.forall_lt_succ_left, hshift]
      -- a byte whose `endsync` succeeds ends the loop with an error
      rcases hsync : syncByte false (line (k + 1)) c with ⟨calls, n | s₁⟩
      · have hnot : ¬ Unreleased (line (k + 1)) := by
          rintro ⟨hstart, hx, hend⟩
          obtain ⟨s₁, hs₁⟩ := Option.isSome_iff_exists.mp hx
          have hok := syncByte_eq_ok (c := c).mpr ⟨hstart, hs₁, hend⟩
          rw [hsync] at hok
          cases hok
        simp only [sendBytes, hsync, Nat.add_zero]
        exact iff_of_false (fun h => by cases h) fun h => hnot h.1.1
      · obtain ⟨hstart, hx, hend⟩ := syncByte_eq_ok.mp (congrArg Prod.snd hsync)
        have hfirst : Unreleased (line (k + 1)) :=
          ⟨hstart, Option.isSome_iff_exists.mpr ⟨s₁, hx⟩, hend⟩
        simp only [sendBytes, hsync, Nat.add_zero]
        rw [ih hx, and_iff_right hfirst]

/-! ## The packet at the front of the queue -/

/-- The loop has failing `endsync`s behind it when it reaches its end. -/
theorem endsync_mem_sendBytes {line : Nat → Handshake} {k : Nat} {cs : CArray} {s s' : Byte}
    (hne : cs ≠ []) (h : (sendBytes line k cs s).2 = .ok s') :
    .endsync false ∈ (sendBytes line k cs s).1 := by
  obtain ⟨c, cs, rfl⟩ := List.exists_cons_of_ne_nil hne
  rcases hsync : syncByte false (line k) c with ⟨calls, n | s₁⟩
  · simp only [sendBytes, hsync] at h
    cases h
  · obtain ⟨hstart, hx, hend⟩ := syncByte_eq_ok.mp (congrArg Prod.snd hsync)
    have hcalls : calls = (syncByte false (line k) c).1 := (congrArg Prod.fst hsync).symm
    simp only [sendBytes, hsync]
    simp [hcalls, syncByte, hstart, hx, hend]

/-- What the semaphore counts. -/
def Counted (d : BCU1Serial) : Prop := d.inSignal = d.inqueue.length

theorem dropSent_eq {d : BCU1Serial} (h : d.Counted) {c : CArray} {rest : List CArray}
    (hq : d.inqueue = c :: rest) :
    dropSent d = .ok { d with
      inqueue := rest, inSignal := rest.length,
      sendEmpty := if rest = [] then true else d.sendEmpty } := by
  have hsem : d.inSignal = rest.length + 1 := by rw [h, hq, List.length_cons]
  simp [dropSent, hq, hsem, Queue.get, semDec]

/-- The turn of a device that takes the packet while the `endsync`s all fail. -/
def Taken (line : Nat → Handshake) (c : CArray) : Prop :=
  Accepts line c ∧ EndsyncsReturn line c false

/-- Where the loop ends with 0, the device has taken the packet while the `endsync`s all failed. -/
theorem taken_iff {line : Nat → Handshake} {c : CArray} (hfirst : (line 0).startsync = true ∧
    (line 0).exchange = some 0xff#8 ∧ (line 0).endsync = true) :
    (sendBytes line 1 c 0xff#8).2 = .ok 0x00#8 ↔ Taken line c := by
  rw [sendBytes_eq_ok (k := 0) hfirst.2.1]
  simp only [Nat.zero_add, Nat.add_comm 1]
  constructor
  · rintro ⟨hbytes, hlast⟩
    exact ⟨⟨hfirst, fun i hi => ⟨(hbytes i hi).1, (hbytes i hi).2.1⟩, hlast⟩,
      fun i hi => (hbytes i hi).2.2⟩
  · rintro ⟨haccepts, hend⟩
    exact ⟨fun i hi => ⟨(haccepts.bytes i hi).1, (haccepts.bytes i hi).2, hend i hi⟩,
      haccepts.last⟩

/-- What a turn does to the queue: the packet at its front is removed exactly when it is `Taken`,
    with a failed `endsync` among the calls. -/
theorem turn_cases {d : BCU1Serial} (h : d.Counted) (line : Nat → Handshake) :
    ∃ d', d.turn line = .ok d' ∧ d'.Counted ∧
      ((d'.inqueue = d.inqueue ∧ ∀ c rest, d.inqueue = c :: rest → ¬ Taken line c) ∨
        ∃ c rest, d.inqueue = c :: rest ∧ d'.inqueue = rest ∧ Taken line c ∧
          .endsync false ∈ d'.calls) := by
  rw [turn]
  rcases hsync : syncByte true (line 0) d.firstByte with ⟨calls, n | s⟩
  · refine ⟨_, rfl, h, .inl ⟨rfl, fun c rest _ htaken => ?_⟩⟩
    have hok := syncByte_eq_ok (c := d.firstByte).mpr htaken.1.first
    rw [hsync] at hok
    cases hok
  · have hfirst := syncByte_eq_ok.mp (congrArg Prod.snd hsync)
    by_cases hsend : s = 0xff#8 ∧ d.firstByte ≠ 0xff#8
    · obtain ⟨rfl, hne⟩ := hsend
      obtain ⟨c, rest, hq⟩ : ∃ c rest, d.inqueue = c :: rest := by
        rw [firstByte] at hne
        split at hne
        · next c rest hq => exact ⟨c, rest, hq⟩
        · exact absurd rfl hne
      have hpayload : d.payload = c := by rw [payload, hq, List.headD_cons]
      have hkept (hnot : (sendBytes line 1 d.payload 0xff#8).2 ≠ .ok 0x00#8) :
          ∀ c rest, d.inqueue = c :: rest → ¬ Taken line c := by
        intro c' rest' hq' htaken
        obtain ⟨rfl, -⟩ := List.cons.inj (hq.symm.trans hq')
        exact hnot (by rw [hpayload, taken_iff hfirst]; exact htaken)
      simp only [ne_eq, hne, not_false_eq_true, and_self, if_true]
      rcases hloop : sendBytes line 1 d.payload 0xff#8 with ⟨calls', n | s⟩
      · exact ⟨_, rfl, h, .inl ⟨rfl, hkept (by rw [hloop]; nofun)⟩⟩
      · by_cases hs : s = 0x00#8
        · subst hs
          have htaken : Taken line c := by
            rw [← taken_iff hfirst, ← hpayload, hloop]
          have hmem : .endsync false ∈ calls' := by
            have hloop' := congrArg Prod.snd hloop
            have hcalls := endsync_mem_sendBytes (by rw [hpayload]; exact htaken.1.ne_nil) hloop'
            rwa [hloop] at hcalls
          simp only [not_true_eq_false, if_false]
          refine ⟨_, dropSent_eq (d := { d with calls := calls ++ calls', error := none }) h hq, rfl,
            .inr ⟨c, rest, hq, rfl, htaken, ?_⟩⟩
          exact List.mem_append_right _ hmem
        · simp only [hs, not_false_eq_true, if_true]
          refine ⟨_, rfl, h, .inl ⟨rfl, hkept ?_⟩⟩
          rw [hloop]
          intro heq
          exact hs (Except.ok.inj heq)
    · -- the device does not wait for a packet, or there is none
      have hkept : ∀ c rest, d.inqueue = c :: rest → ¬ Taken line c := by
        intro c rest hq htaken
        have hs : s = 0xff#8 := Option.some.inj (hfirst.2.1.symm.trans htaken.1.first.2.1)
        have hne : d.firstByte ≠ 0xff#8 := by
          rw [firstByte, hq]
          exact lengthByte_ne c
        exact hsend ⟨hs, hne⟩
      simp only [hsend, if_false]
      by_cases hs : s = 0xff#8
      · simp only [hs, ne_eq, not_true_eq_false, if_false]
        exact ⟨_, rfl, h, .inl ⟨rfl, hkept⟩⟩
      · simp only [ne_eq, hs, not_false_eq_true, if_true]
        rcases receiveBytes line 1 (s &&& 0x1f#8).toNat with ⟨calls', n | r⟩
        · exact ⟨_, rfl, h, .inl ⟨rfl, hkept⟩⟩
        · exact ⟨_, rfl, h, .inl ⟨rfl, hkept⟩⟩

/-! ## Whole runs -/

/-- What a transfer is for: a packet that the device takes without a failure goes over the line and
    leaves the queue, and a packet leaves the queue in no other way. -/
def Transfers (d : BCU1Serial) (line : Nat → Handshake) : Prop :=
  ∃ d', d.turn line = .ok d' ∧
    (∀ c rest, d.inqueue = c :: rest → c.length ≤ 31 → Accepts line c →
      EndsyncsReturn line c true → Complete c d'.calls ∧ d'.inqueue = rest) ∧
    (d'.inqueue ≠ d.inqueue →
      ∃ c rest, d.inqueue = c :: rest ∧ d'.inqueue = rest ∧ Complete c d'.calls) ∧
    ((∃ x ∈ d'.calls, x.Failed) → d'.inqueue = d.inqueue)

/-- Of a device that takes the packet at the front of the queue, some `endsync` fails and some does
    not, or, for a packet too long for the length byte, at least one does not. -/
def EndsyncsMixed (d : BCU1Serial) (line : Nat → Handshake) : Prop :=
  ∀ c rest, d.inqueue = c :: rest → Accepts line c →
    ¬ EndsyncsReturn line c false ∧ (c.length ≤ 31 → ¬ EndsyncsReturn line c true)

theorem transfers_iff {d : BCU1Serial} (h : d.Counted) (line : Nat → Handshake) :
    d.Transfers line ↔ d.EndsyncsMixed line := by
  obtain ⟨d', hturn, -, hcases⟩ := turn_cases h line
  have hremoved : ∀ c rest, d.inqueue = c :: rest → d'.inqueue = rest → Taken line c := by
    intro c rest hq hrest
    rcases hcases with ⟨hkept, -⟩ | ⟨c', rest', hq', -, htaken, -⟩
    · have hlen := congrArg List.length ((hkept.symm.trans hrest).symm.trans hq)
      simp at hlen
    · obtain ⟨rfl, -⟩ := List.cons.inj (hq.symm.trans hq')
      exact htaken
  constructor
  · rintro ⟨d'', hturn', hforward, hback, -⟩ c rest hq haccepts
    obtain rfl : d' = d'' := Except.ok.inj (hturn.symm.trans hturn')
    constructor
    · intro hend
      -- the packet is removed, behind an `endsync` that failed
      rcases hcases with ⟨-, hnot⟩ | ⟨c', rest', hq', hrest, -, hmem⟩
      · exact hnot c rest hq ⟨haccepts, hend⟩
      · have hne : d'.inqueue ≠ d.inqueue := by
          rw [hrest, hq']
          exact fun heq => List.cons_ne_self c' rest' heq.symm
        obtain ⟨c'', -, -, -, hcomplete⟩ := hback hne
        exact hcomplete.not_failed _ hmem rfl
    · intro hlen hend
      -- the packet is not removed
      obtain ⟨-, hrest⟩ := hforward c rest hq hlen haccepts hend
      have hpos : 0 < c.length := List.length_pos_iff.mpr haccepts.ne_nil
      have hfail := (hremoved c rest hq hrest).2 0 hpos
      rw [hend 0 hpos] at hfail
      cases hfail
  · intro hmixed
    have hkept : d'.inqueue = d.inqueue := by
      rcases hcases with ⟨hkept, -⟩ | ⟨c, rest, hq, -, htaken, -⟩
      · exact hkept
      · exact absurd htaken.2 (hmixed c rest hq htaken.1).1
    refine ⟨d', hturn, ?_, fun hne => absurd hkept hne, fun _ => hkept⟩
    intro c rest hq hlen haccepts hend
    exact absurd hend ((hmixed c rest hq haccepts).2 hlen)

/-- A condition on the turns of a run. -/
def Event.AtTurn (P : BCU1Serial → (Nat → Handshake) → Prop) (d : BCU1Serial) : Event → Prop
  | .turn line => P d line
  | _ => True

theorem Counted.step {d d' : BCU1Serial} {e : Event} (h : d.Counted) (hstep : step d e = .ok d') :
    d'.Counted := by
  cases e with
  | sendPacket l =>
      cases hstep
      rw [Counted, h, List.length_append, List.length_singleton]
  | getPacket =>
      obtain ⟨outSignal, -, hget⟩ := Checked.bind_eq_ok.mp hstep
      obtain ⟨top, -, hend⟩ := Checked.bind_eq_ok.mp hget
      cases hend
      exact h
  | turn line =>
      obtain ⟨d'', hturn, hcounted, -⟩ := turn_cases h line
      obtain rfl : d'' = d' := Except.ok.inj (hturn.symm.trans hstep)
      exact hcounted

/-- In a run from the start every turn transfers as it should exactly as long as, of every device
    that takes a packet, the `endsync`s neither all fail nor all succeed. -/
theorem transfers_iff_endsyncs_mixed (es : List Event) :
    StepsMeet step (Event.AtTurn Transfers) {} es ↔
      StepsMeet step (Event.AtTurn EndsyncsMixed) {} es := by
  have hinit : Counted {} := rfl
  refine StepsMeet.congr (fun d e d' => Counted.step) (fun d e h => ?_) hinit
  cases e with
  | turn line => exact transfers_iff h line
  | sendPacket l => exact Iff.rfl
  | getPacket => exact Iff.rfl

/-- A device that takes a packet of one byte, all calls succeeding. -/
def takingLine (k : Nat) : Handshake :=
  { startsync := true, exchange := some (if k = 0 then 0xff#8 else 0x00#8), endsync := true }

/-- The packet is not removed: the turn ends with error 2. -/
theorem taken_packet_stays :
    ¬ StepsMeet step (Event.AtTurn Transfers) {} [.sendPacket [0x11#8], .turn takingLine] := by
  intro h
  obtain ⟨d', hturn, hforward, -⟩ := (h.2 _ rfl).1
  have hkept : ∃ d', turn { inqueue := [[0x11#8]], inSignal := 1, sendEmpty := false } takingLine =
      .ok d' ∧ d'.error = some 2 ∧ d'.inqueue = [[0x11#8]] := by
    decide
  obtain ⟨d'', hturn', -, hstays⟩ := hkept
  obtain rfl : d' = d'' := Except.ok.inj (hturn.symm.trans hturn')
  have haccepts : Accepts takingLine [0x11#8] := ⟨by decide, by decide, by decide⟩
  obtain ⟨-, hrest⟩ := hforward [0x11#8] [] rfl (by decide) haccepts (by
    intro i hi
    rfl)
  rw [hstays] at hrest
  cases hrest

end BCU1Serial

end BcuSdk.Eibd
