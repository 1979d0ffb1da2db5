/-
  BcuSdk.Eibd.Layer4Pair

  Two `T_Connection`s that talk to each other over FIFO channels which may lose
  a telegram or deliver it twice.

  `ConnPair.Inv` is the joint invariant.  It counts payloads without bound: a
  telegram carries, as stamps the connections do not see, how many payloads its
  sender had got acknowledged and how many it had delivered when it sent it.
  The channels keep the stamps in order and the two connections stay within one
  payload of each other, so 4-bit numbers are enough to tell a new payload from
  a repeated one.  `ConnPair.transfer` is the result for whole runs.
-/
import BcuSdk.Eibd.Layer4Turn
import BcuSdk.Lib.Run
import BcuSdk.Lib.Fifo
import Mathlib.Logic.Function.Basic

namespace BcuSdk.Eibd

open BcuSdk.Lib

/-! ## The system -/

/-- The two ends of a connection. -/
inductive Side where
  | left
  | right
  deriving DecidableEq, Repr

def Side.other : Side → Side
  | .left => .right
  | .right => .left

@[simp] theorem Side.other_other (s : Side) : s.other.other = s := by cases s <;> rfl

@[simp] theorem Side.other_ne (s : Side) : s.other ≠ s := by cases s <;> decide

@[simp] theorem Side.ne_other (s : Side) : s ≠ s.other := by cases s <;> decide

theorem Side.eq_or_eq_other (s x : Side) : x = s ∨ x = s.other := by
  cases s <;> cases x <;> decide

/-- A telegram under way, with the stamps of its sender. -/
structure Telegram where
  bytes : CArray
  ackedByThen : Nat
  deliveredByThen : Nat
  deriving DecidableEq, Repr

/-- Two connections, the channel towards each of them (its `buf` included), and what has
    happened so far: the payloads given to `Send`, put into `out`, and taken from `in` on a
    `T_ACK` at each side. -/
structure ConnPair where
  party : Side → TConnection
  chan : Side → List Telegram
  given : Side → List CArray
  delivered : Side → List CArray
  acked : Side → List CArray

namespace ConnPair

def setParty (p : ConnPair) (s : Side) (t : TConnection) : ConnPair :=
  { p with party := Function.update p.party s t }

def setChan (p : ConnPair) (s : Side) (c : List Telegram) : ConnPair :=
  { p with chan := Function.update p.chan s c }

section Fields

variable (p : ConnPair) (s : Side) (t : TConnection) (c : List Telegram)

@[simp] theorem setParty_chan : (p.setParty s t).chan = p.chan := rfl
@[simp] theorem setParty_given : (p.setParty s t).given = p.given := rfl
@[simp] theorem setParty_delivered : (p.setParty s t).delivered = p.delivered := rfl
@[simp] theorem setParty_acked : (p.setParty s t).acked = p.acked := rfl
@[simp] theorem setParty_self : (p.setParty s t).party s = t := Function.update_self ..
@[simp] theorem setParty_other : (p.setParty s t).party s.other = p.party s.other :=
  Function.update_of_ne (Side.other_ne s) ..

@[simp] theorem setChan_party : (p.setChan s c).party = p.party := rfl
@[simp] theorem setChan_given : (p.setChan s c).given = p.given := rfl
@[simp] theorem setChan_delivered : (p.setChan s c).delivered = p.delivered := rfl
@[simp] theorem setChan_acked : (p.setChan s c).acked = p.acked := rfl
@[simp] theorem setChan_self : (p.setChan s c).chan s = c := Function.update_self ..
@[simp] theorem setChan_other : (p.setChan s c).chan s.other = p.chan s.other :=
  Function.update_of_ne (Side.other_ne s) ..
@[simp] theorem setChan_of_other : (p.setChan s.other c).chan s = p.chan s :=
  Function.update_of_ne (Side.ne_other s) ..

end Fields

/-- A telegram side `s` sends now. -/
def telegram (p : ConnPair) (s : Side) (bytes : CArray) : Telegram where
  bytes := bytes
  ackedByThen := (p.acked s).length
  deliveredByThen := (p.delivered s).length

/-- The telegram enters the channel. -/
def emit (p : ConnPair) (s : Side) (bytes : CArray) : ConnPair :=
  p.setChan s.other (p.chan s.other ++ [p.telegram s bytes])

/-- One action of the connection at side `s`. -/
def perform (s : Side) (p : ConnPair) : TAction → ConnPair
  | .sendLData l => p.emit s l.data
  | .out c => { p with delivered := Function.update p.delivered s (p.delivered s ++ [c]) }
  | .acked c => { p with acked := Function.update p.acked s (p.acked s ++ [c]) }
  | .ended => p

/-- A turn of `Run` at side `s`. -/
def turn (p : ConnPair) (s : Side) (e : TEvent) : Checked ConnPair := do
  let (t, actions) ← (p.party s).iterate e
  return actions.foldl (perform s) (p.setParty s t)

/-- What can happen next. -/
inductive Event where
  /-- The user of side `s` calls `Send`. -/
  | send (s : Side) (c : CArray)
  /-- The oldest telegram towards `s` arrives. -/
  | deliver (s : Side)
  | input (s : Side)
  | timeout (s : Side)
  | stop (s : Side)
  /-- Telegram `i` towards `s` is lost. -/
  | lose (s : Side) (i : Nat)
  /-- Telegram `i` towards `s` is repeated, next to the original. -/
  | duplicate (s : Side) (i : Nat)
  deriving DecidableEq, Repr

def step (p : ConnPair) : Event → Checked ConnPair
  | .send s c =>
      .ok { p.setParty s ((p.party s).send c) with
        given := Function.update p.given s (p.given s ++ [c]) }
  | .deliver s =>
      match p.chan s with
      | [] => .ok p
      | t :: rest => (p.setChan s rest).turn s (.buf t.bytes)
  | .input s => p.turn s .input
  | .timeout s => p.turn s .timeout
  | .stop s => p.turn s .stop
  | .lose s i => .ok (p.setChan s (BcuSdk.Lib.lose i (p.chan s)))
  | .duplicate s i => .ok (p.setChan s (BcuSdk.Lib.duplicate i (p.chan s)))

/-- The connection is established and nothing has been sent on it. -/
def established (dest : Side → EibAddr) : ConnPair where
  party s := { mode := .idle, dest := dest s }
  chan _ := []
  given _ := []
  delivered _ := []
  acked _ := []

/-! ## Four-bit numbers -/

/-- The serial number of payload `n`. -/
def number (n : Nat) : Byte := BitVec.ofNat 8 (n % 16)

theorem number_lt (n : Nat) : number n < 16#8 := by
  unfold number
  have : n % 16 < 16 := Nat.mod_lt _ (by decide)
  generalize n % 16 = m at this
  interval_cases m <;> decide

theorem number_succ (n : Nat) : (number n + 1#8) &&& 0x0f#8 = number (n + 1) := by
  unfold number
  rw [Nat.add_mod]
  have : n % 16 < 16 := Nat.mod_lt _ (by decide)
  generalize n % 16 = m at this
  interval_cases m <;> decide

theorem number_pred (n : Nat) : (number (n + 1) - 1#8) &&& 0x0f#8 = number n := by
  unfold number
  rw [Nat.add_mod]
  have : n % 16 < 16 := Nat.mod_lt _ (by decide)
  generalize n % 16 = m at this
  interval_cases m <;> decide

theorem number_inj {m n : Nat} (h : number m = number n) : m % 16 = n % 16 := by
  have := congrArg BitVec.toNat h
  unfold number at this
  rwa [toNat_ofNat_byte (by omega), toNat_ofNat_byte (by omega)] at this

/-! ## The joint invariant -/

/-- What the stamps of a telegram say about its bytes; `given` is what its sender was given. -/
def Content (given : List CArray) (t : Telegram) : Prop :=
  match TPDU.fromPacket t.bytes with
  | .tDataConnectedReq n d =>
      n = number t.ackedByThen ∧ (given[t.ackedByThen]?).map maskHead = some (maskHead d)
  | .tAck n => 1 ≤ t.deliveredByThen ∧ n = number (t.deliveredByThen - 1)
  | .tNack _ => False
  | _ => True

/-- A telegram that is still under way.  Its sender has got `k` payloads acknowledged and
    delivered `d` by now, its receiver `k'` and `d'`. -/
structure UnderWay (given : List CArray) (k d k' d' : Nat) (t : Telegram) : Prop where
  content : Content given t
  acked_le : t.ackedByThen ≤ k
  delivered_le : t.deliveredByThen ≤ d
  /-- The receiver has delivered at most the payload that was current when `t` was sent. -/
  not_before : d' ≤ t.ackedByThen + 1
  /-- The receiver has got nothing acknowledged that was not delivered when `t` was sent. -/
  ack_not_before : k' ≤ t.deliveredByThen

/-- The order the channels keep. -/
def Earlier (t u : Telegram) : Prop :=
  t.ackedByThen ≤ u.ackedByThen ∧ t.deliveredByThen ≤ u.deliveredByThen

/-- The transfer of the payloads given to `Send` at side `s`. -/
structure Transfer (p : ConnPair) (s : Side) : Prop where
  queue : p.given s = p.acked s ++ (p.party s).inq
  prefix_given : p.delivered s.other <+: (p.given s).map maskHead
  behind : (p.acked s).length ≤ (p.delivered s.other).length
  ahead : (p.delivered s.other).length ≤ (p.acked s).length + 1
  sendno : (p.party s).sendno = number (p.acked s).length
  recvno : (p.party s.other).recvno = number (p.delivered s.other).length
  ready : (p.party s).Ready
  ordered : (p.chan s.other).Pairwise Earlier
  underWay : ∀ t ∈ p.chan s.other,
    UnderWay (p.given s) (p.acked s).length (p.delivered s).length (p.acked s.other).length
      (p.delivered s.other).length t

/-- The joint invariant. -/
def Inv (p : ConnPair) : Prop := ∀ s, p.Transfer s

/-- The invariant, for the two directions as seen from side `s`. -/
theorem inv_iff {p : ConnPair} (s : Side) : p.Inv ↔ p.Transfer s ∧ p.Transfer s.other := by
  constructor
  · exact fun h => ⟨h s, h s.other⟩
  · rintro ⟨hs, ho⟩ x
    rcases Side.eq_or_eq_other s x with rfl | rfl
    · exact hs
    · exact ho

theorem inv_established (dest : Side → EibAddr) : (established dest).Inv := by
  intro s
  exact
    { queue := rfl
      prefix_given := List.prefix_rfl
      behind := Nat.le_refl _
      ahead := Nat.zero_le _
      sendno := by simp only [established]; decide
      recvno := by simp only [established]; decide
      ready := ⟨by simp [established], by simp [established], by simp [established],
        by simp [established], by simp [established]⟩
      ordered := List.Pairwise.nil
      underWay := by simp [established] }

/-! ## Steps of the channels and of the users -/

/-- Losing, repeating or taking telegrams. -/
theorem Inv.setChan {p : ConnPair} (h : p.Inv) (s : Side) {c : List Telegram}
    (hmem : ∀ t ∈ c, t ∈ p.chan s) (hord : c.Pairwise Earlier) : (p.setChan s c).Inv := by
  rw [inv_iff s]
  constructor
  · -- the channel away from `s` is untouched
    have hs := h s
    refine ⟨hs.queue, hs.prefix_given, hs.behind, hs.ahead, hs.sendno, hs.recvno, hs.ready, ?_, ?_⟩
    · simpa using hs.ordered
    · simpa using hs.underWay
  · have ho := h s.other
    refine ⟨ho.queue, ho.prefix_given, ho.behind, ho.ahead, ho.sendno, ho.recvno, ho.ready, ?_, ?_⟩
    · simpa using hord
    · intro t ht
      have ht' : t ∈ p.chan s.other.other := by
        rw [Side.other_other]
        exact hmem t (by simpa using ht)
      exact ho.underWay t ht'

/-- Sending a telegram whose bytes fit the current counts. -/
theorem Inv.emit {p : ConnPair} (h : p.Inv) (s : Side) {bytes : CArray}
    (hcontent : Content (p.given s) (p.telegram s bytes)) :
    (p.emit s bytes).Inv := by
  have hs := h s
  have ho := h s.other
  rw [inv_iff s]
  constructor
  · refine ⟨hs.queue, hs.prefix_given, hs.behind, hs.ahead, hs.sendno, hs.recvno, hs.ready, ?_, ?_⟩
    · -- stamps never exceed the counts, so the new telegram is the youngest
      have hord : (p.chan s.other ++ [p.telegram s bytes]).Pairwise Earlier :=
        pairwise_snoc hs.ordered fun t ht =>
          ⟨(hs.underWay t ht).acked_le, (hs.underWay t ht).delivered_le⟩
      simpa [ConnPair.emit] using hord
    · have hnew : UnderWay (p.given s) (p.acked s).length (p.delivered s).length
          (p.acked s.other).length (p.delivered s.other).length (p.telegram s bytes) :=
        ⟨hcontent, Nat.le_refl _, Nat.le_refl _, hs.ahead,
          by simpa [telegram] using ho.behind⟩
      intro t ht
      have ht' : t ∈ p.chan s.other ++ [p.telegram s bytes] := by
        simpa [ConnPair.emit] using ht
      rcases List.mem_append.mp ht' with hold | hlast
      · exact hs.underWay t hold
      · cases List.mem_singleton.mp hlast
        exact hnew
  · refine ⟨ho.queue, ho.prefix_given, ho.behind, ho.ahead, ho.sendno, ho.recvno, ho.ready, ?_, ?_⟩
    · simpa [ConnPair.emit] using ho.ordered
    · simpa [ConnPair.emit] using ho.underWay

/-- A change of the connection that touches neither its queue nor its numbers. -/
theorem Inv.setParty {p : ConnPair} (h : p.Inv) (s : Side) {t : TConnection} (hready : t.Ready)
    (hinq : t.inq = (p.party s).inq) (hsend : t.sendno = (p.party s).sendno)
    (hrecv : t.recvno = (p.party s).recvno) : (p.setParty s t).Inv := by
  have hs := h s
  have ho := h s.other
  rw [inv_iff s]
  constructor
  · refine ⟨?_, hs.prefix_given, hs.behind, hs.ahead, ?_, ?_, ?_, hs.ordered, hs.underWay⟩
    · simpa [hinq] using hs.queue
    · simpa [hsend] using hs.sendno
    · simpa using hs.recvno
    · simpa using hready
  · refine ⟨?_, ho.prefix_given, ho.behind, ho.ahead, ?_, ?_, ?_, ho.ordered, ho.underWay⟩
    · simpa using ho.queue
    · simpa using ho.sendno
    · simpa [hrecv] using ho.recvno
    · simpa using ho.ready

theorem Content.append {given : List CArray} {t : Telegram} (h : Content given t) (c : CArray) :
    Content (given ++ [c]) t := by
  unfold Content at h ⊢
  split at h <;> try exact h
  · next n d htpdu =>
    obtain ⟨hn, hd⟩ := h
    have hlt : t.ackedByThen < given.length := by
      by_contra hge
      simp [List.getElem?_eq_none (Nat.le_of_not_lt hge)] at hd
    exact ⟨hn, by rw [List.getElem?_append_left hlt]; exact hd⟩

/-- `Send` of a payload that is not empty. -/
theorem Inv.send {p : ConnPair} (h : p.Inv) (s : Side) {c : CArray} (hc : c ≠ []) :
    ConnPair.Inv { p.setParty s ((p.party s).send c) with
      given := Function.update p.given s (p.given s ++ [c]) } := by
  have hs := h s
  have ho := h s.other
  rw [inv_iff s]
  constructor
  · refine ⟨?_, ?_, hs.behind, hs.ahead, ?_, ?_, ?_, hs.ordered, ?_⟩
    · simp [TConnection.send, hs.queue]
    · simpa using hs.prefix_given.trans (List.prefix_append _ _)
    · simpa [TConnection.send] using hs.sendno
    · simpa using hs.recvno
    · have hready := hs.ready
      refine ⟨?_, ?_, ?_, ?_, ?_⟩ <;>
        simp only [setParty_self, TConnection.send, List.length_append, List.length_cons,
          List.length_nil]
      · exact hready.sendno
      · exact hready.recvno
      · intro x hx
        rcases List.mem_append.mp hx with hx | hx
        · exact hready.nonempty x hx
        · rwa [List.mem_singleton.mp hx]
      · intro hm
        have := hready.idle hm
        omega
      · intro hm
        have := hready.waiting hm
        omega
    · -- a telegram under way is about an earlier place of `given`
      intro t ht
      have hu := hs.underWay t ht
      refine ⟨?_, hu.acked_le, hu.delivered_le, hu.not_before, hu.ack_not_before⟩
      simpa using hu.content.append c
  · refine ⟨?_, ?_, ho.behind, ho.ahead, ?_, ?_, ?_, ho.ordered, ?_⟩
    · simpa using ho.queue
    · simpa using ho.prefix_given
    · simpa using ho.sendno
    · simpa [TConnection.send] using ho.recvno
    · simpa using ho.ready
    · simpa using ho.underWay

/-! ## Arrival of a telegram -/

/-- A prefix followed by the next element is a prefix. -/
theorem prefix_snoc {α : Type} {l m : List α} {a : α} (h : l <+: m) (ha : m[l.length]? = some a) :
    l ++ [a] <+: m := by
  obtain ⟨r, rfl⟩ := h
  cases r with
  | nil => simp at ha
  | cons b r =>
      have hb : b = a := by simpa using ha
      exact ⟨r, by simp [hb]⟩

section Arrival

variable {p : ConnPair} (h : p.Inv) {s : Side} {t : Telegram} {rest : List Telegram}
  (hchan : p.chan s = t :: rest)
include h hchan

/-- What is known of the oldest telegram towards `s`. -/
theorem Inv.oldest :
    UnderWay (p.given s.other) (p.acked s.other).length (p.delivered s.other).length
      (p.acked s).length (p.delivered s).length t ∧ ∀ u ∈ rest, Earlier t u := by
  have ho := h s.other
  have hord := ho.ordered
  have hunder := ho.underWay
  simp only [Side.other_other, hchan] at hord hunder
  exact ⟨hunder t (List.mem_cons_self ..), (List.pairwise_cons.mp hord).1⟩

theorem Inv.pop : (p.setChan s rest).Inv := by
  have hord := (h s.other).ordered
  simp only [Side.other_other, hchan] at hord
  refine h.setChan s (fun u hu => ?_) (List.pairwise_cons.mp hord).2
  rw [hchan]
  exact List.mem_cons_of_mem _ hu

/-- A data telegram with the expected number carries the next payload to deliver. -/
theorem Inv.current_of_recvno {d : CArray}
    (htpdu : TPDU.fromPacket t.bytes = .tDataConnectedReq (p.party s).recvno d) :
    t.ackedByThen = (p.delivered s).length ∧
      ((p.given s.other)[(p.delivered s).length]?).map maskHead = some (maskHead d) := by
  obtain ⟨hu, -⟩ := h.oldest hchan
  have ho := h s.other
  have hrecv := ho.recvno
  have hbehind := ho.behind
  have hcontent := hu.content
  simp only [Side.other_other] at hrecv hbehind
  rw [Content, htpdu] at hcontent
  obtain ⟨hnum, hd⟩ := hcontent
  -- the stamp is the count or one less, and these have different numbers
  have hmod := number_inj (hrecv.symm.trans hnum)
  have h1 := hu.not_before
  have h2 := hu.acked_le
  have hcur : t.ackedByThen = (p.delivered s).length := by omega
  exact ⟨hcur, hcur ▸ hd⟩

/-- A data telegram with the number before that has been delivered already. -/
theorem Inv.previous_of_recvno {n : Byte} {d : CArray}
    (htpdu : TPDU.fromPacket t.bytes = .tDataConnectedReq n d)
    (hn : n = ((p.party s).recvno - 1#8) &&& 0x0f#8) :
    1 ≤ (p.delivered s).length ∧ n = number ((p.delivered s).length - 1) := by
  obtain ⟨hu, -⟩ := h.oldest hchan
  have ho := h s.other
  have hrecv := ho.recvno
  have hbehind := ho.behind
  have hcontent := hu.content
  simp only [Side.other_other] at hrecv hbehind
  rw [Content, htpdu] at hcontent
  have hnum := hcontent.1
  have h2 := hu.acked_le
  rw [hrecv] at hn
  cases hd : (p.delivered s).length with
  | zero =>
      -- nothing delivered yet: only number 0 can be under way, and 15 is expected
      rw [hd] at hn hbehind
      have h0 : t.ackedByThen = 0 := by omega
      rw [hn, h0] at hnum
      exact absurd hnum (by decide)
  | succ m =>
      rw [hd, number_pred] at hn
      exact ⟨by omega, hn⟩

/-- An acknowledgement with the current number is for the payload in front of the queue. -/
theorem Inv.current_of_sendno (htpdu : TPDU.fromPacket t.bytes = .tAck (p.party s).sendno) :
    t.deliveredByThen = (p.acked s).length + 1 ∧
      (p.delivered s.other).length = (p.acked s).length + 1 := by
  obtain ⟨hu, -⟩ := h.oldest hchan
  have hs := h s
  have hcontent := hu.content
  rw [Content, htpdu] at hcontent
  obtain ⟨hpos, hnum⟩ := hcontent
  -- the stamp lies between the two counts, which are at most one apart
  have hmod := number_inj (hs.sendno.symm.trans hnum)
  have h1 := hu.ack_not_before
  have h2 := hu.delivered_le
  have h3 := hs.ahead
  constructor <;> omega

/-- The data rule: the payload is delivered and the expected number advances. -/
theorem Inv.deliver {d : CArray}
    (htpdu : TPDU.fromPacket t.bytes = .tDataConnectedReq (p.party s).recvno d) :
    ConnPair.Inv { (p.setChan s rest).setParty s
        { p.party s with recvno := ((p.party s).recvno + 1#8) &&& 0x0f#8 } with
      delivered := Function.update p.delivered s (p.delivered s ++ [maskHead d]) } := by
  obtain ⟨hcur, hgiven⟩ := h.current_of_recvno hchan htpdu
  obtain ⟨hu, hlater⟩ := h.oldest hchan
  have hpop := h.pop hchan
  have hs := hpop s
  have ho := hpop s.other
  have hacked := hu.acked_le
  have hbehind := ho.behind
  simp only [Side.other_other] at hbehind
  rw [inv_iff s]
  constructor
  -- what `s` sends: its telegrams acknowledge one payload more from now on
  · refine ⟨?_, ?_, ?_, ?_, ?_, ?_, ?_, hs.ordered, ?_⟩
    · simpa using hs.queue
    · simpa using hs.prefix_given
    · simpa using hs.behind
    · simpa using hs.ahead
    · simpa using hs.sendno
    · simpa using hs.recvno
    · have hready := hs.ready
      simp only [setParty_self]
      exact ⟨hready.sendno, TConnection.next_lt_16 _, hready.nonempty, hready.idle, hready.waiting⟩
    · intro u hmem
      have hold := hs.underWay u hmem
      refine ⟨hold.content, hold.acked_le, ?_, ?_, hold.ack_not_before⟩
      · have := hold.delivered_le
        simp only [Function.update_self, List.length_append]
        exact Nat.le_add_right_of_le this
      · simpa using hold.not_before
  -- what `s` receives: the telegrams behind `t` were sent after it
  · refine ⟨?_, ?_, ?_, ?_, ?_, ?_, ?_, ho.ordered, ?_⟩
    · simpa using ho.queue
    · have hpre := ho.prefix_given
      simp only [Side.other_other, Function.update_self] at hpre ⊢
      exact prefix_snoc hpre (by simpa using hgiven)
    · simp only [Side.other_other, Function.update_self, List.length_append, List.length_singleton]
      exact Nat.le_succ_of_le hbehind
    · simp only [Side.other_other, Function.update_self, List.length_append, List.length_singleton]
      exact Nat.succ_le_succ (by rw [← hcur]; exact hacked)
    · simpa using ho.sendno
    · have hrecv := ho.recvno
      simp only [Side.other_other, setParty_self, setChan_party, setChan_delivered,
        Function.update_self, List.length_append, List.length_singleton] at hrecv ⊢
      rw [hrecv, number_succ]
    · simpa using ho.ready
    · intro u hmem
      have hold := ho.underWay u hmem
      have hu' : u ∈ rest := by simpa using hmem
      refine ⟨hold.content, hold.acked_le, ?_, ?_, hold.ack_not_before⟩
      · simpa using hold.delivered_le
      · have := (hlater u hu').1
        simp only [Side.other_other, Function.update_self, List.length_append,
          List.length_singleton]
        omega

/-- The acknowledgement rule: the payload in front leaves the queue. -/
theorem Inv.dequeue {c : CArray} {queue : List CArray} (hmode : (p.party s).mode = .ackWait)
    (htpdu : TPDU.fromPacket t.bytes = .tAck (p.party s).sendno)
    (hq : (p.party s).inq = c :: queue) :
    ConnPair.Inv { (p.setChan s rest).setParty s
        { p.party s with
          mode := .idle, inq := queue, sendno := ((p.party s).sendno + 1#8) &&& 0x0f#8 } with
      acked := Function.update p.acked s (p.acked s ++ [c]) } := by
  obtain ⟨hcur, hdelivered⟩ := h.current_of_sendno hchan htpdu
  obtain ⟨-, hlater⟩ := h.oldest hchan
  have hpop := h.pop hchan
  have hs := hpop s
  have ho := hpop s.other
  rw [inv_iff s]
  constructor
  -- what `s` sends: the payload in front was the one delivered last
  · refine ⟨?_, hs.prefix_given, ?_, ?_, ?_, ?_, ?_, hs.ordered, ?_⟩
    · have hqueue : p.given s = p.acked s ++ (p.party s).inq := hs.queue
      simpa [hq] using hqueue
    · simp only [Function.update_self, List.length_append, List.length_singleton]
      exact Nat.le_of_eq hdelivered.symm
    · simp only [Function.update_self, List.length_append, List.length_singleton]
      exact Nat.le_succ_of_le hs.ahead
    · have hsend : (p.party s).sendno = number (p.acked s).length := hs.sendno
      simp only [setParty_self, Function.update_self, List.length_append, List.length_singleton]
      rw [hsend, number_succ]
    · simpa using hs.recvno
    · have hready := (TConnection.Outcome.dequeues rfl htpdu hmode hq).ready hs.ready
      simpa only [setParty_self] using hready
    · intro u hmem
      have hold := hs.underWay u hmem
      refine ⟨hold.content, ?_, hold.delivered_le, hold.not_before, ?_⟩
      · have := hold.acked_le
        simp only [Function.update_self, List.length_append]
        exact Nat.le_add_right_of_le this
      · simpa using hold.ack_not_before
  -- what `s` receives: the acknowledgements behind `t` were sent after it
  · refine ⟨?_, ho.prefix_given, ?_, ?_, ?_, ?_, ?_, ho.ordered, ?_⟩
    · simpa using ho.queue
    · simpa using ho.behind
    · simpa using ho.ahead
    · simpa using ho.sendno
    · simpa using ho.recvno
    · simpa using ho.ready
    · intro u hmem
      have hold := ho.underWay u hmem
      have hu' : u ∈ rest := by simpa using hmem
      refine ⟨hold.content, ?_, hold.delivered_le, hold.not_before, ?_⟩
      · simpa using hold.acked_le
      · have := (hlater u hu').2
        simp only [Side.other_other, Function.update_self, List.length_append,
          List.length_singleton]
        omega

end Arrival

/-! ## A turn of one connection -/

theorem turn_eq {p : ConnPair} {s : Side} {e : TEvent} {t : TConnection} {as : List TAction}
    (h : (p.party s).iterate e = .ok (t, as)) :
    p.turn s e = .ok (as.foldl (perform s) (p.setParty s t)) := by
  simp [turn, h]

/-- Leaving the loop of `Run`. -/
theorem Inv.closes {p : ConnPair} (h : p.Inv) (s : Side) :
    ((p.setParty s { p.party s with mode := .closed }).emit s [0x81#8]).Inv := by
  have hready := (h s).ready
  have hclosed := h.setParty s (t := { p.party s with mode := .closed })
    ⟨hready.sendno, hready.recvno, hready.nonempty, nofun, nofun⟩ rfl rfl rfl
  refine hclosed.emit s ?_
  -- a `T_DISCONNECT_REQ` has no number and no payload
  have hdisc : TPDU.fromPacket [0x81#8] = .tDisconnectReq := by decide
  simp [Content, telegram, hdisc]

/-- Sending or repeating the payload in front of the queue. -/
theorem Inv.sends {p : ConnPair} (h : p.Inv) (s : Side) {t : TConnection} {c : CArray}
    {queue : List CArray} (hq : (p.party s).inq = c :: queue) (hready : t.Ready)
    (hinq : t.inq = (p.party s).inq) (hsend : t.sendno = (p.party s).sendno)
    (hrecv : t.recvno = (p.party s).recvno) :
    ((p.setParty s t).emit s (connectedBytes (p.party s).sendno c)).Inv := by
  have hs := h s
  refine (h.setParty s hready hinq hsend hrecv).emit s ?_
  have hc : c ≠ [] := hs.ready.nonempty c (by rw [hq]; exact List.mem_cons_self ..)
  have hgiven : (p.given s)[(p.acked s).length]? = some c := by simp [hs.queue, hq]
  simp only [Content, telegram, TPDU.fromPacket_connectedBytes hs.ready.sendno hc]
  exact ⟨hs.sendno, by simp [hgiven]⟩

/-- A turn that takes nothing from the channel. -/
theorem Inv.turn {p : ConnPair} (h : p.Inv) (s : Side) {e : TEvent} (he : ∀ data, e ≠ .buf data) :
    ∃ p', p.turn s e = .ok p' ∧ p'.Inv := by
  obtain ⟨t, as, hturn, hout⟩ := TConnection.iterate_outcome (h s).ready e
  refine ⟨_, turn_eq hturn, ?_⟩
  have hready := hout.ready (h s).ready
  cases hout with
  | nothing => exact h.setParty s hready rfl rfl rfl
  | closes => exact h.closes s
  | delivers event _ => exact absurd event (he _)
  | repeatsAck event _ _ => exact absurd event (he _)
  | dequeues event _ _ _ => exact absurd event (he _)
  | sends queue sem => exact h.sends s queue hready rfl rfl rfl

/-- A turn that takes the oldest telegram. -/
theorem Inv.arrive {p : ConnPair} (h : p.Inv) {s : Side} {t : Telegram} {rest : List Telegram}
    (hchan : p.chan s = t :: rest) :
    ∃ p', (p.setChan s rest).turn s (.buf t.bytes) = .ok p' ∧ p'.Inv := by
  have hpop := h.pop hchan
  have hready := (h s).ready
  obtain ⟨x, as, hturn, hout⟩ := TConnection.iterate_outcome hready (.buf t.bytes)
  refine ⟨_, turn_eq hturn, ?_⟩
  have hready' := hout.ready hready
  cases hout with
  | nothing => exact hpop.setParty s hready' rfl rfl rfl
  | closes => exact hpop.closes s
  | sends queue sem => exact hpop.sends s queue hready' rfl rfl rfl
  | dequeues event tpdu mode queue =>
      cases event
      exact h.dequeue hchan mode tpdu queue
  | repeatsAck event tpdu hnumber =>
      -- nothing is counted, and the stamps are the current ones
      cases event
      obtain ⟨hpos, hn⟩ := h.previous_of_recvno hchan tpdu hnumber
      refine (hpop.setParty s hready' rfl rfl rfl).emit s ?_
      simp only [Content, telegram, TPDU.fromPacket_ackBytes (hn ▸ number_lt _)]
      exact ⟨hpos, hn⟩
  | delivers event tpdu =>
      cases event
      refine (h.deliver hchan tpdu).emit s ?_
      have hrecv := (h s.other).recvno
      simp only [Side.other_other] at hrecv
      simp only [Content, telegram, TPDU.fromPacket_ackBytes hready.recvno, Function.update_self,
        List.length_append, List.length_singleton]
      exact ⟨Nat.le_add_left .., hrecv⟩

/-! ## Runs -/

/-- No event gives an empty payload to `Send`. -/
def Event.NonemptyPayload : Event → Prop
  | .send _ c => c ≠ []
  | _ => True

/-- Every step returns and keeps the invariant. -/
theorem step_inv {p : ConnPair} {e : Event} (h : p.Inv) (he : e.NonemptyPayload) :
    ∃ p', step p e = .ok p' ∧ p'.Inv := by
  cases e with
  | send s c => exact ⟨_, rfl, h.send s he⟩
  | deliver s =>
      cases hchan : p.chan s with
      | nil => exact ⟨p, by simp [step, hchan], h⟩
      | cons t rest =>
          obtain ⟨p', hp', hinv⟩ := h.arrive hchan
          exact ⟨p', by simp [step, hchan, hp'], hinv⟩
  | input s => exact h.turn s nofun
  | timeout s => exact h.turn s nofun
  | stop s => exact h.turn s nofun
  -- losses and duplicates keep the order of what is in flight
  | lose s i =>
      have hord := (h s.other).ordered
      rw [Side.other_other] at hord
      exact ⟨_, rfl, h.setChan s (fun _ => mem_of_mem_lose) (pairwise_lose hord)⟩
  | duplicate s i =>
      have hord := (h s.other).ordered
      rw [Side.other_other] at hord
      have hdup : (BcuSdk.Lib.duplicate i (p.chan s)).Pairwise Earlier :=
        pairwise_duplicate (fun t => ⟨Nat.le_refl _, Nat.le_refl _⟩) hord
      exact ⟨_, rfl, h.setChan s (fun _ => mem_of_mem_duplicate) hdup⟩

/-- What the invariant says about the payloads: those delivered are the first of those given,
    in order, and those acknowledged are the first of those delivered. -/
theorem Inv.payloads {p : ConnPair} (h : p.Inv) (s : Side) :
    p.delivered s.other <+: (p.given s).map maskHead ∧
      (p.acked s).map maskHead <+: p.delivered s.other := by
  have hs := h s
  refine ⟨hs.prefix_given, List.prefix_of_prefix_length_le ?_ hs.prefix_given ?_⟩
  · rw [hs.queue, List.map_append]
    exact List.prefix_append _ _
  · rw [List.length_map]
    exact hs.behind

/-- In every run from an established connection, whatever the channels lose or repeat: nothing
    faults, the payloads delivered at one side are a prefix of those given at the other, and every
    payload dequeued on an acknowledgement is among the delivered ones, at the same place. -/
theorem transfer (dest : Side → EibAddr) (es : List Event) (hes : ∀ e ∈ es, e.NonemptyPayload) :
    ∃ p, run step (established dest) es = .ok p ∧
      ∀ s, p.delivered s.other <+: (p.given s).map maskHead ∧
        (p.acked s).map maskHead <+: p.delivered s.other := by
  have hmeet : StepsMeet step (fun _ => Event.NonemptyPayload) (established dest) es :=
    StepsMeet.of_events hes
  obtain ⟨p, hrun, hinv⟩ := run_returns (fun _ _ => step_inv) (inv_established dest) hmeet
  exact ⟨p, hrun, hinv.payloads⟩

/-- A payload that is repeated once because its acknowledgement was lost. -/
theorem transfer_repeated :
    ∃ p, run step (established fun _ => 0)
        [.send .left [0x03#8, 0xd7#8], .input .left, .deliver .right, .lose .left 0, .timeout .left,
          .deliver .right, .deliver .left] = .ok p ∧
      ∀ s, p.delivered s.other <+: (p.given s).map maskHead ∧
        (p.acked s).map maskHead <+: p.delivered s.other :=
  transfer _ _ (by simp [Event.NonemptyPayload])

end ConnPair

end BcuSdk.Eibd
