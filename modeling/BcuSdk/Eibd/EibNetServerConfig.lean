/-
  BcuSdk.Eibd.EibNetServerConfig

  A device configuration connection of `EIBnetServer`, over its whole life
  (eibd/libserver/eibnetserver.cpp).

  `ServerConn.step` is everything that can happen to such a connection, in any
  order.  `ConfigRun` keeps beside the connection which M_PropRead.req it has
  taken in sequence and which frames have left its queue: what has left the
  queue and what is still in it are, one by one, the answers to the requests
  taken.  The answers are right except for one nibble, and
  `exact_iff_startsLow` says when it shows.  The
  connections of type 2 of a running server are the ends of such runs
  (`EIBnetServer.device_run`).
-/
import BcuSdk.Eibd.EibNetServerSafety

namespace BcuSdk.Eibd

open BcuSdk.Lib

/-! ## What happens to a connection -/

namespace ServerConn

/-- What the packet handling, the timers and the send loop do to one connection of type 2; `fresh`
    is what newly allocated memory happens to hold. -/
inductive Event where
  | configRequest (r : EIBnetConfigRequest) (fresh : Nat → Byte)
  | configACK (r : EIBnetConfigACK)
  | tunnelRequest (r : EIBnetTunnelRequest) (object : Nat)
  | tunnelResponse (r : EIBnetTunnelACK)
  | connectionState (now : Nat)
  | sendPhase (fresh : Nat → Byte) (now : Nat)

def step (c : ServerConn) : Event → Checked (ServerConn × List ServerAction)
  | .configRequest r fresh => c.onConfigRequest r fresh
  | .configACK r => c.onConfigACK r
  | .tunnelRequest r object => c.onTunnelRequest object r
  | .tunnelResponse r => c.onTunnelResponse r
  | .connectionState now => .ok ({ c with timeout := now + 120 }, [])
  | .sendPhase fresh now => c.sendPhase fresh now

/-- A 7-byte M_PropRead.req. -/
def IsPropRead (cemi : CArray) : Prop := cemi.length = 7 ∧ cemi.getD 0 0#8 = 0xFC#8

instance (cemi : CArray) : Decidable (IsPropRead cemi) := inferInstanceAs (Decidable (_ ∧ _))

/-- The event is a request with the number the connection expects. -/
def Event.InSequence (c : ServerConn) : Event → Prop
  | .configRequest r _ => c.rno = r.seqno
  | .tunnelRequest r _ => c.rno = r.seqno
  | _ => False

instance (c : ServerConn) (e : Event) : Decidable (e.InSequence c) := by
  cases e <;> unfold Event.InSequence <;> infer_instance

/-- The number of a configuration request. -/
def Event.configNumber : Event → Option Byte
  | .configRequest r _ => some r.seqno
  | _ => none

/-- The M_PropRead.req that the event brings in sequence. -/
def Event.propRead (c : ServerConn) : Event → Option CArray
  | .configRequest r _ => if c.rno = r.seqno ∧ IsPropRead r.cemi then some r.cemi else none
  | _ => none

/-- What an event can do to a connection of type 2. -/
inductive Outcome (c : ServerConn) (e : Event) (c' : ServerConn) : Prop
  /-- Neither the number nor the queue changes. -/
  | stays (hseq : ¬ e.InSequence c) (hrno : c'.rno = c.rno) (hout : c'.out = c.out)
  /-- A request is refused or has no confirmation. -/
  | advances (hseq : e.InSequence c) (hread : e.propRead c = none) (hrno : c'.rno = c.rno + 1#8)
      (hout : c'.out = c.out)
  /-- The answer to an M_PropRead.req enters the queue. -/
  | confirms {cemi con : CArray} (hseq : e.InSequence c) (hread : e.propRead c = some cemi)
      (hcon : propertyResponse cemi = .ok con) (hrno : c'.rno = c.rno + 1#8)
      (hout : c'.out = c.out ++ [con])
  /-- The frame in front of the queue is acknowledged or given up. -/
  | dequeues {front : CArray} (hseq : ¬ e.InSequence c) (hrno : c'.rno = c.rno)
      (hout : c.out = front :: c'.out)

variable {c c' : ServerConn} {as : List ServerAction}

theorem ne_add_one (b : Byte) : b ≠ b + 1#8 := by
  bv_omega

theorem getD_of_readByte {data : CArray} {i : Nat} {b : Byte} (h : readByte data i = .ok b) :
    data.getD i 0#8 = b := by
  rw [List.getD_eq_getElem?_getD, getElem?_of_readByte h]
  rfl

theorem configRequest_outcome {r : EIBnetConfigRequest} {fresh : Nat → Byte}
    (hdevice : c.type = .device) (h : c.onConfigRequest r fresh = .ok (c', as)) :
    Outcome c (.configRequest r fresh) c' := by
  rw [onConfigRequest] at h
  split at h
  · -- the request before once more: only acknowledged
    next hrepeat =>
    cases h
    exact .stays (fun hseq => ne_add_one r.seqno (hseq.symm.trans hrepeat)) rfl rfl
  split at h
  · -- any other number: dropped
    next hseq =>
    cases h
    exact .stays hseq rfl rfl
  · next hseq =>
    have hseq : c.rno = r.seqno := not_not.mp hseq
    split at h
    · obtain ⟨code, hcode, h⟩ := Checked.bind_eq_ok.mp h
      split at h
      · next hread =>
        obtain ⟨con, hcon, h⟩ := Checked.bind_eq_ok.mp h
        cases h
        have hprop : IsPropRead r.cemi := ⟨hread.2, (getD_of_readByte hcode).trans hread.1⟩
        exact .confirms hseq (if_pos ⟨hseq, hprop⟩) hcon rfl rfl
      · next hread =>
        cases h
        have hprop : ¬ IsPropRead r.cemi := fun hprop =>
          hread ⟨(getD_of_readByte hcode).symm.trans hprop.2, hprop.1⟩
        exact .advances hseq (if_neg fun h => hprop h.2) rfl rfl
    · next hshort =>
      cases h
      have hprop : ¬ IsPropRead r.cemi := fun hprop => hshort ⟨hdevice, by rw [hprop.1]; decide⟩
      exact .advances hseq (if_neg fun h => hprop h.2) rfl rfl

/-- The tunnelling service refuses the frames of a connection of type 2. -/
theorem indication_of_device (hdevice : c.type = .device) (cemi : CArray) :
    c.tunnelConn.indication cemi = .ok { status := 0x29#8 } := by
  rw [ConnState.indication, tunnelConn, hdevice]
  rfl

/-- On a connection of type 2 a `TUNNEL_REQUEST` is refused, but its number is used up. -/
theorem tunnelRequest_outcome {r : EIBnetTunnelRequest} {object : Nat}
    (hdevice : c.type = .device) (h : c.onTunnelRequest object r = .ok (c', as)) :
    Outcome c (.tunnelRequest r object) c' := by
  rw [onTunnelRequest] at h
  split at h
  · next hrepeat =>
    cases h
    exact .stays (fun hseq => ne_add_one r.seqno (hseq.symm.trans hrepeat)) rfl rfl
  split at h
  · next hseq =>
    cases h
    exact .stays hseq rfl rfl
  · next hseq =>
    rw [indication_of_device hdevice] at h
    cases h
    exact .advances (not_not.mp hseq) rfl rfl rfl

theorem ack_outcome {types : ClientType → Bool} {seqno status : Byte} {e : Event}
    (he : ¬ e.InSequence c) (h : c.onAck types seqno status = .ok (c', as)) : Outcome c e c' := by
  rw [onAck] at h
  split at h
  · cases h
    exact .stays he rfl rfl
  split at h
  · cases h
    exact .stays he rfl rfl
  split at h
  · cases h
    exact .stays he rfl rfl
  split at h
  · cases h
    exact .stays he rfl rfl
  · obtain ⟨c₁, hget, h⟩ := Checked.bind_eq_ok.mp h
    cases h
    obtain ⟨front, rest, n, hout, -, rfl⟩ := get_eq_ok hget
    exact .dequeues he rfl hout

theorem sendPhase_outcome {fresh : Nat → Byte} {now : Nat}
    (h : c.sendPhase fresh now = .ok (c', as)) : Outcome c (.sendPhase fresh now) c' := by
  rw [sendPhase] at h
  split at h
  · split at h
    · obtain ⟨c₁, hget, h⟩ := Checked.bind_eq_ok.mp h
      cases h
      obtain ⟨front, rest, n, hout, -, rfl⟩ := get_eq_ok hget
      exact .dequeues id rfl hout
    · obtain ⟨front, -, h⟩ := Checked.bind_eq_ok.mp h
      cases h
      exact .stays id rfl rfl
  · cases h
    exact .stays id rfl rfl

theorem tunnelRequest_returns {r : EIBnetTunnelRequest} {object : Nat}
    (hdevice : c.type = .device) : (c.onTunnelRequest object r).Returns := by
  rw [onTunnelRequest]
  split
  · exact ⟨_, rfl⟩
  split
  · exact ⟨_, rfl⟩
  · rw [indication_of_device hdevice]
    exact ⟨_, rfl⟩

theorem step_outcome {e : Event} (hdevice : c.type = .device) (h : c.step e = .ok (c', as)) :
    Outcome c e c' := by
  cases e with
  | configRequest r fresh => exact configRequest_outcome hdevice h
  | configACK r =>
      rw [step, onConfigACK] at h
      exact ack_outcome id h
  | tunnelRequest r object => exact tunnelRequest_outcome hdevice h
  | tunnelResponse r =>
      rw [step, onTunnelResponse] at h
      exact ack_outcome id h
  | connectionState now =>
      cases h
      exact .stays id rfl rfl
  | sendPhase fresh now => exact sendPhase_outcome h

theorem step_turn {e : Event} (h : c.step e = .ok (c', as)) : c.Turn c' := by
  cases e with
  | configRequest r fresh => exact onConfigRequest_turn h
  | configACK r =>
      rw [step, onConfigACK] at h
      exact onAck_turn h
  | tunnelRequest r object => exact onTunnelRequest_turn h
  | tunnelResponse r =>
      rw [step, onTunnelResponse] at h
      exact onAck_turn h
  | connectionState now =>
      cases h
      exact ⟨rfl, rfl, fun hs => hs.congr rfl rfl rfl⟩
  | sendPhase fresh now => exact sendPhase_turn h

/-- A repetition of the request before is acknowledged again, and nothing else happens. -/
theorem onConfigRequest_repeated {r : EIBnetConfigRequest} {fresh : Nat → Byte}
    (h : c.rno = r.seqno + 1#8) :
    c.onConfigRequest r fresh = .ok (c, [.send c.daddr
      (({ channel := r.channel, seqno := r.seqno, status := 0#8 } : EIBnetConfigACK).toPacket
        fresh)]) := by
  rw [onConfigRequest, if_pos h]
  rfl

end ServerConn

/-! ## Requests and confirmations -/

/-- What an M_PropRead.req asks for, and an M_PropRead.con answers. -/
structure PropertyAccess where
  objectType : Word16
  objectInstance : Byte
  property : Byte
  count : Byte
  /-- The start index has 12 bits. -/
  start : Nat
  deriving DecidableEq, Repr

def propertyAccess (cemi : CArray) : PropertyAccess where
  objectType := word16 (cemi.getD 1 0#8) (cemi.getD 2 0#8)
  objectInstance := cemi.getD 3 0#8
  property := cemi.getD 4 0#8
  count := (cemi.getD 5 0#8) >>> 4
  start := (cemi.getD 5 0#8 &&& 0x0f#8).toNat * 256 + (cemi.getD 6 0#8).toNat

/-- The server has one property, and refuses to read any other. -/
def Refused (req : CArray) : Prop :=
  ¬ ((propertyAccess req).objectType = 0#16 ∧ (propertyAccess req).objectInstance = 0#8 ∧
    (propertyAccess req).property = 0#8)

/-- `con` is the M_PropRead.con for `req`. -/
structure Confirms (req con : CArray) : Prop where
  code : con.getD 0 0#8 = 0xFB#8
  objectType : (propertyAccess con).objectType = (propertyAccess req).objectType
  objectInstance : (propertyAccess con).objectInstance = (propertyAccess req).objectInstance
  property : (propertyAccess con).property = (propertyAccess req).property
  refused : Refused req →
    (propertyAccess con).count = 0#8 ∧ (propertyAccess con).start = (propertyAccess req).start

/-- The start index is below 256. -/
def LowStart (req : CArray) : Prop := req.getD 5 0#8 &&& 0x0f#8 = 0#8

/-- The answer the server makes, byte by byte. -/
theorem propertyResponse_eq (c0 c1 c2 c3 c4 c5 c6 : Byte) :
    ServerConn.propertyResponse [c0, c1, c2, c3, c4, c5, c6] =
      .ok (if word16 c1 c2 = 0#16 ∧ c3 = 0#8 ∧ c4 = 0#8 then
        [0xFB#8, c1, c2, c3, c4, ((c5 >>> 4) &&& 0x0f#8 &&& 0x0f#8) <<< 4, 0#8, 0#8, 0#8]
      else [0xFB#8, c1, c2, c3, c4, 0#8, (c5 &&& 0x0f#8) ||| c6, 0#8]) := by
  simp only [ServerConn.propertyResponse, readByte_cons_succ, readByte_cons_zero, Checked.ok_bind,
    hiByte_word16, loByte_word16]
  split <;> rfl

/-- The two bytes of the start index are or-ed into one, where the upper four bits get lost unless
    they are zero. -/
theorem start_eq_iff (c5 c6 : Byte) :
    (0#8 &&& 0x0f#8).toNat * 256 + ((c5 &&& 0x0f#8) ||| c6).toNat =
      (c5 &&& 0x0f#8).toNat * 256 + c6.toNat ↔ c5 &&& 0x0f#8 = 0#8 := by
  constructor
  · intro h
    have hor : ((c5 &&& 0x0f#8) ||| c6).toNat < 2 ^ 8 := BitVec.isLt _
    have hzero : (0#8 &&& 0x0f#8).toNat = 0 := rfl
    have hnat : (c5 &&& 0x0f#8).toNat = 0 := by omega
    exact BitVec.eq_of_toNat_eq hnat
  · intro h
    rw [h, BitVec.zero_or]
    rfl

/-- The answer confirms the request, unless the request is refused and its start index is not
    below 256. -/
theorem confirms_iff {req con : CArray} (hread : ServerConn.IsPropRead req)
    (hcon : ServerConn.propertyResponse req = .ok con) :
    Confirms req con ↔ (Refused req → LowStart req) := by
  obtain ⟨hlen, -⟩ := hread
  match req, hlen with
  | [c0, c1, c2, c3, c4, c5, c6], _ =>
    rw [propertyResponse_eq] at hcon
    have hcon := Except.ok.inj hcon
    split at hcon
    case isTrue hknown =>
      subst hcon
      have hknown : ¬ Refused [c0, c1, c2, c3, c4, c5, c6] := not_not.mpr hknown
      exact iff_of_true ⟨rfl, rfl, rfl, rfl, fun h => absurd h hknown⟩ fun h => absurd h hknown
    -- the start index of the answer is both bytes or-ed
    case isFalse hrefused =>
      subst hcon
      have hrefused : Refused [c0, c1, c2, c3, c4, c5, c6] := hrefused
      constructor
      · intro h _
        exact (start_eq_iff c5 c6).mp (h.refused hrefused).2
      · intro h
        have hcount : (0#8 : Byte) >>> 4 = 0#8 := by decide
        exact ⟨rfl, rfl, rfl, rfl, fun _ => ⟨hcount, (start_eq_iff c5 c6).mpr (h hrefused)⟩⟩

/-! ## Over a run -/

/-- Two lists that end in one more element each. -/
theorem forall₂_snoc_iff {α β : Type} {R : α → β → Prop} {l : List α} {l' : List β} {a : α}
    {b : β} : List.Forall₂ R (l ++ [a]) (l' ++ [b]) ↔ List.Forall₂ R l l' ∧ R a b := by
  rw [← List.forall₂_reverse_iff, List.reverse_append, List.reverse_append]
  show List.Forall₂ R (a :: l.reverse) (b :: l'.reverse) ↔ _
  rw [List.forall₂_cons, List.forall₂_reverse_iff, and_comm]

/-- A connection of type 2, and beside it what it has taken and given so far. -/
structure ConfigRun where
  conn : ServerConn
  /-- The number taken last, if it was that of a configuration request. -/
  last : Option Byte := none
  /-- The M_PropRead.req taken in sequence. -/
  requests : List CArray := []
  /-- What has left the queue. -/
  removed : List CArray := []

namespace ConfigRun

open ServerConn (Event Outcome IsPropRead)

def step (s : ConfigRun) (e : Event) : Checked ConfigRun := do
  let (conn, _) ← s.conn.step e
  return {
    conn
    last := if e.InSequence s.conn then e.configNumber else s.last
    requests := s.requests ++ (e.propRead s.conn).toList
    removed := s.removed ++ s.conn.out.take (s.conn.out.length - conn.out.length) }

/-- What a device configuration connection promises. -/
structure Exact (s : ConfigRun) : Prop where
  /-- One confirmation for each request, in their order. -/
  confirmed : List.Forall₂ Confirms s.requests (s.removed ++ s.conn.out)
  /-- A repetition is acknowledged, and changes nothing. -/
  repeated : ∀ (r : EIBnetConfigRequest) (fresh : Nat → Byte), s.last = some r.seqno →
    s.conn.onConfigRequest r fresh = .ok (s.conn, [.send s.conn.daddr
      (({ channel := r.channel, seqno := r.seqno, status := 0#8 } : EIBnetConfigACK).toPacket
        fresh)])
  returns : ∀ e, (s.conn.step e).Returns

/-- A connection of type 2 whose number is behind the one taken last. -/
structure Inv (s : ConfigRun) : Prop where
  device : s.conn.type = .device
  sound : s.conn.Sound
  last : ∀ n, s.last = some n → s.conn.rno = n + 1#8

variable {s s' : ConfigRun} {e : Event}

theorem step_eq_ok (h : s.step e = .ok s') :
    ∃ as, s.conn.step e = .ok (s'.conn, as) ∧
      s'.last = (if e.InSequence s.conn then e.configNumber else s.last) ∧
      s'.requests = s.requests ++ (e.propRead s.conn).toList ∧
      s'.removed =
        s.removed ++ s.conn.out.take (s.conn.out.length - s'.conn.out.length) := by
  obtain ⟨⟨conn, as⟩, hstep, h⟩ := Checked.bind_eq_ok.mp h
  cases h
  exact ⟨as, hstep, rfl, rfl, rfl⟩

theorem configNumber_eq {c : ServerConn} {n : Byte} (hseq : e.InSequence c)
    (h : e.configNumber = some n) : c.rno = n := by
  cases e with
  | configRequest r fresh =>
      cases h
      exact hseq
  | configACK => cases h
  | tunnelRequest => cases h
  | tunnelResponse => cases h
  | connectionState => cases h
  | sendPhase => cases h

theorem propRead_eq_some {c : ServerConn} {cemi : CArray} (h : e.propRead c = some cemi) :
    IsPropRead cemi := by
  cases e with
  | configRequest r fresh =>
      rw [Event.propRead, Option.ite_none_right_eq_some] at h
      obtain ⟨⟨-, hread⟩, hcemi⟩ := h
      cases hcemi
      exact hread
  | configACK => cases h
  | tunnelRequest => cases h
  | tunnelResponse => cases h
  | connectionState => cases h
  | sendPhase => cases h

theorem propRead_of_not_inSequence {c : ServerConn} (h : ¬ e.InSequence c) :
    e.propRead c = none := by
  cases e with
  | configRequest r fresh => exact if_neg fun hread => h hread.1
  | configACK => rfl
  | tunnelRequest => rfl
  | tunnelResponse => rfl
  | connectionState => rfl
  | sendPhase => rfl

theorem Inv.step (h : Inv s) (hstep : s.step e = .ok s') : Inv s' := by
  obtain ⟨as, hconn, hlast, -, -⟩ := step_eq_ok hstep
  have hturn := ServerConn.step_turn hconn
  refine ⟨hturn.type.trans h.device, hturn.sound h.sound, fun n hn => ?_⟩
  rw [hlast] at hn
  -- the number advances exactly when a request is taken
  have hrno : s'.conn.rno = if e.InSequence s.conn then s.conn.rno + 1#8 else s.conn.rno := by
    cases ServerConn.step_outcome h.device hconn with
    | stays hseq hrno => rw [if_neg hseq, hrno]
    | advances hseq _ hrno => rw [if_pos hseq, hrno]
    | confirms hseq _ _ hrno => rw [if_pos hseq, hrno]
    | dequeues hseq hrno => rw [if_neg hseq, hrno]
  rw [hrno]
  split at hn
  · next hseq => rw [if_pos hseq, configNumber_eq hseq hn]
  · next hseq => rw [if_neg hseq, h.last n hn]

/-- Whatever comes, the connection takes it. -/
theorem Inv.returns (h : Inv s) (e : Event) : (s.conn.step e).Returns := by
  cases e with
  | configRequest r fresh => exact EIBnetServer.onConfigRequest_returns s.conn r fresh
  | configACK r =>
      rw [ServerConn.step, ServerConn.onConfigACK]
      exact h.sound.onAck_returns _ r.seqno r.status
  | tunnelRequest r object => exact ServerConn.tunnelRequest_returns h.device
  | tunnelResponse r =>
      rw [ServerConn.step, ServerConn.onTunnelResponse]
      exact h.sound.onAck_returns _ r.seqno r.status
  | connectionState now => exact ⟨_, rfl⟩
  | sendPhase fresh now => exact h.sound.sendPhase_returns fresh now

/-- With the invariant only the confirmations are in question. -/
theorem Inv.exact_iff_confirmed (h : Inv s) :
    Exact s ↔ List.Forall₂ Confirms s.requests (s.removed ++ s.conn.out) :=
  ⟨Exact.confirmed, fun hconfirmed =>
    ⟨hconfirmed, fun r _ hr => ServerConn.onConfigRequest_repeated (h.last r.seqno hr),
      h.returns⟩⟩

/-- A refused request that comes in sequence has its start index below 256. -/
def StartsLow (s : ConfigRun) (e : Event) : Prop :=
  ∀ cemi, e.propRead s.conn = some cemi → Refused cemi → LowStart cemi

theorem Inv.exact_step (h : Inv s) (hexact : Exact s) (hstep : s.step e = .ok s') :
    Exact s' ↔ StartsLow s e := by
  rw [(h.step hstep).exact_iff_confirmed]
  obtain ⟨as, hconn, -, hrequests, hremoved⟩ := step_eq_ok hstep
  rw [hrequests, hremoved]
  -- a step that takes no such request leaves the sequence of answers as it is
  have hsame (hread : e.propRead s.conn = none)
      (hout : s.conn.out.take (s.conn.out.length - s'.conn.out.length) ++ s'.conn.out =
        s.conn.out) :
      List.Forall₂ Confirms (s.requests ++ (e.propRead s.conn).toList)
        (s.removed ++ s.conn.out.take (s.conn.out.length - s'.conn.out.length) ++ s'.conn.out) ↔
        StartsLow s e := by
    rw [hread, Option.toList_none, List.append_nil, List.append_assoc, hout]
    refine iff_of_true hexact.confirmed fun cemi hcemi => ?_
    rw [hread] at hcemi
    cases hcemi
  cases ServerConn.step_outcome h.device hconn with
  | stays hseq _ hout =>
      exact hsame (propRead_of_not_inSequence hseq) (by rw [hout, Nat.sub_self]; rfl)
  | advances _ hread _ hout => exact hsame hread (by rw [hout, Nat.sub_self]; rfl)
  | dequeues hseq _ hout =>
      refine hsame (propRead_of_not_inSequence hseq) ?_
      rw [hout, List.length_cons, Nat.add_sub_cancel_left]
      rfl
  | confirms hseq hread hcon _ hout =>
      -- one request more, and its answer at the end of the queue
      have hnone : s.conn.out.length - s'.conn.out.length = 0 := by
        rw [hout, List.length_append]
        omega
      rw [hnone, List.take_zero, List.append_nil, hout, hread, Option.toList_some,
        ← List.append_assoc, forall₂_snoc_iff, confirms_iff (propRead_eq_some hread) hcon]
      constructor
      · rintro ⟨-, hlow⟩ cemi hcemi
        cases hread.symm.trans hcemi
        exact hlow
      · intro hlow
        exact ⟨hexact.confirmed, hlow _ hread⟩

/-- A connection `addClient` has just made. -/
def start (id : Nat) (r1 : EIBnetConnectRequest) (now : Nat) : ConfigRun where
  conn := EIBnetServer.newConn id .device r1 now

theorem start_inv (id : Nat) (r1 : EIBnetConnectRequest) (now : Nat) : Inv (start id r1 now) :=
  ⟨rfl, ⟨rfl, Nat.zero_le _, fun h => absurd h (Nat.lt_irrefl 0)⟩, fun n hn => by cases hn⟩

/-- Over a whole run: a device configuration connection keeps its promise as long as no refused
    request has a start index of 256 or more. -/
theorem exact_iff_startsLow (id : Nat) (r1 : EIBnetConnectRequest) (now : Nat)
    (es : List Event) :
    HoldsAlong ConfigRun.step Exact (start id r1 now) es ↔
      StepsMeet ConfigRun.step StartsLow (start id r1 now) es := by
  have hinit := start_inv id r1 now
  refine holdsAlong_iff (E := fun _ => True) (fun s e s' (h : Inv s) _ => h.step) ?_
    (fun s e s' h hexact _ => h.exact_step hexact) (fun _ _ => trivial) hinit
    (hinit.exact_iff_confirmed.mpr .nil)
  intro s e h _ _ hfault
  obtain ⟨⟨conn, as⟩, hconn⟩ := h.returns e
  exact absurd (by rw [ConfigRun.step, hconn]; rfl) (hfault _)

/-- A read of object type 1 that starts at 0x123: the answer says 0x23. -/
def readFrom0x123 : EIBnetConfigRequest where
  channel := 1#8
  cemi := [0xFC#8, 0x00#8, 0x01#8, 0x01#8, 0x0b#8, 0x11#8, 0x23#8]

theorem exact_fails_0x123 :
    ¬ HoldsAlong ConfigRun.step Exact (start 1 {} 0) [.configRequest readFrom0x123 fun _ => 0#8] := by
  intro h
  have hexact := h [_] [] _ rfl rfl
  cases hexact.confirmed with
  | cons hconfirms _ =>
    have hrefused : Refused readFrom0x123.cemi := fun hknown => by
      have := hknown.1
      revert this
      decide
    have hstart := (hconfirms.refused hrefused).2
    revert hstart
    decide

end ConfigRun

/-! ## The connections of a server -/

namespace ServerConn

/-- What becomes of a connection, without the packets it sends. -/
def turn (c : ServerConn) (e : Event) : Checked ServerConn := do
  return (← c.step e).1

/-- The type stays, and a connection of type 2 changes by its events. -/
structure Moved (c c' : ServerConn) : Prop where
  type : c'.type = c.type
  events : c.type = .device → ∃ es, run turn c es = .ok c'

variable {c c' c'' : ServerConn} {as : List ServerAction}

theorem Moved.refl (c : ServerConn) : Moved c c := ⟨rfl, fun _ => ⟨[], rfl⟩⟩

theorem Moved.trans (h : Moved c c') (h' : Moved c' c'') : Moved c c'' := by
  refine ⟨h'.type.trans h.type, fun hdevice => ?_⟩
  obtain ⟨es, hes⟩ := h.events hdevice
  obtain ⟨es', hes'⟩ := h'.events (h.type.trans hdevice)
  exact ⟨es ++ es', run_append hes hes'⟩

theorem Moved.step {e : Event} (h : c.step e = .ok (c', as)) : Moved c c' :=
  ⟨(step_turn h).type, fun _ => ⟨[e], by rw [run_cons, turn, h]; rfl⟩⟩

/-- A connection of another type may change in any way that keeps the type. -/
theorem Moved.of_type (h : c.type ≠ .device) (htype : c'.type = c.type) : Moved c c' :=
  ⟨htype, fun hdevice => absurd hdevice h⟩

/-- What is kept beside the connection has no influence on it. -/
theorem run_configRun {s : ConfigRun} {es : List Event} (h : run turn s.conn es = .ok c) :
    ∃ s', run ConfigRun.step s es = .ok s' ∧ s'.conn = c := by
  induction es generalizing s with
  | nil =>
      cases h
      exact ⟨s, rfl, rfl⟩
  | cons e es ih =>
      obtain ⟨c₁, hturn, h⟩ := Checked.bind_eq_ok.mp h
      obtain ⟨⟨c₂, as⟩, hstep, hc₂⟩ := Checked.bind_eq_ok.mp hturn
      cases hc₂
      have hnext : ∃ s₁, s.step e = .ok s₁ ∧ s₁.conn = c₂ :=
        ⟨_, by rw [ConfigRun.step, hstep]; rfl, rfl⟩
      obtain ⟨s₁, hs₁, rfl⟩ := hnext
      obtain ⟨s', hrun, hconn⟩ := ih h
      exact ⟨s', by rw [run_cons, hs₁, Checked.ok_bind, hrun], hconn⟩

end ServerConn

namespace EIBnetServer

open ServerConn (Moved)

variable {s s' s'' : EIBnetServer} {c : ServerConn} {as : List ServerAction}

/-- A connection of the table, or one that `addClient` has just made. -/
def Origin (s : EIBnetServer) (c : ServerConn) : Prop :=
  c ∈ s.state ∨ ∃ id type r1 now, c = newConn id type r1 now

/-- All connections of `s'` come from `s`, or have been opened in between. -/
def Descends (s s' : EIBnetServer) : Prop := ∀ c' ∈ s'.state, ∃ c, Origin s c ∧ Moved c c'

theorem Descends.of_subset (h : s'.state ⊆ s.state) : Descends s s' :=
  fun c hc => ⟨c, .inl (h hc), .refl c⟩

theorem Descends.of_state (h : s'.state = s.state) : Descends s s' :=
  .of_subset fun _ hc => h ▸ hc

theorem Descends.of_forall₂ (h : List.Forall₂ Moved s.state s'.state) : Descends s s' := by
  intro c' hc'
  obtain ⟨i, hi, rfl⟩ := List.getElem_of_mem hc'
  have hi' : i < s.state.length := h.length_eq ▸ hi
  exact ⟨s.state[i], .inl (List.getElem_mem hi'), h.get hi' hi⟩

theorem Descends.trans (h : Descends s s') (h' : Descends s' s'') : Descends s s'' := by
  intro c'' hc''
  obtain ⟨c', horigin, hmoved'⟩ := h' c'' hc''
  rcases horigin with hc' | hnew
  · obtain ⟨c, horigin, hmoved⟩ := h c' hc'
    exact ⟨c, horigin, hmoved.trans hmoved'⟩
  · exact ⟨c', .inr hnew, hmoved'⟩

/-- A handler that moves the connection it is given. -/
theorem onConnection_descends {src : SockaddrIn} {channel : Byte}
    {f : ServerConn → Checked (ServerConn × List ServerAction)}
    (hf : ∀ c c' as, f c = .ok (c', as) → Moved c c')
    (h : s.onConnection src channel f = .ok (s', as)) : Descends s s' := by
  rw [onConnection] at h
  split at h
  · cases h
    exact .of_state rfl
  split at h
  · cases h
  · next c hc =>
    split at h
    · obtain ⟨⟨c', actions⟩, hmove, h⟩ := Checked.bind_eq_ok.mp h
      cases h
      exact .of_forall₂ (forall₂_set Moved.refl hc (hf c c' _ hmove))
    · cases h
      exact .of_state rfl

theorem onConnectionStateRequest_descends (s : EIBnetServer) (src : SockaddrIn)
    (r1 : EIBnetConnectionStateRequest) (now : Nat) :
    Descends s (s.onConnectionStateRequest src r1 now).1 := by
  refine .of_forall₂ ?_
  show List.Forall₂ Moved s.state (s.state.map _)
  rw [List.forall₂_map_right_iff]
  refine List.forall₂_same.mpr fun c _ => ?_
  split
  · exact .step (e := .connectionState now) rfl
  · exact .refl c

theorem removeClient_descends (s : EIBnetServer) (i : Nat) : Descends s (s.removeClient i).1 := by
  refine .of_subset ?_
  rw [removeClient_state]
  exact (List.eraseIdx_sublist _ i).subset

theorem onDisconnectRequest_descends {src : SockaddrIn} {r1 : EIBnetDisconnectRequestFrom}
    (h : s.onDisconnectRequest src r1 = (s', as)) : Descends s s' := by
  rw [onDisconnectRequest] at h
  split at h
  · cases h
    exact removeClient_descends s _
  · cases h
    exact .of_state rfl

theorem openClient_descends (s : EIBnetServer) (r1 : EIBnetConnectRequest) (now : Nat)
    (accepted : Bool) : Descends s (s.openClient r1 now accepted).2.1 := by
  rcases @openClient_state s r1 now accepted with heq | ⟨type, -, heq⟩
  · exact .of_state heq
  · intro c hc
    rw [heq, List.mem_append, List.mem_singleton] at hc
    rcases hc with hc | rfl
    · exact ⟨c, .inl hc, .refl c⟩
    · exact ⟨_, .inr ⟨_, type, r1, now, rfl⟩, .refl _⟩

theorem onRoutingIndication_descends {data : CArray} {now : Nat}
    (h : s.onRoutingIndication data now = .ok (s', as)) : Descends s s' := by
  rcases onRoutingIndication_cases h with rfl | ⟨c, -, -, -, rfl⟩
  · exact .of_state rfl
  · -- a frame that is passed on leaves its mark in the NAT entries only
    obtain ⟨entries, heq⟩ := addNAT_eq s c.decHopcount now
    rw [heq]
    exact .of_state rfl

/-- The packet handling, whatever the service is. -/
theorem recv_descends {p : ReceivedPacket} {now : Nat} {accepted : Bool}
    (h : s.recv p now accepted = .ok (s', as)) : Descends s s' := by
  cases recv_served h with
  | unchanged => exact .of_state rfl
  | routing _ h => exact onRoutingIndication_descends h
  | connectionState r1 => exact onConnectionStateRequest_descends s p.src r1 now
  | disconnect h => exact onDisconnectRequest_descends h
  | @connect r1 _ _ _ _ h =>
      obtain rfl : (s.onConnectionRequest r1 now accepted).1 = s' := congrArg Prod.fst h
      rw [onConnectionRequest_fst]
      exact openClient_descends s r1 now accepted
  | @tunnelRequest r1 _ _ h =>
      exact onConnection_descends (fun _ _ _ => Moved.step (e := .tunnelRequest r1 s.object)) h
  | @tunnelResponse r1 _ _ h =>
      exact onConnection_descends (fun _ _ _ => Moved.step (e := .tunnelResponse r1)) h
  | @configRequest r1 _ _ h =>
      exact onConnection_descends (fun _ _ _ => Moved.step (e := .configRequest r1 s.fresh)) h
  | @configACK r1 _ _ h =>
      exact onConnection_descends (fun _ _ _ => Moved.step (e := .configACK r1)) h

theorem handle_descends {p1 : Option ReceivedPacket} {now : Nat} {accepted : Bool}
    (h : s.handle p1 now accepted = .ok (s', as)) : Descends s s' := by
  rcases p1 with _ | p
  · cases h
    exact .of_state rfl
  · exact recv_descends (s := { s with natstate := expireNAT now s.natstate }) h

theorem expireClient_descends (s : EIBnetServer) (now : Nat) :
    Descends s (s.expireClient now).1 := by
  rcases expireClient_eq s now with heq | ⟨i, heq⟩
  · rw [heq]
    exact .of_state rfl
  · rw [heq]
    exact removeClient_descends s i

theorem sendAll_descends {now : Nat} (h : s.sendAll now = .ok (s', as)) : Descends s s' := by
  obtain ⟨turns, hturns, h⟩ := Checked.bind_eq_ok.mp h
  cases h
  refine .of_forall₂ ?_
  show List.Forall₂ Moved s.state (turns.map (·.1))
  rw [List.forall₂_map_right_iff]
  exact (Checked.mapM_eq_ok hturns).imp fun c turn h => Moved.step (e := .sendPhase s.fresh now) h

theorem getLData_descends {l : LDataPDU} (h : s.getLData l = .ok (s', as)) : Descends s s' := by
  obtain ⟨state, rfl, hstate⟩ := getLData_cases h
  refine .of_forall₂ (hstate.imp ?_)
  rintro c c' (rfl | ⟨htype, cemi, rfl⟩)
  · exact .refl c'
  · exact .of_type (by rw [htype]; decide) rfl

theorem getLBusmonitor_descends (s : EIBnetServer) (l : LBusmonitorPDU) :
    Descends s (s.getLBusmonitor l) := by
  refine .of_forall₂ ?_
  show List.Forall₂ Moved s.state (s.state.map _)
  rw [List.forall₂_map_right_iff]
  refine List.forall₂_same.mpr fun c _ => ?_
  split
  · next htype => exact .of_type (by rw [htype]; decide) rfl
  · exact .refl c

theorem step_descends {e : Event} (h : s.step e = .ok s') : Descends s s' := by
  cases e with
  | pass p1 now accepted =>
      -- the packet, the timeouts, then the send loop
      obtain ⟨s₁, received, sent, hhandle, hsend⟩ := step_pass_eq_ok.mp h
      exact ((handle_descends hhandle).trans (expireClient_descends s₁ now)).trans
        (sendAll_descends hsend)
  | lData l =>
      obtain ⟨⟨s₁, sends⟩, hlData, h⟩ := Checked.bind_eq_ok.mp h
      cases h
      exact getLData_descends hlData
  | lBusmonitor l =>
      cases h
      exact getLBusmonitor_descends s l

/-- A connection of type 2 in a running server is the end of a run of its own, from when it was
    opened. -/
theorem device_run {s₀ : EIBnetServer} {es : List Event} (h₀ : Started s₀)
    (hrun : run EIBnetServer.step s₀ es = .ok s) (hc : c ∈ s.state) (hdevice : c.type = .device) :
    ∃ id r1 now events t, run ConfigRun.step (ConfigRun.start id r1 now) events = .ok t ∧
      t.conn = c := by
  have hdescends : Descends s₀ s :=
    run_invariant (P := fun _ _ => True)
      (fun _ _ _ (h : Descends s₀ _) _ hstep => h.trans (step_descends hstep)) (.of_state rfl)
      (.of_events fun _ _ => trivial) hrun
  obtain ⟨k, horigin, hmoved⟩ := hdescends c hc
  rcases horigin with hk | ⟨id, type, r1, now, rfl⟩
  · -- a server starts with no connection
    rw [h₀.state] at hk
    cases hk
  · have htype : type = .device := hmoved.type.symm.trans hdevice
    subst htype
    obtain ⟨events, hevents⟩ := hmoved.events rfl
    obtain ⟨t, ht⟩ := ServerConn.run_configRun (s := ConfigRun.start id r1 now) hevents
    exact ⟨id, r1, now, events, t, ht⟩

end EIBnetServer

end BcuSdk.Eibd
