/-
  BcuSdk.Eibd.Layer3Repeat

  Duplicate suppression over whole runs of `Layer3::Run`.

  `Reception` adds to Layer 3 the frames it accepted from the bus and when, as
  a history that the code does not have.  The ignore list keeps track of that
  history: every entry stands for an accepted frame, and no accepted frame is
  missing for one second.  The comparison does not look at the deadlines
  though, and old entries are only deleted behind it.
-/
import BcuSdk.Eibd.Layer3
import BcuSdk.Eibd.LpduRoundTrip
import BcuSdk.Lib.Expiry
import BcuSdk.Lib.Run

namespace BcuSdk.Eibd

open BcuSdk.Lib

/-! ## What one turn does to the ignore list -/

/-- The repetition that may follow a frame. -/
def LDataPDU.asRepetition (l : LDataPDU) : LDataPDU := { l with repeated := true }

/-- A frame that was accepted from the bus, and the time it came. -/
structure Accepted where
  frame : LDataPDU
  time : Nat
  deriving DecidableEq, Repr

namespace Layer3

/-- Whether the comparison with the ignore list takes `goto wt`. -/
def discards (s : Layer3) (l : LDataPDU) : Checked Bool := do
  if l.repeated then
    let d1 ← l.toPacket
    return s.ignore.any (·.data = d1)
  else
    return false

/-- The frame that a turn of `Run` accepts, if it does. -/
def accepts (s : Layer3) (l : LPDU) : Checked (List Accepted) :=
  match l with
  | .lData l1 =>
      if l1.validLength then do
        return if ← s.discards l1 then [] else [⟨l1, s.now⟩]
      else
        .ok []
  | _ => .ok []

theorem discards_of_not_repeated {l : LDataPDU} (s : Layer3) (h : l.repeated = false) :
    s.discards l = .ok false := by
  rw [discards, h]
  rfl

/-- The comparison finds an entry or not, whatever the deadline of the entry. -/
theorem discards_eq_ok_iff {s : Layer3} {l : LDataPDU} {discarded : Bool} (h : l.repeated = true) :
    s.discards l = .ok discarded ↔
      ∃ d1, l.toPacket = .ok d1 ∧ (discarded = true ↔ ∃ i ∈ s.ignore, i.data = d1) := by
  rw [discards, if_pos h, Checked.bind_eq_ok]
  refine exists_congr fun d1 => and_congr_right fun _ => ?_
  have hany : s.ignore.any (·.data = d1) = true ↔ ∃ i ∈ s.ignore, i.data = d1 := by simp
  rw [← hany, Checked.pure_eq_ok, Except.ok.injEq, eq_comm, Bool.eq_iff_iff]

/-- `discards` is the test by which `Run` passes over the rest of the turn. -/
theorem onLData_eq (s : Layer3) (l : LDataPDU) :
    s.onLData l = do
      if ← s.discards l then
        return (s, [])
      else
        let (s', passed) ← s.deliver l
        return (s'.expire, passed) := by
  unfold onLData discards
  split
  · cases l.toPacket with
    | ok d1 => rfl
    | error e => rfl
  · rfl

/-- The entry a frame leaves in the ignore list. -/
def remember (s : Layer3) (seen : CArray) : Layer3 :=
  { s with ignore := s.ignore ++ [⟨seen, s.now + 1000000⟩] }

theorem deliver_cases {s s' : Layer3} {l : LDataPDU} {passed : List Passed}
    (h : s.deliver l = .ok (s', passed)) :
    ∃ seen, l.asRepetition.toPacket = .ok seen ∧ s' = s.remember seen := by
  obtain ⟨seen, hseen, h⟩ := Checked.bind_eq_ok.mp h
  -- the trace and the listeners change nothing in Layer 3
  obtain ⟨-, -, h⟩ := Checked.bind_eq_ok.mp h
  obtain ⟨copies, -, h⟩ := Checked.bind_eq_ok.mp h
  cases h
  exact ⟨seen, hseen, rfl⟩

/-- A turn accepts nothing and at most deletes entries, or it accepts its frame, enters it and
    deletes entries. -/
theorem onLPDU_cases {s s' : Layer3} {l : LPDU} {passed : List Passed} {news : List Accepted}
    (hturn : s.onLPDU l = .ok (s', passed)) (hnews : s.accepts l = .ok news) :
    (news = [] ∧ (s' = s ∨ s' = s.expire)) ∨
      ∃ l1 seen, news = [⟨l1, s.now⟩] ∧ l1.asRepetition.toPacket = .ok seen ∧
        s' = (s.remember seen).expire := by
  cases l with
  | busmonitor l1 =>
      obtain ⟨-, -, hturn⟩ := Checked.bind_eq_ok.mp hturn
      cases hturn
      cases hnews
      exact .inl ⟨rfl, .inr rfl⟩
  | lData l1 =>
      cases hvalid : l1.validLength with
      | false =>
          -- an incomplete frame is no `L_Data`, the turn only deletes
          rw [onLPDU, hvalid] at hturn
          rw [accepts, hvalid] at hnews
          cases hturn
          cases hnews
          exact .inl ⟨rfl, .inr rfl⟩
      | true =>
          rw [onLPDU, hvalid, if_pos rfl, onLData_eq] at hturn
          rw [accepts, hvalid, if_pos rfl] at hnews
          obtain ⟨discarded, hdiscards, hturn⟩ := Checked.bind_eq_ok.mp hturn
          rw [hdiscards, Checked.ok_bind] at hnews
          cases discarded with
          | true =>
              -- `goto wt`: nothing is deleted either
              cases hturn
              cases hnews
              exact .inl ⟨rfl, .inl rfl⟩
          | false =>
              obtain ⟨⟨s₁, passed₁⟩, hdeliver, hturn⟩ := Checked.bind_eq_ok.mp hturn
              cases hturn
              cases hnews
              obtain ⟨seen, hseen, rfl⟩ := deliver_cases hdeliver
              exact .inr ⟨l1, seen, rfl, hseen, rfl⟩
  | unknown | ack | nack | busy =>
      cases hturn
      cases hnews
      exact .inl ⟨rfl, .inr rfl⟩

end Layer3

/-! ## Runs -/

/-- Layer 3 and the frames it has accepted so far. -/
structure Reception where
  layer3 : Layer3
  accepted : List Accepted
  deriving DecidableEq, Repr

/-- What Layer 3 sees between one frame and the next. -/
inductive ReceptionEvent where
  /-- `layer2->Get_L_Data` returns `l`, at a time of its own. -/
  | frame (delay : Nat) (l : LPDU)
  /-- Listeners are registered or deregistered, the default address of Layer 2 or the trace level
      changes. -/
  | tables (broadcast : List Listener) (group : List (Listener × EibAddr))
      (individual : List IndividualInfo) (defaultAddr : EibAddr) (showPrint : Bool)
  deriving DecidableEq, Repr

/-- Layer 3 some time later. -/
def Layer3.later (s : Layer3) (delay : Nat) : Layer3 := { s with now := s.now + delay }

namespace Reception

/-- A new Layer 3: the ignore list is empty. -/
def start (s : Layer3) : Reception where
  layer3 := { s with ignore := [] }
  accepted := []

def step (s : Reception) : ReceptionEvent → Checked Reception
  | .frame delay l => do
      let news ← (s.layer3.later delay).accepts l
      let (layer3, _) ← (s.layer3.later delay).onLPDU l
      return { layer3, accepted := s.accepted ++ news }
  | .tables broadcast group individual defaultAddr showPrint =>
      .ok { s with
        layer3 := { s.layer3 with broadcast, group, individual, defaultAddr, showPrint } }

/-! ## What the suppression is for -/

/-- `l` is marked as repeated, and the same frame was accepted within the second before `now`.
    The check byte is not compared, it follows from the fields. -/
def IsRepetition (s : Reception) (now : Nat) (l : LDataPDU) : Prop :=
  l.repeated = true ∧
    ∃ p ∈ s.accepted, p.frame.asRepetition.SameFrame l ∧ now ≤ p.time + 1000000

/-- The frame that comes in is discarded if and only if it is such a repetition. -/
def DiscardsRepetitions (s : Reception) : ReceptionEvent → Prop
  | .frame delay (.lData l) =>
      l.validLength = true → ∀ discarded, (s.layer3.later delay).discards l = .ok discarded →
        (discarded = true ↔ s.IsRepetition (s.layer3.now + delay) l)
  | _ => True

/-- If the comparison finds entries, one of them has not expired. -/
def FindsFresh (s : Reception) : ReceptionEvent → Prop
  | .frame delay (.lData l) =>
      l.validLength = true → l.repeated = true → ∀ d1, l.toPacket = .ok d1 →
        (∃ i ∈ s.layer3.ignore, i.data = d1) →
          ∃ i ∈ s.layer3.ignore, i.data = d1 ∧ s.layer3.now + delay ≤ i.endTime
  | _ => True

/-! ## The ignore list tracks the history -/

/-- `i` is the entry that `p` leaves. -/
def Entry (i : IgnoreInfo) (p : Accepted) : Prop :=
  p.frame.asRepetition.toPacket = .ok i.data ∧ i.endTime = p.time + 1000000

theorem entry_unique {i j : IgnoreInfo} {p : Accepted} (hi : Entry i p) (hj : Entry j p) :
    i = j := by
  obtain ⟨hdata, htime⟩ := hi
  rw [hj.1] at hdata
  cases i
  cases j
  simp_all [Entry]

/-- The ignore list as a record of the accepted frames. -/
def Recorded (s : Reception) : Prop :=
  Tracks Entry (·.endTime) s.layer3.ignore s.accepted s.layer3.now

theorem recorded_start (s : Layer3) : (start s).Recorded := Tracks.nil

theorem Recorded.step {s s' : Reception} {e : ReceptionEvent} (h : s.Recorded)
    (hstep : s.step e = .ok s') : s'.Recorded := by
  cases e with
  | tables broadcast group individual defaultAddr showPrint =>
      cases hstep
      exact h
  | frame delay l =>
      obtain ⟨news, hnews, hstep⟩ := Checked.bind_eq_ok.mp hstep
      obtain ⟨⟨layer3, passed⟩, hturn, hstep⟩ := Checked.bind_eq_ok.mp hstep
      cases hstep
      -- the delay first, then what the turn does
      have hlater : Tracks Entry (·.endTime) s.layer3.ignore s.accepted
          (s.layer3.later delay).now := h.later (Nat.le_add_right _ _)
      obtain ⟨rfl, rfl | rfl⟩ | ⟨l1, seen, rfl, hseen, rfl⟩ := Layer3.onLPDU_cases hturn hnews
      · rw [Recorded, List.append_nil]
        exact hlater
      · rw [Recorded, List.append_nil]
        exact hlater.purge
      · have hentry : Entry ⟨seen, (s.layer3.later delay).now + 1000000⟩
            ⟨l1, (s.layer3.later delay).now⟩ := ⟨hseen, rfl⟩
        exact (hlater.record hentry fun j hj => entry_unique hj hentry).purge

/-! ## When repetitions are discarded -/

/-- A lookup among the entries that have not expired would be exact. -/
theorem Recorded.isRepetition_iff {s : Reception} (h : s.Recorded) {l : LDataPDU} {d1 : CArray}
    (hrepeated : l.repeated = true) (hd1 : l.toPacket = .ok d1) (delay : Nat) :
    s.IsRepetition (s.layer3.now + delay) l ↔
      ∃ i ∈ s.layer3.ignore, i.data = d1 ∧ s.layer3.now + delay ≤ i.endTime := by
  have hlater := Tracks.later h (Nat.le_add_right s.layer3.now delay)
  rw [hlater.exists_fresh_iff (·.data = d1)]
  constructor
  · -- the accepted frame has left an entry with the bytes of `l`
    rintro ⟨-, p, hp, hsame, hfresh⟩
    have hdata : p.frame.asRepetition.toPacket = .ok d1 :=
      (LDataPDU.toPacket_eq_iff hd1).mpr hsame.symm
    exact ⟨p, hp, ⟨d1, p.time + 1000000⟩, ⟨hdata, rfl⟩, rfl, hfresh⟩
  · -- equal bytes are the same frame
    rintro ⟨p, hp, i, ⟨hdata, htime⟩, rfl, hfresh⟩
    exact ⟨hrepeated, p, hp, (LDataPDU.toPacket_eq_iff hdata).mp hd1, htime ▸ hfresh⟩

/-- No repetition gets through: what fails is only that old entries are found as well. -/
theorem Recorded.discards_of_isRepetition {s : Reception} (h : s.Recorded) {l : LDataPDU}
    {d1 : CArray} {delay : Nat} (hd1 : l.toPacket = .ok d1)
    (hl : s.IsRepetition (s.layer3.now + delay) l) : ∃ i ∈ s.layer3.ignore, i.data = d1 := by
  obtain ⟨i, hi, hdata, -⟩ := (h.isRepetition_iff hl.1 hd1 delay).mp hl
  exact ⟨i, hi, hdata⟩

theorem Recorded.discardsRepetitions_iff {s : Reception} (h : s.Recorded) (e : ReceptionEvent) :
    s.DiscardsRepetitions e ↔ s.FindsFresh e := by
  cases e with
  | tables => exact Iff.rfl
  | frame delay l =>
      cases l with
      | unknown | busmonitor | ack | nack | busy => exact Iff.rfl
      | lData l =>
          refine imp_congr_right fun _ => ?_
          cases hrepeated : l.repeated with
          | false =>
              -- a first transmission is never compared
              refine iff_of_true (fun discarded hd => ?_) (fun h => nomatch h)
              rw [Layer3.discards_of_not_repeated _ hrepeated] at hd
              cases hd
              exact iff_of_false (by simp) fun hl => by simp [hl.1] at hrepeated
          | true =>
              constructor
              · intro hclaim _ d1 hd1 hfound
                have hdiscards : (s.layer3.later delay).discards l = .ok true :=
                  (Layer3.discards_eq_ok_iff hrepeated).mpr ⟨d1, hd1, iff_of_true rfl hfound⟩
                exact (h.isRepetition_iff hrepeated hd1 delay).mp ((hclaim true hdiscards).mp rfl)
              · intro hfresh discarded hdiscards
                obtain ⟨d1, hd1, hfound⟩ := (Layer3.discards_eq_ok_iff hrepeated).mp hdiscards
                rw [hfound]
                constructor
                · intro hentry
                  exact (h.isRepetition_iff hrepeated hd1 delay).mpr (hfresh rfl d1 hd1 hentry)
                · exact h.discards_of_isRepetition hd1

/-- In a run, every frame is discarded exactly if it is a repetition, if and only if the comparison
    never finds expired entries alone. -/
theorem discardsRepetitions_run_iff (s : Layer3) (es : List ReceptionEvent) :
    StepsMeet step DiscardsRepetitions (start s) es ↔
      StepsMeet step FindsFresh (start s) es := by
  have hkeeps : ∀ s e s', Recorded s → step s e = .ok s' → Recorded s' :=
    fun _ _ _ h hstep => h.step hstep
  exact StepsMeet.congr hkeeps (fun _ e h => h.discardsRepetitions_iff e) (recorded_start s)

/-! ## A repetition that comes too late -/

/-- A group telegram and, two seconds later, a repetition of it. -/
def lateRepetition : List ReceptionEvent :=
  let l : LDataPDU := { addrType := .groupAddress, dest := 0x0901, data := [0x00#8, 0x81#8] }
  [.frame 0 (.lData l), .frame 2000000 (.lData l.asRepetition)]

/-- A Layer 3 without listeners. -/
def idle : Layer3 :=
  { broadcast := [], group := [], individual := [], ignore := [], defaultAddr := 0, now := 0
    showPrint := false }

/-- The entry has expired a second ago, but it is found before it is deleted. -/
theorem not_discardsRepetitions_late :
    ¬ StepsMeet step DiscardsRepetitions (start idle) lateRepetition := by
  rintro ⟨-, hrest⟩
  have hlate := (hrest _ rfl).1 rfl true rfl
  obtain ⟨-, p, hp, -, hfresh⟩ := hlate.mp rfl
  cases List.mem_singleton.mp hp
  have hlifetime : 2000000 ≤ 1000000 := hfresh
  omega

end Reception

end BcuSdk.Eibd
