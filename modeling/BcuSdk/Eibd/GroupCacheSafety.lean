/-
  BcuSdk.Eibd.GroupCacheSafety

  What the group cache holds and what its clients get, over all interleavings
  of clients and telegrams.

  `recorded` reads the value of an address off the log, newest entry first;
  `CacheSystem.Sound` says that the cache has for every address what is
  recorded, that reads were answered with what was recorded, and that the ring
  has the last updates.  Every step returns and keeps it.
-/
import BcuSdk.Eibd.GroupCacheTable

namespace BcuSdk.Eibd

open BcuSdk.Lib

/-! ## The log -/

/-- The value of `a` after what has happened, newest first: that of the last telegram since `a`
    was last removed or the cache cleared, or the negative entry of a read that timed out. -/
def recorded (a : EibAddr) : List Happening → Option (CArray × EibAddr)
  | [] => none
  | .telegram dst data src :: older => if a = dst then some (data, src) else recorded a older
  | .removed addr :: older => if a = addr then none else recorded a older
  | .cleared :: _ => none
  | .timedOut addr :: older =>
      if a = addr then some ((recorded a older).getD ([], 0)) else recorded a older
  | .answered _ :: older => recorded a older

/-- The updates in the log, oldest first. -/
def updated : List Happening → List EibAddr
  | [] => []
  | .telegram dst _ _ :: older => updated older ++ [dst]
  | _ :: older => updated older

/-- Every entry a read has returned was recorded when it was returned. -/
def AnswersRecorded : List Happening → Prop
  | [] => True
  | .answered (.found c) :: older =>
      recorded c.dst older = some (c.data, c.src) ∧ AnswersRecorded older
  | _ :: older => AnswersRecorded older

/-- Nothing from before a clear is recorded after it. -/
theorem recorded_cleared (a : EibAddr) (newer older : List Happening) :
    recorded a (newer ++ .cleared :: older) = recorded a newer := by
  -- `recorded` stops at the clear
  induction newer with
  | nil => rfl
  | cons x newer ih => cases x <;> simp only [List.cons_append, recorded, ih]

theorem AnswersRecorded.found {c : GroupCacheEntry} {newer older : List Happening}
    (h : AnswersRecorded (newer ++ .answered (.found c) :: older)) :
    recorded c.dst older = some (c.data, c.src) := by
  induction newer with
  | nil => exact h.1
  | cons x newer ih =>
      apply ih
      cases x with
      | answered r => cases r <;> first | exact h | exact h.2
      | _ => exact h

namespace CacheSystem

variable {s : CacheSystem}

/-! ## The invariant -/

/-- The cache has what the log says. -/
structure Sound (s : CacheSystem) : Prop where
  sorted : s.cache.Sorted
  content : ∀ a, s.cache.value a = recorded a s.log
  answers : AnswersRecorded s.log
  ring : s.cache.Ring (updated s.log)

theorem Sound.init : Sound {} where
  sorted := List.Pairwise.nil
  content _ := rfl
  answers := trivial
  ring := .init

/-- A read that is answered with an entry of the cache. -/
theorem Sound.answer (h : s.Sound) {waiting : List PendingRead} {r : GroupCache.ReadAnswer}
    (hr : ∀ c, r = .found c → s.cache.value c.dst = some (c.data, c.src)) :
    Sound { s with waiting, log := .answered r :: s.log } where
  sorted := h.sorted
  content := h.content
  answers := by
    cases r with
    | found c => exact ⟨(h.content c.dst).symm.trans (hr c rfl), h.answers⟩
    | _ => exact h.answers
  ring := h.ring

/-- A turn of a read returns, and keeps the invariant. -/
theorem Sound.readTurn (h : s.Sound) (addr : EibAddr) (age : Word16) (now : Nat)
    (occurred : Bool) (waiting : List PendingRead) :
    ∃ r, s.cache.readTurn addr age now occurred = .ok r ∧ (s.endTurn addr waiting r).Sound := by
  rcases GroupCache.find_cases h.sorted addr with ⟨p, c, hf, -, rfl, hvalue⟩ | ⟨hf, hnone, hvalue⟩
  · rw [GroupCache.readTurn, hf, Checked.ok_bind]
    dsimp only
    split
    · exact ⟨_, rfl, h.answer fun c' hc => GroupCache.ReadAnswer.found.inj hc ▸ hvalue⟩
    · split
      · exact ⟨_, rfl, h.answer fun _ hc => nomatch hc⟩
      · exact ⟨_, rfl, h⟩
  · rw [GroupCache.readTurn, hf, Checked.ok_bind]
    dsimp only
    split
    · -- the negative entry
      obtain ⟨hsorted, hadd⟩ := @GroupCache.add_sound s.cache h.sorted
        { src := 0, dst := addr, recvtime := now } hnone
      refine ⟨_, rfl, hsorted, fun a => ?_, h.answers, h.ring.holds, h.ring.count⟩
      rw [endTurn, hadd a, h.content a]
      simp only [recorded]
      split
      case isTrue ha => rw [ha, ← h.content addr, hvalue]; rfl
      case isFalse => rfl
    · exact ⟨_, rfl, h⟩

/-- What a read finds at once is what the cache has. -/
theorem Sound.readCached (h : s.Sound) (addr : EibAddr) (timeout : Nat) (age : Word16)
    (now : Nat) :
    ∃ r, s.cache.readCached addr timeout age now = .ok r ∧
      ∀ c, r = some (.found c) → s.cache.value c.dst = some (c.data, c.src) := by
  rw [GroupCache.readCached]
  split
  · exact ⟨_, rfl, fun _ hc => nomatch hc⟩
  · rcases GroupCache.find_cases h.sorted addr with ⟨p, c, hf, -, rfl, hvalue⟩ | ⟨hf, -, -⟩
    · rw [hf, Checked.ok_bind]
      dsimp only
      -- an entry that is too old counts as none
      split
      · refine ⟨_, rfl, fun c' hc => ?_⟩
        exact GroupCache.ReadAnswer.found.inj (Option.some.inj hc) ▸ hvalue
      · split
        · exact ⟨_, rfl, fun _ hc => nomatch hc⟩
        · exact ⟨_, rfl, fun _ hc => nomatch hc⟩
    · rw [hf, Checked.ok_bind]
      dsimp only
      split
      · exact ⟨_, rfl, fun _ hc => nomatch hc⟩
      · exact ⟨_, rfl, fun _ hc => nomatch hc⟩

/-- Every step returns, and keeps the invariant. -/
theorem Sound.step (h : s.Sound) (e : CacheEvent) : ∃ s', s.step e = .ok s' ∧ s'.Sound := by
  cases e with
  | start accepted =>
      refine ⟨_, rfl, ?_⟩
      show Sound { s with cache := s.cache.start accepted }
      rw [GroupCache.start]
      split
      · exact h
      · exact ⟨h.sorted, h.content, h.answers, h.ring.holds, h.ring.count⟩
  | stop => exact ⟨_, rfl, .nil, fun _ => rfl, h.answers, h.ring.holds, h.ring.count⟩
  | clear => exact ⟨_, rfl, .nil, fun _ => rfl, h.answers, h.ring.holds, h.ring.count⟩
  | remove addr =>
      obtain ⟨g, hg, hsorted, hvalue, hrest⟩ := GroupCache.remove_sound h.sorted addr
      refine ⟨{ s with cache := g, log := .removed addr :: s.log }, ?_, hsorted, fun a => ?_,
        h.answers, ?_⟩
      · rw [CacheSystem.step, hg]
        rfl
      · rw [hvalue a, h.content a]
        rfl
      · rw [hrest]
        exact ⟨h.ring.holds, h.ring.count⟩
  | telegram l now =>
      -- a frame changes the array only in an enabled cache, and only with a group value
      obtain ⟨g, hg, hsorted, -, heffect⟩ := GroupCache.getLData_sound h.sorted l now
      refine ⟨{ s with cache := g, log := telegramOf s.cache.enable l ++ s.log }, ?_, ?_⟩
      · rw [CacheSystem.step, hg]
        rfl
      · rw [telegramOf]
        rcases henable : s.cache.enable with _ | _
        · rw [henable] at heffect
          obtain rfl := heffect
          exact ⟨h.sorted, h.content, h.answers, h.ring⟩
        · rcases hdata : groupValue l with _ | data
          · rw [henable, hdata] at heffect
            obtain rfl := heffect
            exact ⟨h.sorted, h.content, h.answers, h.ring⟩
          · rw [henable, hdata] at heffect
            obtain ⟨hvalue, hpos, hupdates⟩ := heffect
            have hring := h.ring.noteUpdate l.dest
            refine ⟨hsorted, fun a => ?_, h.answers, ?_, ?_⟩
            · exact (hvalue a).trans (by rw [h.content a]; rfl)
            · exact hupdates ▸ hring.holds
            · exact hpos ▸ hring.count
  | read addr timeout age now =>
      obtain ⟨r, hr, hfound⟩ := h.readCached addr timeout age now
      rcases r with _ | r
      -- not in the cache: the read takes its first turn at once, and waits
      · have hpending : Sound { s with waiting := s.waiting ++ [{ addr, age }] } :=
          ⟨h.sorted, h.content, h.answers, h.ring⟩
        obtain ⟨x, hx, hsound⟩ := hpending.readTurn addr age now false s.waiting
        refine ⟨_, ?_, hsound⟩
        rw [CacheSystem.step, hr, Checked.ok_bind]
        dsimp only
        rw [hx]
        rfl
      · refine ⟨{ s with log := .answered r :: s.log }, ?_,
          h.answer fun c hc => hfound c (hc ▸ rfl)⟩
        rw [CacheSystem.step, hr]
        rfl
  | wake i now occurred =>
      rw [CacheSystem.step]
      rcases s.waiting[i]? with _ | r
      · exact ⟨s, rfl, h⟩
      · obtain ⟨x, hx, hsound⟩ := h.readTurn r.addr r.age now occurred (s.waiting.eraseIdx i)
        refine ⟨_, ?_, hsound⟩
        dsimp only
        rw [hx]
        rfl

/-- Whatever clients and the bus do, every state reached is sound. -/
theorem Sound.run (h : s.Sound) (es : List CacheEvent) :
    ∃ s', Lib.run CacheSystem.step s es = .ok s' ∧ s'.Sound :=
  run_returns (fun _ e hs _ => hs.step e) h
    (StepsMeet.of_events (P := fun _ => True) fun _ _ => trivial)

/-! ## What the cache holds -/

/-- After any sequence of operations the array is sorted, the binary search finds exactly what
    is there, and what is there is what has been recorded. -/
theorem cache_holds_recorded (es : List CacheEvent) :
    ∃ s, Lib.run CacheSystem.step {} es = .ok s ∧
      s.cache.cache.Pairwise (fun c c' => c.dst.toNat < c'.dst.toNat) ∧
      ∀ a, ((∃ x, s.cache.find a = .ok (some x)) ↔ ∃ c ∈ s.cache.cache, c.dst = a) ∧
        (∃ x, s.cache.find a = .ok x ∧
          x.map (fun c => (c.2.dst, c.2.data, c.2.src)) =
            (recorded a s.log).map fun v => (a, v.1, v.2)) := by
  obtain ⟨s, hrun, hs⟩ := Sound.init.run es
  refine ⟨s, hrun, hs.sorted, fun a => ?_⟩
  rw [← hs.content a]
  rcases GroupCache.find_cases hs.sorted a with ⟨p, c, hf, hget, hdst, hvalue⟩ | ⟨hf, hnone, hvalue⟩
  · refine ⟨iff_of_true ⟨_, hf⟩ ⟨c, List.mem_of_getElem? hget, hdst⟩, _, hf, ?_⟩
    rw [hvalue, ← hdst]
    rfl
  · refine ⟨iff_of_false ?_ fun ⟨c, hc, hdst⟩ => hnone c hc hdst, _, hf, by rw [hvalue]; rfl⟩
    rintro ⟨x, hx⟩
    cases Except.ok.inj (hf.symm.trans hx)

/-! ## The disabled cache -/

/-- A read times out while the cache is disabled. -/
def LateTimeout (s : CacheSystem) (e : CacheEvent) : Prop :=
  s.cache.enable = false ∧ ∃ i now, e = .wake i now true ∧ i < s.waiting.length

/-- A disabled cache has no entries. -/
def DisabledEmpty (s : CacheSystem) : Prop := s.cache.enable = false → s.cache.cache = []

/-- A turn of a read never enables or disables the cache, and changes it only at its timeout. -/
theorem readTurn_frame {g : GroupCache} {addr : EibAddr} {age : Word16} {now : Nat}
    {occurred : Bool} {x : GroupCache × Option GroupCache.ReadAnswer}
    (h : g.readTurn addr age now occurred = .ok x) :
    x.1.enable = g.enable ∧ (occurred = false → x.1 = g) := by
  obtain ⟨found, -, h⟩ := Checked.bind_eq_ok.mp h
  rcases found with _ | ⟨p, c⟩
  · dsimp only at h
    split at h
    case isTrue hocc =>
      cases h
      exact ⟨rfl, fun hno => nomatch hno.symm.trans hocc⟩
    case isFalse =>
      cases h
      exact ⟨rfl, fun _ => rfl⟩
  · dsimp only at h
    split at h
    · cases h
      exact ⟨rfl, fun _ => rfl⟩
    · split at h <;> (cases h; exact ⟨rfl, fun _ => rfl⟩)

theorem endTurn_cache (s : CacheSystem) (addr : EibAddr) (waiting : List PendingRead)
    (x : GroupCache × Option GroupCache.ReadAnswer) :
    (s.endTurn addr waiting x).cache = x.1 := by
  obtain ⟨g, _ | r⟩ := x
  · rfl
  · cases r <;> rfl

/-- A late timeout leaves an entry in the disabled cache. -/
theorem lateTimeout_breaks {s' : CacheSystem} {e : CacheEvent} (hq : DisabledEmpty s)
    (hlate : LateTimeout s e) (h : s.step e = .ok s') : ¬ DisabledEmpty s' := by
  obtain ⟨hdisabled, i, now, rfl, hi⟩ := hlate
  have hempty := hq hdisabled
  have hfind : ∀ addr, s.cache.find addr = .ok none := fun addr => by
    rw [GroupCache.find, hempty]
    rfl
  rw [CacheSystem.step, List.getElem?_eq_getElem hi] at h
  simp only [GroupCache.readTurn, hfind, Checked.ok_bind, if_true] at h
  obtain rfl := Except.ok.inj h
  intro hstill
  have hcache : (insertSorted GroupCacheEntry.key
      { src := 0, dst := s.waiting[i].addr, recvtime := now } s.cache.cache) = [] :=
    hstill hdisabled
  rw [hempty] at hcache
  exact absurd hcache (List.cons_ne_nil _ _)

/-- No other step does. -/
theorem disabledEmpty_step {s' : CacheSystem} {e : CacheEvent} (hs : s.Sound) (hq : DisabledEmpty s)
    (hlate : ¬ LateTimeout s e) (h : s.step e = .ok s') : DisabledEmpty s' := by
  intro hoff
  cases e with
  | start accepted =>
      obtain rfl := Except.ok.inj h
      have hoff : (s.cache.start accepted).enable = false := hoff
      show (s.cache.start accepted).cache = []
      rw [GroupCache.start] at hoff ⊢
      split at hoff
      · rw [if_pos (by assumption)]
        exact hq hoff
      · cases hoff
  | stop =>
      obtain rfl := Except.ok.inj h
      rfl
  | clear =>
      obtain rfl := Except.ok.inj h
      rfl
  | remove addr =>
      obtain ⟨g, hg, h⟩ := Checked.bind_eq_ok.mp h
      obtain rfl := Except.ok.inj h
      obtain ⟨found, hfound, hg⟩ := Checked.bind_eq_ok.mp hg
      cases found with
      | none =>
          obtain rfl := Except.ok.inj hg
          exact hq hoff
      | some p =>
          obtain rfl := Except.ok.inj hg
          show s.cache.cache.eraseIdx p = []
          rw [hq hoff, List.eraseIdx_nil]
  | telegram l now =>
      obtain ⟨g, hg, h⟩ := Checked.bind_eq_ok.mp h
      obtain rfl := Except.ok.inj h
      obtain ⟨g', hg', -, henable, heffect⟩ := GroupCache.getLData_sound hs.sorted l now
      obtain rfl := Except.ok.inj (hg.symm.trans hg')
      have hdisabled : s.cache.enable = false := henable ▸ hoff
      rw [hdisabled] at heffect
      obtain rfl := heffect
      exact hq hdisabled
  | read addr timeout age now =>
      obtain ⟨r, hr, h⟩ := Checked.bind_eq_ok.mp h
      rcases r with _ | r
      · obtain ⟨x, hx, h⟩ := Checked.bind_eq_ok.mp h
        obtain rfl := Except.ok.inj h
        rw [endTurn_cache] at hoff
        -- a read of a disabled cache does not get this far
        have hdisabled : s.cache.enable = false := (readTurn_frame hx).1 ▸ hoff
        rw [GroupCache.readCached, if_pos hdisabled] at hr
        cases hr
      · obtain rfl := Except.ok.inj h
        exact hq hoff
  | wake i now occurred =>
      rw [CacheSystem.step] at h
      rcases hr : s.waiting[i]? with _ | r
      · rw [hr] at h
        obtain rfl := Except.ok.inj h
        exact hq hoff
      · rw [hr] at h
        obtain ⟨x, hx, h⟩ := Checked.bind_eq_ok.mp h
        obtain rfl := Except.ok.inj h
        rw [endTurn_cache] at hoff ⊢
        obtain ⟨henable, hsame⟩ := readTurn_frame hx
        have hdisabled : s.cache.enable = false := henable ▸ hoff
        have hocc : occurred = false := by
          by_contra hocc
          obtain rfl : occurred = true := by simpa using hocc
          exact hlate ⟨hdisabled, i, now, rfl, (List.getElem?_eq_some_iff.mp hr).1⟩
        rw [hsame hocc]
        exact hq hdisabled

/-- In a run a disabled cache stays empty exactly as long as no read times out while it is
    disabled.  What a read finds was in any case recorded after the last `Stop` or `Clear`. -/
theorem disabledEmpty_iff_no_lateTimeout (es : List CacheEvent) :
    (HoldsAlong CacheSystem.step DisabledEmpty {} es ↔
      StepsMeet CacheSystem.step (fun s e => ¬ LateTimeout s e) {} es) ∧
    ∃ s, Lib.run CacheSystem.step {} es = .ok s ∧
      ∀ newer c between older,
        s.log = newer ++ .answered (.found c) :: (between ++ .cleared :: older) →
        recorded c.dst between = some (c.data, c.src) := by
  refine ⟨holdsAlong_iff (E := fun _ => True) (fun s e s' (hs : s.Sound) _ h => ?_)
    (fun s e hs _ _ hfault => ?_) (fun s e s' hs hq _ h => ?_) (fun _ _ => trivial) Sound.init
    (fun _ => rfl), ?_⟩
  · obtain ⟨s₁, h₁, hs₁⟩ := hs.step e
    exact Except.ok.inj (h₁.symm.trans h) ▸ hs₁
  · obtain ⟨s₁, h₁, -⟩ := hs.step e
    exact absurd h₁ (hfault s₁)
  · exact ⟨fun hq' hlate => lateTimeout_breaks hq hlate h hq', fun hlate =>
      disabledEmpty_step hs hq hlate h⟩
  · obtain ⟨s, hrun, hs⟩ := Sound.init.run es
    refine ⟨s, hrun, fun newer c between older hlog => ?_⟩
    have hanswers := hs.answers
    rw [hlog] at hanswers
    rw [← recorded_cleared c.dst between older]
    exact hanswers.found

/-- A client reads an address nobody answers for, another one disables the cache meanwhile, and
    the read times out. -/
def lateTimeoutRun : List CacheEvent :=
  [.start true, .read 0x0905#16 1 0#16 100, .stop, .wake 0 101 true]

/-- The disabled cache has the negative entry of the read, and after the next `Start` the entry
    is returned although the bus was never asked again. -/
theorem lateTimeoutRun_leaves_entry :
    (∃ s, Lib.run CacheSystem.step {} lateTimeoutRun = .ok s ∧ s.cache.enable = false ∧
      s.cache.cache = [{ src := 0, dst := 0x0905#16, recvtime := 101 }]) ∧
    ∃ s, Lib.run CacheSystem.step {}
        (lateTimeoutRun ++ [.start true, .read 0x0905#16 1 0#16 200]) = .ok s ∧
      s.log.head? = some (.answered (.found { src := 0, dst := 0x0905#16, recvtime := 101 })) := by
  exact ⟨⟨_, rfl, rfl, rfl⟩, _, rfl, rfl⟩

/-! ## The last updates -/

/-- Layer 3 delivers no telegram to address 0 to a group listener. -/
def DestNonzero : CacheEvent → Prop
  | .telegram l _ => l.dest ≠ 0
  | _ => True

theorem updated_append (newer older : List Happening) :
    updated (newer ++ older) = updated older ++ updated newer := by
  induction newer with
  | nil => exact (List.append_nil _).symm
  | cons x newer ih =>
      cases x with
      | telegram dst data src =>
          rw [List.cons_append, updated, ih, updated, List.append_assoc]
      | _ => exact ih

theorem endTurn_log (s : CacheSystem) (addr : EibAddr) (waiting : List PendingRead)
    (x : GroupCache × Option GroupCache.ReadAnswer) :
    ∃ newer, (s.endTurn addr waiting x).log = newer ++ s.log ∧ updated newer = [] := by
  obtain ⟨g, _ | r⟩ := x
  · exact ⟨[], rfl, rfl⟩
  · cases r with
    | timedOut c => exact ⟨[.answered (.timedOut c), .timedOut addr], rfl, rfl⟩
    | notEnabled | found c | noEntry a | rereadTimeout a => exact ⟨[.answered _], rfl, rfl⟩

/-- The log only grows, and with the assumption on Layer 3 by updates of real addresses. -/
theorem step_log {s' : CacheSystem} {e : CacheEvent} (h : s.step e = .ok s') :
    ∃ newer, s'.log = newer ++ s.log ∧ (DestNonzero e → ∀ d ∈ updated newer, d ≠ 0) := by
  -- all but the telegrams log no update
  have hquiet : ∀ newer, s'.log = newer ++ s.log → updated newer = [] →
      ∃ newer, s'.log = newer ++ s.log ∧ (DestNonzero e → ∀ d ∈ updated newer, d ≠ 0) :=
    fun newer hlog hnone => ⟨newer, hlog, fun _ d hd => absurd (hnone ▸ hd) List.not_mem_nil⟩
  cases e with
  | start accepted =>
      obtain rfl := Except.ok.inj h
      exact hquiet [] rfl rfl
  | stop | clear =>
      obtain rfl := Except.ok.inj h
      exact hquiet [.cleared] rfl rfl
  | remove addr =>
      obtain ⟨g, -, h⟩ := Checked.bind_eq_ok.mp h
      obtain rfl := Except.ok.inj h
      exact hquiet [.removed addr] rfl rfl
  | telegram l now =>
      obtain ⟨g, -, h⟩ := Checked.bind_eq_ok.mp h
      obtain rfl := Except.ok.inj h
      refine ⟨telegramOf s.cache.enable l, rfl, fun hne d hd => ?_⟩
      rw [telegramOf] at hd
      split at hd
      -- the one update is the destination of the frame
      · rcases hvalue : groupValue l with _ | data
        · rw [hvalue] at hd
          exact absurd hd List.not_mem_nil
        · rw [hvalue] at hd
          rw [List.mem_singleton.mp hd]
          exact hne
      · exact absurd hd List.not_mem_nil
  | read addr timeout age now =>
      obtain ⟨r, -, h⟩ := Checked.bind_eq_ok.mp h
      rcases r with _ | r
      · obtain ⟨x, -, h⟩ := Checked.bind_eq_ok.mp h
        obtain rfl := Except.ok.inj h
        obtain ⟨newer, hlog, hnone⟩ := endTurn_log
          { s with waiting := s.waiting ++ [{ addr, age }] } addr s.waiting x
        exact hquiet newer hlog hnone
      · obtain rfl := Except.ok.inj h
        exact hquiet [.answered r] rfl rfl
  | wake i now occurred =>
      rw [CacheSystem.step] at h
      rcases hr : s.waiting[i]? with _ | r
      · rw [hr] at h
        obtain rfl := Except.ok.inj h
        exact hquiet [] rfl rfl
      · rw [hr] at h
        obtain ⟨x, -, h⟩ := Checked.bind_eq_ok.mp h
        obtain rfl := Except.ok.inj h
        obtain ⟨newer, hlog, hnone⟩ := endTurn_log s r.addr (s.waiting.eraseIdx i) x
        exact hquiet newer hlog hnone

/-- Over a run the updates are those from before, and then those of the run. -/
theorem run_updated {s' : CacheSystem} {es : List CacheEvent}
    (h : Lib.run CacheSystem.step s es = .ok s') (hes : ∀ e ∈ es, DestNonzero e) :
    ∃ new, updated s'.log = updated s.log ++ new ∧ ∀ d ∈ new, d ≠ 0 := by
  induction es generalizing s with
  | nil =>
      cases h
      exact ⟨[], (List.append_nil _).symm, fun _ hd => absurd hd List.not_mem_nil⟩
  | cons e es ih =>
      obtain ⟨s₁, h₁, hrest⟩ := Checked.bind_eq_ok.mp h
      obtain ⟨newer, hlog, hne⟩ := step_log h₁
      obtain ⟨new, hnew, hnonzero⟩ := ih hrest fun x hx => hes x (List.mem_cons_of_mem _ hx)
      exact ⟨updated newer ++ new, by rw [hnew, hlog, updated_append, List.append_assoc],
        List.forall_mem_append.mpr ⟨hne (hes e (List.mem_cons_self ..)), hnonzero⟩⟩

/-- What a round of `LastUpdates` returns that starts where an earlier call ended. -/
theorem Sound.lastUpdates (h : s.Sound) {old new : List EibAddr} (hlog : updated s.log = old ++ new)
    (hnonzero : ∀ d ∈ updated s.log, d ≠ 0) (hlt : new.length < 0x10000) (occurred : Bool) :
    s.cache.lastUpdates (BitVec.ofNat 16 old.length) occurred =
      some (if new = [] ∧ occurred = false then .waits s.cache.pos
        else .returned (new.drop (new.length - 0x100)) s.cache.pos) := by
  have hring := h.ring
  rw [hlog] at hring hnonzero
  have hle : new.length ≤ (old ++ new).length := by rw [List.length_append]; omega
  have hround := GroupCache.lastUpdates_eq hring hnonzero hle hlt occurred
  have hstart : (old ++ new).length - new.length = old.length := by
    rw [List.length_append]
    omega
  have hedge : (old ++ new).length - min new.length 0x100 =
      old.length + (new.length - 0x100) := by
    rw [List.length_append]
    omega
  rw [hstart, hedge, ← List.drop_drop, List.drop_left] at hround
  rw [hround]
  simp only [List.length_eq_zero_iff]

/-- A client that asks after each batch of events for the updates, each time from where the last
    answer ended, and gets what there is. -/
def polls (s : CacheSystem) (start : Word16) :
    List (List CacheEvent) → Option (List EibAddr × CacheSystem)
  | [] => some ([], s)
  | es :: batches =>
      match Lib.run CacheSystem.step s es with
      | .error _ => none
      | .ok s' =>
          match s'.cache.lastUpdates start true with
          | some (.returned a endPos) =>
              (polls s' endPos batches).map fun rest => (a ++ rest.1, rest.2)
          | _ => none

/-- No more updates between two polls than the ring has slots. -/
def BatchesFit : CacheSystem → List (List CacheEvent) → Prop
  | _, [] => True
  | s, es :: batches => ∀ s', Lib.run CacheSystem.step s es = .ok s' →
      (updated s'.log).length ≤ (updated s.log).length + 0x100 ∧ BatchesFit s' batches

/-- The answers together are all updates, in order. -/
theorem Sound.polls (h : s.Sound) (hnonzero : ∀ d ∈ updated s.log, d ≠ 0)
    {batches : List (List CacheEvent)} (hes : ∀ es ∈ batches, ∀ e ∈ es, DestNonzero e)
    (hfit : BatchesFit s batches) :
    ∃ a s', CacheSystem.polls s s.cache.pos batches = some (a, s') ∧
      updated s'.log = updated s.log ++ a := by
  induction batches generalizing s with
  | nil => exact ⟨[], s, rfl, (List.append_nil _).symm⟩
  | cons es batches ih =>
      obtain ⟨s₁, h₁, hs₁⟩ := h.run es
      obtain ⟨new, hnew, hnewne⟩ := run_updated h₁ (hes es (List.mem_cons_self ..))
      obtain ⟨hlen, hfit₁⟩ := hfit s₁ h₁
      have hnonzero₁ : ∀ d ∈ updated s₁.log, d ≠ 0 := by
        rw [hnew]
        exact List.forall_mem_append.mpr ⟨hnonzero, hnewne⟩
      have hsmall : new.length ≤ 0x100 := by
        rw [hnew, List.length_append] at hlen
        omega
      -- the batch fits into the window, so that the answer is all of it
      have hround := hs₁.lastUpdates hnew hnonzero₁ (by omega) true
      rw [← h.ring.count, Nat.sub_eq_zero_of_le hsmall, List.drop_zero,
        if_neg (fun hno => nomatch hno.2)] at hround
      obtain ⟨a, s', hpolls, hall⟩ := ih hs₁ hnonzero₁
        (fun es' hmem => hes es' (List.mem_cons_of_mem _ hmem)) hfit₁
      refine ⟨new ++ a, s', ?_, by rw [hall, hnew, List.append_assoc]⟩
      rw [CacheSystem.polls, h₁]
      dsimp only
      rw [hround]
      dsimp only
      rw [hpolls]
      rfl

/-- `LastUpdates`, from where an earlier call ended with fewer than 65536 updates in between, has
    the last 256 of them at most; polling misses nothing and repeats nothing as long as no more
    than 256 come between two polls; and its loops end, whatever `start` the client asks for. -/
theorem lastUpdates_exact :
    (∀ es₁ es₂ : List CacheEvent, (∀ e ∈ es₁ ++ es₂, DestNonzero e) →
      ∃ s₁ s₂ new, Lib.run CacheSystem.step {} es₁ = .ok s₁ ∧
        Lib.run CacheSystem.step s₁ es₂ = .ok s₂ ∧ updated s₂.log = updated s₁.log ++ new ∧
        ∀ start occurred₁ a endPos,
          s₁.cache.lastUpdates start occurred₁ = some (.returned a endPos) →
          new.length < 65536 → ∀ occurred,
          s₂.cache.lastUpdates endPos occurred =
            some (if new = [] ∧ occurred = false then .waits endPos
              else .returned (new.drop (new.length - 256)) s₂.cache.pos)) ∧
    (∀ (es : List CacheEvent) (batches : List (List CacheEvent)),
      (∀ e ∈ es, DestNonzero e) → (∀ es' ∈ batches, ∀ e ∈ es', DestNonzero e) →
      ∃ s, Lib.run CacheSystem.step {} es = .ok s ∧
        (BatchesFit s batches → ∃ a s',
          CacheSystem.polls s s.cache.pos batches = some (a, s') ∧
            updated s'.log = updated s.log ++ a)) ∧
    ∀ (g : GroupCache) start occurred, ∃ r, g.lastUpdates start occurred = some r := by
  refine ⟨fun es₁ es₂ hes => ?_, fun es batches hes hbatches => ?_,
    GroupCache.lastUpdates_ends⟩
  · obtain ⟨s₁, h₁, hs₁⟩ := Sound.init.run es₁
    obtain ⟨s₂, h₂, hs₂⟩ := hs₁.run es₂
    obtain ⟨old, hold, holdne⟩ := run_updated h₁ fun e he => hes e (List.mem_append_left _ he)
    obtain ⟨new, hnew, hnewne⟩ := run_updated h₂ fun e he => hes e (List.mem_append_right _ he)
    refine ⟨s₁, s₂, new, h₁, h₂, hnew, fun start occurred₁ a endPos hend hlt occurred => ?_⟩
    have hnonzero : ∀ d ∈ updated s₂.log, d ≠ 0 := by
      rw [hnew, hold]
      exact List.forall_mem_append.mpr ⟨holdne, hnewne⟩
    rw [GroupCache.endPos_eq hend, hs₁.ring.count, hs₂.lastUpdates hnew hnonzero hlt occurred]
    -- without an update in between `pos` has not moved
    by_cases hwait : new = [] ∧ occurred = false
    · have hpos : s₂.cache.pos = BitVec.ofNat 16 (updated s₁.log).length := by
        rw [hs₂.ring.count, hnew, hwait.1, List.append_nil]
      rw [if_pos hwait, if_pos hwait, hpos]
    · rw [if_neg hwait, if_neg hwait]
  · obtain ⟨s, h, hs⟩ := Sound.init.run es
    obtain ⟨old, hold, holdne⟩ := run_updated h hes
    exact ⟨s, h, hs.polls (by rw [hold]; exact holdne) hbatches⟩

/-- A switch is turned on. -/
def switchOn (dest : EibAddr) : LDataPDU where
  addrType := .groupAddress
  source := 0x1101#16
  dest := dest
  data := [0x00#8, 0x81#8]

/-- Two of them, in this order. -/
def twoUpdates : List CacheEvent :=
  [.telegram (switchOn 0x0905#16) 100, .telegram (switchOn 0x0906#16) 101]

/-- A client that asked before they came gets both. -/
theorem lastUpdates_twoUpdates : ∃ s₁ s₂, Lib.run CacheSystem.step {} [.start true] = .ok s₁ ∧
    s₁.cache.lastUpdates 0#16 true = some (.returned [] 0#16) ∧
    Lib.run CacheSystem.step s₁ twoUpdates = .ok s₂ ∧
    s₂.cache.lastUpdates 0#16 true = some (.returned [0x0905#16, 0x0906#16] s₂.cache.pos) := by
  have hnonzero : ∀ e ∈ [.start true] ++ twoUpdates, DestNonzero e := by
    simp [twoUpdates, DestNonzero, switchOn]
  obtain ⟨s₁, s₂, new, h₁, h₂, hnew, hall⟩ := lastUpdates_exact.1 [.start true] twoUpdates hnonzero
  obtain rfl := Except.ok.inj h₁
  obtain rfl := Except.ok.inj h₂
  have hempty : ({ enable := true } : GroupCache).lastUpdates 0#16 true =
      some (.returned [] 0#16) := by
    decide +kernel
  obtain rfl : [0x0905#16, 0x0906#16] = new := hnew
  exact ⟨_, _, rfl, hempty, rfl, hall 0#16 true [] 0#16 hempty (by decide) true⟩

end CacheSystem

end BcuSdk.Eibd
