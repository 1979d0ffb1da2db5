/-
  BcuSdk.Eibd.EibdOperations

  The operations behind the calls of the client library, as far as they are
  modelled: `Management_Connection` (eibd/libserver/management.cpp) over a
  `Layer7_Connection`, and the group cache.

  As no telegram is longer than 256 bytes, what they return fits into a message
  for the client.  Two lists have no such bound: the properties of a device and
  the addresses in programming mode.
-/
import BcuSdk.Eibd.GroupCacheSafety
import BcuSdk.Eibd.MemoryBlockWrite
import BcuSdk.Eibd.RemoteCallsSafety

namespace BcuSdk.Eibd

open BcuSdk.Lib BcuSdk.Common

/-! ## `Management_Connection` -/

namespace Layer7Connection

variable {σ : Type} (d : Device σ) (unset : Byte × Byte)

/-- `X_Progmode_On`, `X_Progmode_Off` and `X_Progmode_Toggle`, which differ in what they make of the
    byte. -/
def xProgmode (change : Byte → Byte) (l : Layer7Connection σ) :
    Checked (Layer7Connection σ × Option Unit) := do
  match ← l.aMemoryRead d unset 0x60#16 0x01#8 with
  | (l, none) => return (l, none)
  | (l, some data) =>
      let b ← readByte data 0
      let (l, k) ← l.xMemoryWrite d unset 0x60#16 (data.set 0 (change b))
      return (l, if k ≠ 0 then none else some ())

def xProgmodeOn : Layer7Connection σ → Checked (Layer7Connection σ × Option Unit) :=
  xProgmode d unset fun b => if b &&& 0x01#8 = 0#8 then b ^^^ 0x81#8 else b

def xProgmodeOff : Layer7Connection σ → Checked (Layer7Connection σ × Option Unit) :=
  xProgmode d unset fun b => if b &&& 0x01#8 ≠ 0#8 then b ^^^ 0x81#8 else b

def xProgmodeToggle : Layer7Connection σ → Checked (Layer7Connection σ × Option Unit) :=
  xProgmode d unset fun b => b ^^^ 0x81#8

/-- `X_Progmode_Status`. -/
def xProgmodeStatus (l : Layer7Connection σ) : Checked (Layer7Connection σ × Int) := do
  match ← l.aMemoryRead d unset 0x60#16 0x01#8 with
  | (l, none) => return (l, -1)
  | (l, some data) =>
      let b ← readByte data 0
      return (l, if b &&& 0x01#8 ≠ 0#8 then 1 else 0)

/-- What `X_Get_PEIType` makes of the value of the ADC. -/
def peiType (v : Word16) : Word16 := BitVec.ofInt 16 ((v.toInt * 10 + 16).tdiv 128)

variable {d unset}

/-- A read of memory returns what it was asked for, or nothing. -/
theorem length_of_aMemoryRead {l l' : Layer7Connection σ} {addr : MemAddr} {len : Byte}
    {data : CArray} (h : l.aMemoryRead d unset addr len = .ok (l', some data)) :
    data.length = (len &&& 0x0f#8).toNat := by
  obtain ⟨sent, result, hperform, hread⟩ := aMemoryRead_eq d unset l addr len
  have hresult : ergOf result = some data := (Prod.mk.inj (Except.ok.inj (hread.symm.trans h))).2
  rw [ergOf_eq_some] at hresult
  subst hresult
  exact length_of_perform hperform

variable (d unset) in
theorem aMemoryRead_returns (l : Layer7Connection σ) (addr : MemAddr) (len : Byte) :
    (l.aMemoryRead d unset addr len).Returns := by
  obtain ⟨sent, result, -, hread⟩ := aMemoryRead_eq d unset l addr len
  exact ⟨_, hread⟩

variable (d unset) in
/-- The byte that has been read is there. -/
theorem xProgmode_returns (change : Byte → Byte) (l : Layer7Connection σ) :
    (xProgmode d unset change l).Returns := by
  obtain ⟨⟨l₁, data⟩, hread⟩ := aMemoryRead_returns d unset l 0x60#16 0x01#8
  rw [xProgmode, hread, Checked.ok_bind]
  cases data with
  | none => exact ⟨_, rfl⟩
  | some data =>
      have hlen : data.length = 1 := length_of_aMemoryRead hread
      obtain ⟨⟨l₂, k⟩, hwrite⟩ := xMemoryWrite_returns d unset l₁ 0x60#16
        (show (data.set 0 (change data[0])).length ≤ 12 by rw [List.length_set]; omega)
      dsimp only
      rw [readByte_of_lt (by omega), Checked.ok_bind, hwrite]
      exact ⟨_, rfl⟩

variable (d unset) in
theorem xProgmodeStatus_returns (l : Layer7Connection σ) :
    (xProgmodeStatus d unset l).Returns := by
  obtain ⟨⟨l₁, data⟩, hread⟩ := aMemoryRead_returns d unset l 0x60#16 0x01#8
  rw [xProgmodeStatus, hread, Checked.ok_bind]
  cases data with
  | none => exact ⟨_, rfl⟩
  | some data =>
      have hlen : data.length = 1 := length_of_aMemoryRead hread
      dsimp only
      rw [readByte_of_lt (by omega)]
      exact ⟨_, rfl⟩

variable (d unset) in
/-- `Management_Connection`.  Something lies behind the arrays that `X_Memory_Write_Block` compares;
    a scan need not come to an end, so that it is given from outside. -/
def managementCalls {behind : Behind} (hbehind : behind.Readable) (fresh : Nat → Byte)
    (scan : Layer7Connection σ → Option (List PropertyInfo) × Layer7Connection σ) :
    ManagementCalls (Layer7Connection σ) where
  deviceDescriptorRead := ask d unset maskverOf (.aDeviceDescriptorRead 0#8)
  progmodeOff l := total (xProgmodeOff d unset l) (xProgmode_returns d unset _ l)
  progmodeOn l := total (xProgmodeOn d unset l) (xProgmode_returns d unset _ l)
  progmodeToggle l := total (xProgmodeToggle d unset l) (xProgmode_returns d unset _ l)
  progmodeStatus l := total (xProgmodeStatus d unset l) (xProgmodeStatus_returns d unset l)
  getPEIType := ask d unset (fun r => (valueOf r).map peiType) (.aADCRead 4#8 1#8)
  adcRead channel count := ask d unset valueOf (.aADCRead channel count)
  memoryReadBlock addr len l :=
    total (l.xMemoryReadBlock d unset fresh addr len.toNat)
      (xMemoryReadBlock_returns d unset fresh l addr len.toNat)
  memoryWriteBlock addr data l :=
    total (l.xMemoryWriteBlock d unset behind fresh addr data)
      (xMemoryWriteBlock_returns d unset hbehind fresh l addr data)
  memoryWriteBlockNoVerify addr data l :=
    total (l.aMemoryWriteBlock d unset addr data) (aMemoryWriteBlock_returns d unset l addr data)
  propertyRead obj prop start count := ask d unset ergOf (.aPropertyRead obj prop start count)
  propertyWrite obj prop start count data :=
    ask d unset ergOf (.aPropertyWrite obj prop start count data)
  authorize key := ask d unset levelOf (.aAuthorize key)
  keyWrite key level := ask d unset levelOf (.aKeyWrite key level)
  propertyDesc obj prop :=
    ask d unset (fun r => (descriptionOf r).map fun p => (p.1, p.2.1, p.2.2.1))
      (.aPropertyDesc obj prop 0#8)
  propertyScan := scan
  restart := aRestart d unset

end Layer7Connection

/-! ### What it returns -/

/-- A telegram carries at most 256 bytes. -/
def Device.SendsTelegrams {σ : Type} (d : Device σ) : Prop :=
  ∀ s sent c, (d.answer s sent).2 = some c → c.length ≤ 0x100

/-- The data of a property are what follows six bytes. -/
theorem APDU.length_of_propertyValueResponse {c data : CArray} {obj prop count : Byte}
    {start : Word16} (h : fromPacket c = .aPropertyValueResponse obj prop count start data) :
    c.length = data.length + 6 := by
  obtain ⟨c0, c1, rest, init, rfl, ⟨h0, rfl⟩, hclass, hinit⟩ :=
    (fromPacket_eq_iff (by rintro pdu ⟨⟩)).mp h
  have hpicked : classOf c0 0xD6#8 = some aPropertyValueResponseInit := by simp [classOf, h0]
  rw [hpicked] at hclass
  obtain rfl := Option.some.inj hclass
  unfold aPropertyValueResponseInit propertyValueInit at hinit
  split at hinit
  · next hbytes =>
    cases hbytes
    cases hinit
    rfl
  · cases hinit

namespace Layer7Connection

variable {σ : Type} {d : Device σ} {unset : Byte × Byte}

/-- What is read of a property has come in one telegram. -/
theorem length_of_propertyRead (hd : d.SendsTelegrams) {l : Layer7Connection σ}
    {obj prop count : Byte} {start : Word16} {data : CArray}
    (h : (ask d unset ergOf (.aPropertyRead obj prop start count) l).1 = some data) :
    data.length ≤ 0x100 := by
  obtain ⟨sent, result, hperform, hask⟩ :=
    ask_eq d unset ergOf (.aPropertyRead obj prop start count) l
  rw [hask] at h
  obtain rfl := ergOf_eq_some.mp h
  obtain ⟨p, hp, -, hread⟩ := Layer7Call.perform_eq_some hperform
  rcases ha : APDU.fromPacket p <;> rw [ha] at hread <;> cases hread
  have hlen := APDU.length_of_propertyValueResponse ha
  have hshort := hd _ _ p hp
  omega

/-- A connection over telegrams is bounded as soon as the scan is. -/
theorem managementCalls_bounded (hd : d.SendsTelegrams) {behind : Behind}
    (hbehind : behind.Readable) (fresh : Nat → Byte)
    {scan : Layer7Connection σ → Option (List PropertyInfo) × Layer7Connection σ}
    (hscan : ∀ l ps, (scan l).1 = some ps → ps.length ≤ 10922) :
    (managementCalls d unset hbehind fresh scan).Bounded where
  properties obj prop start count l data hdata := by
    have hlen := length_of_propertyRead hd hdata
    omega
  read addr len l data hdata := by
    obtain ⟨⟨l', result⟩, hread⟩ := xMemoryReadBlock_returns d unset fresh l addr len.toNat
    have hresult : (managementCalls d unset hbehind fresh scan).memoryReadBlock addr len l =
      (result, l') := total_of_ok hread _
    rw [hresult] at hdata
    dsimp only at hdata
    subst hdata
    exact length_of_xMemoryReadBlock hread
  scan := hscan

end Layer7Connection

/-! ## The group cache -/

/-- The data of a group value are those of its telegram. -/
theorem length_of_groupValue {l : LDataPDU} {data : CArray} (h : groupValue l = some data) :
    data.length = l.data.length := by
  have hback := TPDU.toPacket_fromPacket l.data
  unfold groupValue at h
  split at h
  case h_1 value htpdu =>
    obtain rfl : value = data := by
      split at h
      · exact Option.some.inj h
      · cases h
    rw [htpdu] at hback
    obtain ⟨-, -, hbytes⟩ := Checked.bind_eq_ok.mp hback
    rw [← Except.ok.inj hbytes, List.length_modifyHead]
  case h_2 => cases h

namespace GroupCache

variable {g : GroupCache}

/-- The second loop takes at most one address for each place up to `pos`. -/
theorem length_of_collect {fuel : Nat} {start : Word16} {a b : List EibAddr}
    (h : g.collect fuel start a = some b) : b.length ≤ a.length + (g.pos - start).toNat := by
  induction fuel generalizing start a with
  | zero => cases h
  | succ fuel ih =>
      rw [collect] at h
      split at h
      case isTrue hmore =>
        have hlen := ih h
        have hone : (if g.updates.get (slot start) ≠ 0 then a ++ [g.updates.get (slot start)]
            else a).length ≤ a.length + 1 := by
          split <;> simp
        bv_omega
      case isFalse =>
        cases h
        exact Nat.le_add_right ..

/-- The first loop moves towards `pos`. -/
theorem distance_of_skipUnused {fuel : Nat} {start start' : Word16}
    (h : g.skipUnused fuel start = some start') :
    (g.pos - start').toNat ≤ (g.pos - start).toNat := by
  induction fuel generalizing start with
  | zero => cases h
  | succ fuel ih =>
      rw [skipUnused] at h
      split at h
      case isTrue hmore =>
        have hlen := ih h
        have hne := hmore.1
        bv_omega
      case isFalse =>
        cases h
        exact Nat.le_refl _

/-- The window has 256 places. -/
theorem distance_of_windowStart (start : Word16) :
    (g.pos - g.windowStart start).toNat ≤ 0x100 := by
  unfold windowStart
  split_ifs <;> bv_omega

/-- `LastUpdates` returns at most 256 addresses. -/
theorem length_of_lastUpdates {start endPos : Word16} {occurred : Bool} {a : List EibAddr}
    (h : g.lastUpdates start occurred = some (.returned a endPos)) : a.length ≤ 0x100 := by
  rw [lastUpdates] at h
  obtain ⟨start', hskip, h⟩ := Option.bind_eq_some_iff.mp h
  have hwindow := g.distance_of_windowStart start
  have hdistance := distance_of_skipUnused hskip
  split at h
  · obtain ⟨b, hcollect, h⟩ := Option.bind_eq_some_iff.mp h
    cases h
    have hlen := length_of_collect hcollect
    rw [List.length_nil] at hlen
    omega
  · split at h
    · cases h
      exact Nat.zero_le _
    · cases h

/-! ### Reads -/

variable {n : Nat} {addr : EibAddr} {age : Word16} {now : Nat}

/-- What `Read` returns is an entry of the cache or has no data. -/
theorem length_of_readCached (h : g.Sorted) (hvalue : ∀ a v, g.value a = some v → v.1.length ≤ n)
    {timeout : Nat} {r : ReadAnswer} (hr : g.readCached addr timeout age now = .ok (some r)) :
    r.entry.data.length ≤ n := by
  rw [readCached] at hr
  split at hr
  · cases hr
    exact Nat.zero_le _
  · rcases find_cases h addr with ⟨p, c, hf, -, -, hc⟩ | ⟨hf, -, -⟩
    · rw [hf, Checked.ok_bind] at hr
      dsimp only at hr
      split at hr
      · cases hr
        exact hvalue addr _ hc
      · split at hr
        · cases hr
          exact Nat.zero_le _
        · cases hr
    · rw [hf, Checked.ok_bind] at hr
      dsimp only at hr
      split at hr
      · cases hr
        exact Nat.zero_le _
      · cases hr

theorem length_of_readTurn (h : g.Sorted) (hvalue : ∀ a v, g.value a = some v → v.1.length ≤ n)
    {occurred : Bool} {x : GroupCache × Option ReadAnswer}
    (hx : g.readTurn addr age now occurred = .ok x) :
    ∀ r ∈ x.2, r.entry.data.length ≤ n := by
  rw [readTurn] at hx
  rcases find_cases h addr with ⟨p, c, hf, -, -, hc⟩ | ⟨hf, -, -⟩
  · rw [hf, Checked.ok_bind] at hx
    dsimp only at hx
    split at hx
    · cases hx
      rintro r ⟨⟩
      exact hvalue addr _ hc
    · split at hx
      · cases hx
        rintro r ⟨⟩
        exact Nat.zero_le _
      · cases hx
        rintro r ⟨⟩
  · rw [hf, Checked.ok_bind] at hx
    dsimp only at hx
    split at hx
    · cases hx
      rintro r ⟨⟩
      exact Nat.zero_le _
    · cases hx
      rintro r ⟨⟩

end GroupCache

/-- The telegram carries at most `n` bytes. -/
def CacheEvent.Short (n : Nat) : CacheEvent → Prop
  | .telegram l _ => l.data.length ≤ n
  | _ => True

/-- The value that has come or gone has at most `n` bytes. -/
def Happening.Short (n : Nat) : Happening → Prop
  | .telegram _ data _ => data.length ≤ n
  | .answered r => r.entry.data.length ≤ n
  | _ => True

theorem length_of_recorded {n : Nat} {a : EibAddr} {log : List Happening}
    (h : ∀ x ∈ log, x.Short n) {v : CArray × EibAddr} (hv : recorded a log = some v) :
    v.1.length ≤ n := by
  induction log generalizing v with
  | nil => cases hv
  | cons x older ih =>
      obtain ⟨hx, holder⟩ := List.forall_mem_cons.mp h
      cases x with
      | telegram dst data src =>
          rw [recorded] at hv
          split at hv
          · cases hv
            exact hx
          · exact ih holder hv
      | removed addr =>
          rw [recorded] at hv
          split at hv
          · cases hv
          · exact ih holder hv
      | cleared => cases hv
      | timedOut addr =>
          rw [recorded] at hv
          split at hv
          · cases hv
            cases hold : recorded a older with
            | none => exact Nat.zero_le _
            | some v => exact ih holder hold
          · exact ih holder hv
      | answered r => exact ih holder hv

namespace CacheSystem

variable {s s' : CacheSystem} {n : Nat}

/-- The end of a turn logs its answer. -/
theorem endTurn_short {addr : EibAddr} {waiting : List PendingRead}
    {x : GroupCache × Option GroupCache.ReadAnswer} (hlog : ∀ y ∈ s.log, y.Short n)
    (hx : ∀ r ∈ x.2, r.entry.data.length ≤ n) :
    ∀ y ∈ (s.endTurn addr waiting x).log, y.Short n := by
  obtain ⟨g, _ | r⟩ := x
  · exact hlog
  · have hr : Happening.Short n (.answered r) := hx r rfl
    cases r with
    | timedOut c =>
        exact List.forall_mem_cons.mpr ⟨hr, List.forall_mem_cons.mpr ⟨trivial, hlog⟩⟩
    | notEnabled | found c | noEntry a | rereadTimeout a =>
        exact List.forall_mem_cons.mpr ⟨hr, hlog⟩

/-- Telegrams of at most `n` bytes make entries of at most `n` bytes. -/
theorem step_short (hs : s.Sound) (hlog : ∀ x ∈ s.log, x.Short n) {e : CacheEvent}
    (he : e.Short n) (h : s.step e = .ok s') : ∀ x ∈ s'.log, x.Short n := by
  have hvalue : ∀ a v, s.cache.value a = some v → v.1.length ≤ n := fun a v hv =>
    length_of_recorded hlog ((hs.content a).symm.trans hv)
  cases e with
  | start accepted =>
      obtain rfl := Except.ok.inj h
      exact hlog
  | stop | clear =>
      obtain rfl := Except.ok.inj h
      exact List.forall_mem_cons.mpr ⟨trivial, hlog⟩
  | remove addr =>
      obtain ⟨g, -, h⟩ := Checked.bind_eq_ok.mp h
      obtain rfl := Except.ok.inj h
      exact List.forall_mem_cons.mpr ⟨trivial, hlog⟩
  | telegram l now =>
      obtain ⟨g, -, h⟩ := Checked.bind_eq_ok.mp h
      obtain rfl := Except.ok.inj h
      refine List.forall_mem_append.mpr ⟨fun x hx => ?_, hlog⟩
      rw [telegramOf] at hx
      split at hx
      · rcases hdata : groupValue l with _ | data
        · rw [hdata] at hx
          exact absurd hx List.not_mem_nil
        · rw [hdata] at hx
          rw [List.mem_singleton.mp hx]
          exact (length_of_groupValue hdata).trans_le he
      · exact absurd hx List.not_mem_nil
  | read addr timeout age now =>
      obtain ⟨r, hr, h⟩ := Checked.bind_eq_ok.mp h
      rcases r with _ | r
      · obtain ⟨x, hx, h⟩ := Checked.bind_eq_ok.mp h
        obtain rfl := Except.ok.inj h
        exact endTurn_short hlog (GroupCache.length_of_readTurn hs.sorted hvalue hx)
      · obtain rfl := Except.ok.inj h
        exact List.forall_mem_cons.mpr
          ⟨GroupCache.length_of_readCached hs.sorted hvalue hr, hlog⟩
  | wake i now occurred =>
      rw [CacheSystem.step] at h
      rcases hr : s.waiting[i]? with _ | r
      · rw [hr] at h
        obtain rfl := Except.ok.inj h
        exact hlog
      · rw [hr] at h
        obtain ⟨x, hx, h⟩ := Checked.bind_eq_ok.mp h
        obtain rfl := Except.ok.inj h
        exact endTurn_short hlog (GroupCache.length_of_readTurn hs.sorted hvalue hx)

/-- In every run over telegrams of at most `n` bytes a read returns at most `n` bytes. -/
theorem length_of_answered {es : List CacheEvent} (hes : ∀ e ∈ es, e.Short n)
    (hrun : Lib.run CacheSystem.step {} es = .ok s) {r : GroupCache.ReadAnswer}
    (hr : .answered r ∈ s.log) : r.entry.data.length ≤ n := by
  have hstep : ∀ (s : CacheSystem) e s', (s.Sound ∧ ∀ x ∈ s.log, x.Short n) →
      CacheEvent.Short n e → s.step e = .ok s' → s'.Sound ∧ ∀ x ∈ s'.log, x.Short n := by
    intro s e s' hs he h
    obtain ⟨s₁, h₁, hsound⟩ := hs.1.step e
    obtain rfl := Except.ok.inj (h₁.symm.trans h)
    exact ⟨hsound, step_short hs.1 hs.2 he h⟩
  have hinit : ({} : CacheSystem).Sound ∧ ∀ x ∈ ({} : CacheSystem).log, x.Short n :=
    ⟨Sound.init, fun x hx => absurd hx List.not_mem_nil⟩
  have hinv := run_invariant hstep hinit (StepsMeet.of_events hes) hrun
  exact hinv.2 _ hr

end CacheSystem

/-- The operations are those of the modelled cache: a read returns an answer of a run, over
    telegrams of at most 256 bytes, and `LastUpdates` what some round of it returns. -/
structure GroupCacheCalls.Modelled {σ : Type} (c : GroupCacheCalls σ) : Prop where
  read : ∀ dst timeout age s, ∃ es s' r, (∀ e ∈ es, CacheEvent.Short 0x100 e) ∧
    Lib.run CacheSystem.step {} es = .ok s' ∧ .answered r ∈ s'.log ∧
    (c.read dst timeout age s).1 = r.entry
  lastUpdates : ∀ start timeout s, ∃ (g : GroupCache) (start' : Word16) (occurred : Bool),
    g.lastUpdates start' occurred =
      some (.returned (c.lastUpdates start timeout s).1.1 (c.lastUpdates start timeout s).1.2)

/-! ## The eibd -/

namespace ManagementCalls

variable {σ τ : Type} (m : ManagementCalls τ) (get : σ → τ) (put : τ → σ → σ)

/-- An operation on a part of the state. -/
def onPart {α : Type} (f : τ → α × τ) (s : σ) : α × σ := ((f (get s)).1, put (f (get s)).2 s)

/-- The operations on a part of the state. -/
def on : ManagementCalls σ where
  deviceDescriptorRead := onPart get put m.deviceDescriptorRead
  progmodeOff := onPart get put m.progmodeOff
  progmodeOn := onPart get put m.progmodeOn
  progmodeToggle := onPart get put m.progmodeToggle
  progmodeStatus := onPart get put m.progmodeStatus
  getPEIType := onPart get put m.getPEIType
  adcRead channel count := onPart get put (m.adcRead channel count)
  memoryReadBlock addr len := onPart get put (m.memoryReadBlock addr len)
  memoryWriteBlock addr data := onPart get put (m.memoryWriteBlock addr data)
  memoryWriteBlockNoVerify addr data := onPart get put (m.memoryWriteBlockNoVerify addr data)
  propertyRead obj prop start count := onPart get put (m.propertyRead obj prop start count)
  propertyWrite obj prop start count data :=
    onPart get put (m.propertyWrite obj prop start count data)
  authorize key := onPart get put (m.authorize key)
  keyWrite key level := onPart get put (m.keyWrite key level)
  propertyDesc obj prop := onPart get put (m.propertyDesc obj prop)
  propertyScan := onPart get put m.propertyScan
  restart s := put (m.restart (get s)) s

variable {m}

theorem Bounded.on (h : m.Bounded) : (m.on get put).Bounded where
  properties obj prop start count s := h.properties obj prop start count (get s)
  read addr len s := h.read addr len (get s)
  scan s := h.scan (get s)

end ManagementCalls

/-- What the modelled operations return fits into messages, if a device has at most 10922 properties
    and not more than 32766 devices are in programming mode. -/
theorem EibdCalls.bounded_of_modelled {σ τ : Type} {w : EibdCalls σ} {d : EibAddr → Device τ}
    {unset : Byte × Byte} (hd : ∀ dest, (d dest).SendsTelegrams) {behind : Layer7Connection.Behind}
    (hbehind : behind.Readable) (fresh : Nat → Byte)
    {scan : Layer7Connection τ → Option (List PropertyInfo) × Layer7Connection τ}
    (hscan : ∀ l ps, (scan l).1 = some ps → ps.length ≤ 10922)
    (get : EibAddr → σ → Layer7Connection τ) (put : EibAddr → Layer7Connection τ → σ → σ)
    (hconnection : ∀ dest, w.connection dest =
      (Layer7Connection.managementCalls (d dest) unset hbehind fresh scan).on (get dest) (put dest))
    (hindividual : ∀ dest, w.individual dest =
      (Layer7Connection.managementCalls (d dest) unset hbehind fresh scan).on (get dest) (put dest))
    (haddresses : ∀ s, (w.individualAddressRead s).1.length ≤ 32766)
    (hcache : ∀ g ∈ w.cache, g.Modelled) : w.Bounded := by
  have hcalls : ∀ dest,
      ((Layer7Connection.managementCalls (d dest) unset hbehind fresh scan).on
        (get dest) (put dest)).Bounded := fun dest =>
    (Layer7Connection.managementCalls_bounded (hd dest) hbehind fresh hscan).on _ _
  refine ⟨fun dest => ?_, fun dest => ?_, haddresses, fun g hg dst timeout age s => ?_,
    fun g hg start timeout s => ?_⟩
  · rw [hconnection]
    exact hcalls dest
  · rw [hindividual]
    exact (hcalls dest).properties
  · obtain ⟨es, s', r, hes, hrun, hr, hread⟩ := (hcache g hg).read dst timeout age s
    rw [hread]
    exact (CacheSystem.length_of_answered hes hrun hr).trans (by decide)
  · obtain ⟨c, start', occurred, hreturned⟩ := (hcache g hg).lastUpdates start timeout s
    exact (GroupCache.length_of_lastUpdates hreturned).trans (by decide)

end BcuSdk.Eibd
