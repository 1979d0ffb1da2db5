/-
  BcuSdk.Eibd.PropertyScan

  `X_PropertyScan` of eibd/libserver/management.cpp.

  The scan asks for the properties of an object one after the other until the
  device says that there is none, and then goes on with the next object; an
  object that has none at all ends it.  Both counters are bytes, and nothing
  but the answers of the device keeps them from starting again at 0.
-/
import BcuSdk.Eibd.Layer7Device
import BcuSdk.Eibd.ManagementSession
import BcuSdk.Lib.Loop

namespace BcuSdk.Eibd

open BcuSdk.Lib

/-- The variables of `X_PropertyScan`. -/
structure PropertyScan (σ : Type) where
  conn : Layer7Connection σ
  obj : Byte := 0#8
  i : Byte := 0#8
  /-- `p`. -/
  found : List PropertyInfo := []
  /-- What has been returned. -/
  result : Option Int := none

/-- The pairs of object and index that have been asked for. -/
def asked (services : List Service) : List (Byte × Byte) :=
  services.filterMap fun
    | .call (.aPropertyDesc obj _ propertyIndex) _ => some (obj, propertyIndex)
    | _ => none

@[simp] theorem asked_append (services services' : List Service) :
    asked (services ++ services') = asked services ++ asked services' :=
  List.filterMap_append

namespace PropertyScan

variable {σ : Type} (d : Device σ) (unset : Byte × Byte)

/-- `(a[0] << 8) | (a[1])`, if `a` has two bytes. -/
def objectType : Option CArray → Option Word16
  | some [a0, a1] => some (word16 a0 a1)
  | _ => none

/-- `p1`; for the object type, a property of type 4, the count is its value.  `none` is the return
    of -1. -/
def describe (l : Layer7Connection σ) (obj i : Byte) :
    Checked (Layer7Connection σ × Option PropertyInfo) := do
  match ← l.aPropertyDesc d unset obj 0#8 i with
  | (l, none) => return (l, none)
  | (l, some (type, count, access, property)) =>
      if property = 1#8 ∧ type = 4#8 then
        let (l, a) ← l.aPropertyRead d unset obj 1#8 1#16 1#8
        return (l, (objectType a).map fun count => { obj, property, type, count, access })
      else return (l, some { obj, property, type, count, access })

/-- A pass of the inner loop, with the end of one of the outer loop behind it. -/
def pass (s : PropertyScan σ) : Checked (PropertyScan σ) := do
  match ← describe d unset s.conn s.obj s.i with
  | (conn, none) => return { s with conn, result := some (-1) }
  | (conn, some p1) =>
      let i := s.i + 1#8
      if p1.property ≠ 0#8 then return { s with conn, i, found := s.found ++ [p1] }
      else if i ≠ 1#8 then return { s with conn, obj := s.obj + 1#8, i := 0#8 }
      else return { s with conn, obj := s.obj + 1#8, i, result := some 0 }

/-- The scan has returned. -/
def done (s : PropertyScan σ) : Bool := s.result.isSome

/-- The begin of a scan. -/
def start (l : Layer7Connection σ) : PropertyScan σ := { conn := l }

/-! ## One pass -/

/-- A description, and perhaps a property read: one pair has been asked for. -/
theorem describe_spec (l : Layer7Connection σ) (obj i : Byte) :
    ∃ l' p, describe d unset l obj i = .ok (l', p) ∧
      asked l'.services = asked l.services ++ [(obj, i)] := by
  obtain ⟨sent, result, -, hdesc⟩ :=
    Layer7Connection.aPropertyDesc_eq d unset l obj 0#8 i
  have hone : asked (l.services ++ [.call (.aPropertyDesc obj 0#8 i) result]) =
      asked l.services ++ [(obj, i)] := by
    rw [asked_append]
    rfl
  rw [describe, hdesc, Checked.ok_bind]
  rcases Layer7Connection.descriptionOf result with _ | ⟨type, count, access, property⟩
  · exact ⟨_, none, rfl, hone⟩
  -- for a property with the type of the object the value is read as well
  · by_cases htype : property = 1#8 ∧ type = 4#8
    · obtain ⟨device, result', hread⟩ := Layer7Connection.aPropertyRead_eq d unset
        { device := (d.answer l.device
            ((Layer7Call.aPropertyDesc obj 0#8 i).request.bytes unset)).1
          services := l.services ++ [.call (.aPropertyDesc obj 0#8 i) result] }
        obj 1#8 1#16 1#8
      simp only [if_pos htype, hread, Checked.ok_bind]
      exact ⟨_, _, rfl, by rw [asked_append, hone]; exact List.append_nil _⟩
    · simp only [if_neg htype]
      exact ⟨_, _, rfl, hone⟩

/-- What a pass does: it asks for one pair, and returns, or goes on with the next index, or with the
    next object. -/
theorem pass_cases (s : PropertyScan σ) (hgoes : done s = false) :
    ∃ s' conn p, describe d unset s.conn s.obj s.i = .ok (conn, p) ∧ pass d unset s = .ok s' ∧
      asked s'.conn.services = asked s.conn.services ++ [(s.obj, s.i)] ∧
      ((∀ p1, p = some p1 → p1.property = 0#8 ∧ s.i = 0#8) ∧ done s' = true ∨
        done s' = false ∧ ∃ p1, p = some p1 ∧
          (p1.property ≠ 0#8 ∧ s'.obj = s.obj ∧ s'.i = s.i + 1#8 ∨
            p1.property = 0#8 ∧ s.i ≠ 0#8 ∧ s'.obj = s.obj + 1#8 ∧ s'.i = 0#8)) := by
  obtain ⟨conn, p, hdescribe, hasked⟩ :=
    describe_spec d unset s.conn s.obj s.i
  rw [pass, hdescribe, Checked.ok_bind]
  rcases p with _ | p1
  · exact ⟨_, conn, none, rfl, rfl, hasked, .inl ⟨fun p1 hp1 => absurd hp1 (Option.some_ne_none p1).symm, rfl⟩⟩
  -- the code counts `i` up before it looks at it
  · by_cases hproperty : p1.property = 0#8
    · have hlast : s.i + 1#8 = 1#8 ↔ s.i = 0#8 := by
        constructor
        · intro h
          bv_omega
        · intro h
          rw [h]
          rfl
      -- an object without any property ends the scan
      by_cases hi : s.i = 0#8
      · have hi' : ¬ s.i + 1#8 ≠ 1#8 := not_not.mpr (hlast.mpr hi)
        simp only [hproperty, ne_eq, not_true_eq_false, if_false, if_neg hi']
        refine ⟨_, conn, some p1, rfl, rfl, hasked, .inl ⟨fun p1' hp1 => ?_, rfl⟩⟩
        obtain rfl := Option.some.inj hp1
        exact ⟨hproperty, hi⟩
      · have hi' : s.i + 1#8 ≠ 1#8 := fun h => hi (hlast.mp h)
        simp only [hproperty, ne_eq, not_true_eq_false, if_false, if_pos hi']
        exact ⟨_, conn, some p1, rfl, rfl, hasked,
          .inr ⟨hgoes, p1, rfl, .inr ⟨hproperty, hi, rfl, rfl⟩⟩⟩
    · simp only [ne_eq, hproperty, not_false_eq_true, if_true]
      exact ⟨_, conn, some p1, rfl, rfl, hasked,
        .inr ⟨hgoes, p1, rfl, .inl ⟨hproperty, rfl, rfl⟩⟩⟩

variable {d unset}

/-! ## Counters that do not start again -/

/-- The answer of the device makes a counter start again at 0: the index, behind the 256th property
    of an object, or the object, behind the last one with a property. -/
def Restarts (d : Device σ) (unset : Byte × Byte) (s : PropertyScan σ) : Prop :=
  ∃ conn p1, describe d unset s.conn s.obj s.i = .ok (conn, some p1) ∧
    (s.i = 0xff#8 ∧ p1.property ≠ 0#8 ∨ s.obj = 0xff#8 ∧ s.i ≠ 0#8 ∧ p1.property = 0#8)

/-- The order in which the pairs come. -/
def rank (p : Byte × Byte) : Nat := p.1.toNat * 256 + p.2.toNat

theorem rank_lt (p : Byte × Byte) : rank p < 256 * 256 := by
  have h₁ := p.1.isLt
  have h₂ := p.2.isLt
  simp only [rank]
  omega

/-- As long as no counter starts again, the pairs come in order. -/
theorem rank_lt_of_pass {s s' : PropertyScan σ} {conn : Layer7Connection σ} {p1 : PropertyInfo}
    (hdescribe : describe d unset s.conn s.obj s.i = .ok (conn, some p1))
    (hnext : p1.property ≠ 0#8 ∧ s'.obj = s.obj ∧ s'.i = s.i + 1#8 ∨
      p1.property = 0#8 ∧ s.i ≠ 0#8 ∧ s'.obj = s.obj + 1#8 ∧ s'.i = 0#8)
    (hnot : ¬ Restarts d unset s) : rank (s.obj, s.i) < rank (s'.obj, s'.i) := by
  rcases hnext with ⟨hproperty, hobj, hi⟩ | ⟨hproperty, hi, hobj, hi'⟩
  · have hlast : s.i ≠ 0xff#8 := fun h => hnot ⟨conn, p1, hdescribe, .inl ⟨h, hproperty⟩⟩
    have hsucc : (s.i + 1#8).toNat = s.i.toNat + 1 := by bv_omega
    rw [hobj, hi, rank, rank, hsucc]
    exact Nat.lt_succ_self _
  · have hlast : s.obj ≠ 0xff#8 := fun h => hnot ⟨conn, p1, hdescribe, .inr ⟨h, hi, hproperty⟩⟩
    have hsucc : (s.obj + 1#8).toNat = s.obj.toNat + 1 := by bv_omega
    have hlt := s.i.isLt
    rw [hobj, hi', rank, rank, hsucc]
    show s.obj.toNat * 256 + s.i.toNat < (s.obj.toNat + 1) * 256 + 0
    omega

/-- No pair has been asked for twice, and none is still to come. -/
structure Ascending (s : PropertyScan σ) : Prop where
  nodup : (asked s.conn.services).Nodup
  length : (asked s.conn.services).length ≤ 256 * 256
  before : done s = false →
    (asked s.conn.services).length ≤ rank (s.obj, s.i) ∧
      ∀ p ∈ asked s.conn.services, rank p < rank (s.obj, s.i)

theorem ascending_start (s₀ : σ) : Ascending (start { device := s₀ }) where
  nodup := List.nodup_nil
  length := Nat.zero_le _
  before _ := ⟨Nat.zero_le _, fun _ hp => absurd hp List.not_mem_nil⟩

/-- A pass without a restart goes on to a later pair, or ends the scan. -/
theorem Ascending.next {s : PropertyScan σ} (h : Ascending s) (hgoes : done s = false)
    (hnot : ¬ Restarts d unset s) :
    ∃ s', pass d unset s = .ok s' ∧ Ascending s' ∧
      (done s' = true ∨ 256 * 256 - rank (s'.obj, s'.i) < 256 * 256 - rank (s.obj, s.i)) := by
  obtain ⟨s', conn, p, hdescribe, hpass, hasked, hcases⟩ :=
    pass_cases d unset s hgoes
  obtain ⟨hlen, hbefore⟩ := h.before hgoes
  have hrank := rank_lt (s.obj, s.i)
  have hnodup : (asked s'.conn.services).Nodup := by
    rw [hasked, List.nodup_append]
    refine ⟨h.nodup, List.pairwise_singleton .., ?_⟩
    rintro p hp q hq rfl
    obtain rfl := List.mem_singleton.mp hq
    exact Nat.lt_irrefl _ (hbefore _ hp)
  have hlength : (asked s'.conn.services).length = (asked s.conn.services).length + 1 := by
    rw [hasked, List.length_append, List.length_singleton]
  -- the scan ends, or it goes on at a later pair
  rcases hcases with ⟨-, hend⟩ | ⟨-, p1, rfl, hnext⟩
  · refine ⟨s', hpass, ⟨hnodup, by omega, fun hgoes' => ?_⟩, .inl hend⟩
    rw [hend] at hgoes'
    cases hgoes'
  · have hlater := rank_lt_of_pass hdescribe hnext hnot
    have hrank' := rank_lt (s'.obj, s'.i)
    refine ⟨s', hpass, ⟨hnodup, by omega, fun _ => ⟨by omega, fun p hp => ?_⟩⟩, .inr (by omega)⟩
    rw [hasked] at hp
    rcases List.mem_append.mp hp with hp | hp
    · exact Nat.lt_trans (hbefore p hp) hlater
    · obtain rfl := List.mem_singleton.mp hp
      exact hlater

/-! ## Counters that start again -/

/-- What has been asked for before the present pair. -/
structure AskedBefore (s : PropertyScan σ) : Prop where
  indices : ∀ k < s.i.toNat, (s.obj, BitVec.ofNat 8 k) ∈ asked s.conn.services
  origin : s.obj = 0#8 ∧ s.i = 0#8 ∨ (0#8, 0#8) ∈ asked s.conn.services

theorem askedBefore_start (s₀ : σ) : AskedBefore (start { device := s₀ }) where
  indices _ hk := absurd hk (Nat.not_lt_zero _)
  origin := .inl ⟨rfl, rfl⟩

theorem AskedBefore.next {s s' : PropertyScan σ} (h : AskedBefore s) (hgoes : done s = false)
    (hpass : pass d unset s = .ok s') (hgoes' : done s' = false) : AskedBefore s' := by
  obtain ⟨s₁, conn, p, -, hpass₁, hasked, hcases⟩ := pass_cases d unset s hgoes
  obtain rfl : s₁ = s' := Except.ok.inj (hpass₁.symm.trans hpass)
  have horigin : (0#8, 0#8) ∈ asked s₁.conn.services := by
    rw [hasked]
    rcases h.origin with ⟨hobj, hi⟩ | hmem
    · rw [hobj, hi]
      exact List.mem_append_right _ (List.mem_singleton_self _)
    · exact List.mem_append_left _ hmem
  rcases hcases with ⟨-, hend⟩ | ⟨-, p1, -, ⟨-, hobj, hi⟩ | ⟨-, -, hobj, hi⟩⟩
  · rw [hend] at hgoes'
    cases hgoes'
  -- the next index: the indices below it are those of before and the one just asked for
  · refine ⟨fun k hk => ?_, .inr horigin⟩
    have hlt : k ≤ s.i.toNat := by
      rw [hi] at hk
      bv_omega
    rw [hobj, hasked]
    rcases Nat.lt_or_eq_of_le hlt with hlt | rfl
    · exact List.mem_append_left _ (h.indices k hlt)
    · rw [BitVec.ofNat_toNat, BitVec.setWidth_eq]
      exact List.mem_append_right _ (List.mem_singleton_self _)
  -- the next object begins with index 0
  · refine ⟨fun k hk => ?_, .inr horigin⟩
    rw [hi] at hk
    exact absurd hk (Nat.not_lt_zero _)

/-- Behind a restart the scan is at a pair that it has asked for. -/
theorem AskedBefore.restarted {s : PropertyScan σ} (h : AskedBefore s) (hgoes : done s = false)
    (hrestarts : Restarts d unset s) :
    ∃ s', PropertyScan.pass d unset s = .ok s' ∧ done s' = false ∧
      (s'.obj, s'.i) ∈ asked s'.conn.services := by
  obtain ⟨conn', p1, hdescribe', hp1⟩ := hrestarts
  obtain ⟨s', conn, p, hdescribe, hpass, hasked, hcases⟩ :=
    pass_cases d unset s hgoes
  obtain ⟨rfl, rfl⟩ := Prod.mk.inj (Except.ok.inj (hdescribe.symm.trans hdescribe'))
  rcases hcases with ⟨hnone, -⟩ | ⟨hgoes', p1', hp1', hnext⟩
  · -- a pass that ends the scan is no restart
    obtain ⟨hproperty, hi⟩ := hnone p1 rfl
    rcases hp1 with ⟨-, hne⟩ | ⟨-, hne, -⟩
    · exact absurd hproperty hne
    · exact absurd hi hne
  · obtain rfl := Option.some.inj hp1'
    refine ⟨s', hpass, hgoes', ?_⟩
    rw [hasked]
    rcases hp1 with ⟨hi, hne⟩ | ⟨hobj, hi, hzero⟩
    · obtain ⟨-, hobj', hi'⟩ := hnext.resolve_right fun hend => hne hend.1
      rw [hobj', hi', hi]
      exact List.mem_append_left _ (h.indices 0 (by rw [hi]; decide))
    · obtain ⟨-, -, hobj', hi'⟩ := hnext.resolve_left fun hgo => hgo.1 hzero
      rw [hobj', hi', hobj]
      exact List.mem_append_left _ (h.origin.resolve_left fun hstart => hi hstart.2)

/-- What has been asked for stays asked for. -/
theorem isPrefix_asked {n : Nat} {s s' : PropertyScan σ}
    (hrun : passes (pass d unset) done n s = .ok s') :
    asked s.conn.services <+: asked s'.conn.services := by
  refine passes_invariant
    (fun s' => asked s.conn.services <+: asked s'.conn.services) ?_ (List.prefix_rfl) hrun
  intro s₁ s₂ h hgoes hpass
  obtain ⟨s₂', conn, p, -, hpass', hasked, -⟩ := pass_cases d unset s₁ hgoes
  obtain rfl := Except.ok.inj (hpass'.symm.trans hpass)
  rw [hasked]
  exact h.trans (List.prefix_append ..)

/-- The scan ends, with at most 256 * 256 requests for descriptions, no two for the same pair. -/
def Bounded (d : Device σ) (unset : Byte × Byte) (s₀ : σ) : Prop :=
  ∃ n s, passes (pass d unset) done n (start { device := s₀ }) = .ok s ∧ done s = true ∧
    (asked s.conn.services).length ≤ 256 * 256 ∧ (asked s.conn.services).Nodup

/-- A scan that goes on behind a restart asks for a pair twice. -/
theorem not_bounded_of_restarts {s₀ : σ} {n : Nat} {s : PropertyScan σ}
    (hrun : passes (pass d unset) done n (start { device := s₀ }) = .ok s)
    (hgoes : done s = false) (hrestarts : Restarts d unset s) : ¬ Bounded d unset s₀ := by
  rintro ⟨m, s_end, hend, hdone, -, hnodup⟩
  have hbefore : done s = false → AskedBefore s := by
    refine passes_invariant (fun s => done s = false → AskedBefore s) ?_
      (fun _ => askedBefore_start s₀) hrun
    exact fun s₁ s₂ h hgoes₁ hpass hgoes₂ => (h hgoes₁).next hgoes₁ hpass hgoes₂
  obtain ⟨s₁, hpass, hgoes₁, hmem⟩ := (hbefore hgoes).restarted hgoes hrestarts
  -- the pass behind the restart asks for the pair again
  obtain ⟨s₂, conn, p, -, hpass₂, hasked, -⟩ := pass_cases d unset s₁ hgoes₁
  have hrun₁ : passes (PropertyScan.pass d unset) done (n + 1) (start { device := s₀ }) = .ok s₁ := by
    rw [passes_add, hrun, Checked.ok_bind, passes_succ hgoes, hpass, Checked.ok_bind, passes_zero]
  obtain ⟨k, hrest⟩ := passes_through hrun₁ hgoes₁ hend hdone
  cases k with
  | zero =>
      cases hrest
      rw [hgoes₁] at hdone
      cases hdone
  | succ k =>
      rw [passes_succ hgoes₁, hpass₂, Checked.ok_bind] at hrest
      have htwice : ¬ (asked s₂.conn.services).Nodup := by
        rw [hasked, List.nodup_append]
        exact fun h => h.2.2 _ hmem _ (List.mem_singleton_self _) rfl
      exact htwice (hnodup.sublist (isPrefix_asked hrest).sublist)

/-- The scan is bounded exactly if no answer makes a counter start again. -/
theorem bounded_iff_no_restart (d : Device σ) (unset : Byte × Byte) (s₀ : σ) :
    Bounded d unset s₀ ↔
      ∀ n s, passes (pass d unset) done n (start { device := s₀ }) = .ok s → done s = false →
        ¬ Restarts d unset s := by
  constructor
  · intro h n s hrun hgoes hrestarts
    exact not_bounded_of_restarts hrun hgoes hrestarts h
  · intro h
    -- the invariant keeps the run that has led here, so that `h` applies to it
    let Inv (s : PropertyScan σ) : Prop :=
      Ascending s ∧ ∃ n, passes (PropertyScan.pass d unset) done n (start { device := s₀ }) = .ok s
    have hpass : ∀ s, Inv s → done s = false → ∃ s', PropertyScan.pass d unset s = .ok s' ∧ Inv s' ∧
        (done s' = true ∨
          256 * 256 - rank (s'.obj, s'.i) < 256 * 256 - rank (s.obj, s.i)) := by
      rintro s ⟨hasc, n, hrun⟩ hgoes
      obtain ⟨s', hpass, hasc', hless⟩ := hasc.next hgoes (h n s hrun hgoes)
      refine ⟨s', hpass, ⟨hasc', n + 1, ?_⟩, hless⟩
      rw [passes_add, hrun, Checked.ok_bind, passes_succ hgoes, hpass, Checked.ok_bind, passes_zero]
    obtain ⟨n, s, hrun, hdone, hasc, -⟩ := passes_end
      (fun s : PropertyScan σ => 256 * 256 - rank (s.obj, s.i)) hpass
      ⟨ascending_start s₀, 0, passes_zero _⟩
    exact ⟨n, s, hrun, hdone, hasc.length, hasc.nodup⟩

/-! ## A device that always announces a property -/

/-- A packet that is decoded to a description. -/
theorem perform_aPropertyDesc (unset : Byte × Byte) {obj : Byte} (property i : Byte)
    {property' i' type access : Byte} {count : Word16} {c : CArray}
    (h : APDU.fromPacket c = .aPropertyDescriptionResponse obj property' i' type count access) :
    ∃ sent, (Layer7Call.aPropertyDesc obj property i).perform unset (some c) =
      .ok (sent, some (.description type count access property')) := by
  have hsent : (Layer7Call.aPropertyDesc obj property i).request.toPacket unset =
      .ok ((Layer7Call.aPropertyDesc obj property i).request.bytes unset) :=
    APDU.toPacket_eq_ok.mpr ⟨Layer7Call.request_asserts _, rfl⟩
  rcases c with _ | ⟨b, bs⟩
  · cases h
  · have haccepted : (APDU.aPropertyDescriptionResponse obj property' i' type count access).isResponse
        (Layer7Call.aPropertyDesc obj property i).request = true := by
      simp [APDU.isResponse, Layer7Call.request]
    refine ⟨(Layer7Call.aPropertyDesc obj property i).request.bytes unset, ?_⟩
    rw [Layer7Call.perform, requestResponse, hsent]
    simp only [Checked.ok_bind, h, haccepted, if_true, Checked.pure_eq_ok, Layer7Call.read]

/-- Every index of every object has property 56. -/
def insistentDevice : Device Unit where
  answer _ sent :=
    match APDU.fromPacket sent with
    | .aPropertyDescriptionRead obj _ i =>
        ((), some ((APDU.aPropertyDescriptionResponse obj 0x38#8 i 0x02#8 1#16 0x33#8).bytes
          (0#8, 0#8)))
    | _ => ((), none)
  receive _ _ := ()

theorem describe_insistentDevice (unset : Byte × Byte) (l : Layer7Connection Unit) (obj i : Byte) :
    ∃ conn p1, describe insistentDevice unset l obj i = .ok (conn, some p1) ∧
      p1.property = 0x38#8 := by
  have hrequest : APDU.fromPacket ((Layer7Call.aPropertyDesc obj 0#8 i).request.bytes unset) =
      .aPropertyDescriptionRead obj 0#8 i :=
    APDU.fromPacket_bytes (Layer7Call.request_asserts _) trivial trivial trivial
  have hback : APDU.fromPacket
      ((APDU.aPropertyDescriptionResponse obj 0x38#8 i 0x02#8 1#16 0x33#8).bytes (0#8, 0#8)) =
        .aPropertyDescriptionResponse obj 0x38#8 i 0x02#8 1#16 0x33#8 :=
    APDU.fromPacket_bytes rfl trivial trivial trivial
  obtain ⟨sent', hright⟩ := perform_aPropertyDesc unset 0#8 i hback
  obtain ⟨sent, result, hperform, hdesc⟩ := Layer7Connection.aPropertyDesc_eq
    insistentDevice unset l obj 0#8 i
  simp only [insistentDevice, hrequest] at hperform
  obtain rfl := (Prod.mk.inj (Except.ok.inj (hright.symm.trans hperform))).2
  rw [describe, hdesc, Checked.ok_bind]
  exact ⟨_, _, rfl, rfl⟩

/-- The scan asks for one index after the other. -/
theorem passes_insistentDevice (unset : Byte × Byte) (n : Nat) :
    ∃ s, passes (pass insistentDevice unset) done n (start { device := () }) = .ok s ∧
      done s = false ∧ s.i = BitVec.ofNat 8 n := by
  induction n with
  | zero => exact ⟨_, rfl, rfl, rfl⟩
  | succ n ih =>
      obtain ⟨s, hrun, hgoes, hi⟩ := ih
      obtain ⟨s', conn, p, hdescribe, hpass, -, hcases⟩ :=
        pass_cases insistentDevice unset s hgoes
      obtain ⟨conn', p1, hdescribe', hproperty⟩ :=
        describe_insistentDevice unset s.conn s.obj s.i
      obtain ⟨-, rfl⟩ := Prod.mk.inj (Except.ok.inj (hdescribe.symm.trans hdescribe'))
      have hne : p1.property ≠ 0#8 := by
        rw [hproperty]
        decide
      -- a property is always announced, so that `i` goes up
      rcases hcases with ⟨hnone, -⟩ | ⟨hgoes', p1', hp1, hnext⟩
      · exact absurd (hnone p1 rfl).1 hne
      · obtain rfl := Option.some.inj hp1
        obtain ⟨-, -, hi'⟩ := hnext.resolve_right fun hend => hne hend.1
        refine ⟨s', ?_, hgoes', ?_⟩
        · rw [passes_add, hrun, Checked.ok_bind, passes_succ hgoes, hpass, Checked.ok_bind,
            passes_zero]
        · rw [hi', hi, BitVec.ofNat_add]

/-- The scan of the first object does not end. -/
theorem insistentDevice_not_bounded : ¬ Bounded insistentDevice (0#8, 0#8) () := by
  obtain ⟨s, hrun, hgoes, hi⟩ := passes_insistentDevice (0#8, 0#8) 255
  obtain ⟨conn, p1, hdescribe, hproperty⟩ :=
    describe_insistentDevice (0#8, 0#8) s.conn s.obj s.i
  refine not_bounded_of_restarts hrun hgoes ⟨conn, p1, hdescribe, .inl ⟨hi, ?_⟩⟩
  rw [hproperty]
  decide

end PropertyScan

end BcuSdk.Eibd
