/-
  BcuSdk.BcuGen.AddrTabSafety

  When `buildAddrTable` does what it is for.

  The slot of a sending object has the number of the object, whether the table
  is that long or not (`SlotsExist`), and a gap in front of it may be filled
  with another address of the same object (`GapsInFront`); nothing else can go
  wrong.
-/
import BcuSdk.Lib.Aborting
import BcuSdk.BcuGen.AddrTab
import BcuSdk.Common.Array
import Mathlib.Data.List.Nodup

namespace BcuSdk.BcuGen

open BcuSdk.Lib BcuSdk.Common

/-! ## Collecting addresses -/

theorem mem_addAddress {a : List Word16} {x y : Word16} :
    x ∈ addAddress a y ↔ x ∈ a ∨ x = y := by
  rw [addAddress]
  split
  · next h => exact ⟨.inl, fun hx => hx.elim id fun heq => heq ▸ h⟩
  · rw [List.mem_append, List.mem_singleton]

theorem nodup_addAddress {a : List Word16} (h : a.Nodup) (y : Word16) :
    (addAddress a y).Nodup := by
  rw [addAddress]
  split
  · exact h
  · next hy =>
    refine List.nodup_append.mpr ⟨h, List.nodup_singleton y, ?_⟩
    rintro x hx z hz rfl
    exact hy (List.mem_singleton.mp hz ▸ hx)

theorem mem_foldl_addAddress {as a : List Word16} {x : Word16} :
    x ∈ as.foldl addAddress a ↔ x ∈ a ∨ x ∈ as := by
  induction as generalizing a with
  | nil => exact ⟨.inl, fun h => h.elim id nofun⟩
  | cons y as ih => rw [List.foldl_cons, ih, mem_addAddress, List.mem_cons, or_assoc]

theorem nodup_foldl_addAddress {as a : List Word16} (h : a.Nodup) :
    (as.foldl addAddress a).Nodup := by
  induction as generalizing a with
  | nil => exact h
  | cons y as ih => exact ih (nodup_addAddress h y)

theorem mem_collectAddresses {objs : List GroupObject} {x : Word16} :
    x ∈ collectAddresses objs ↔ ∃ o ∈ objs, x ∈ o.objAddress := by
  rw [collectAddresses, mem_foldl_addAddress, List.mem_flatMap]
  exact ⟨fun h => h.elim nofun id, .inr⟩

theorem nodup_collectAddresses (objs : List GroupObject) : (collectAddresses objs).Nodup :=
  nodup_foldl_addAddress List.nodup_nil

/-! ## What `BuildObjAddress` leaves -/

theorem checkAddress_spec {lineno addr : Int} {a a' : List Word16} (ha : a.Nodup)
    (h : checkAddress lineno a addr = .ok a') :
    a'.Nodup ∧ a ⊆ a' ∧ BitVec.ofInt 16 addr ∈ a' ∧
      addr = ((BitVec.ofInt 16 addr).toNat : Int) := by
  rw [checkAddress] at h
  split at h
  · cases h
  · next hrange =>
    cases h
    refine ⟨nodup_addAddress ha _, fun x hx => mem_addAddress.mpr (.inl hx),
      mem_addAddress.mpr (.inr rfl), ?_⟩
    rw [BitVec.toNat_ofInt]
    omega

theorem foldlM_checkAddress_spec {lineno : Int} {as : List Int} {a a' : List Word16}
    (ha : a.Nodup) (h : as.foldlM (checkAddress lineno) a = .ok a') : a'.Nodup ∧ a ⊆ a' := by
  induction as generalizing a with
  | nil =>
      cases h
      exact ⟨ha, fun _ => id⟩
  | cons addr as ih =>
      rw [List.foldlM_cons] at h
      rcases haddr : checkAddress lineno a addr with _ | a₁
      · rw [haddr] at h
        cases h
      · rw [haddr] at h
        obtain ⟨hnodup, hsub, -⟩ := checkAddress_spec ha haddr
        obtain ⟨hnodup', hsub'⟩ := ih hnodup h
        exact ⟨hnodup', fun x hx => hsub' (hsub hx)⟩

theorem checkOutgoing_spec {lineno addrLineno addr : Int} {a a' : List Word16} (ha : a.Nodup)
    (h : checkOutgoing lineno a addrLineno addr = .ok a') :
    a'.Nodup ∧ a ⊆ a' ∧ (addrLineno ≠ 0 → BitVec.ofInt 16 addr ∈ a' ∧
      addr = ((BitVec.ofInt 16 addr).toNat : Int)) := by
  rw [checkOutgoing] at h
  split at h
  · obtain ⟨hnodup, hsub, hmem⟩ := checkAddress_spec ha h
    exact ⟨hnodup, hsub, fun _ => hmem⟩
  · next hnone =>
    cases h
    exact ⟨ha, fun _ => id, fun hset => absurd hset hnone⟩

namespace GroupObject

/-- The address the object sends to: `SendAddress`, otherwise `ReadRequestAddress`. -/
def outgoing (o : GroupObject) : Option Word16 :=
  if o.sendAddressLineno ≠ 0 then some (BitVec.ofInt 16 o.sendAddress)
  else if o.readRequestAddressLineno ≠ 0 then some (BitVec.ofInt 16 o.readRequestAddress)
  else none

/-- What holds of an object that has been through `BuildObjAddress`. -/
structure Built (o : GroupObject) : Prop where
  nodup : o.objAddress.Nodup
  outgoing_mem : ∀ a, o.outgoing = some a → a ∈ o.objAddress
  inGap_iff : ∀ a, o.InGap a ↔ o.outgoing ≠ some a

/-- A checked address is compared as what it is stored as. -/
theorem ne_toNat_iff {v : Int} (h : v = ((BitVec.ofInt 16 v).toNat : Int)) (a : Word16) :
    v ≠ (a.toNat : Int) ↔ some (BitVec.ofInt 16 v) ≠ some a := by
  rw [not_iff_not, Option.some_inj]
  constructor
  · intro hv
    exact BitVec.eq_of_toNat_eq (Int.ofNat.inj (h.symm.trans hv))
  · rintro rfl
    exact h

theorem built_of_buildObjAddress {b : BCUType} {o₀ o : GroupObject}
    (h : o₀.buildObjAddress b = .ok o) : o.Built := by
  rw [buildObjAddress] at h
  obtain ⟨a₁, h₁, h⟩ := bind_eq_ok.mp h
  obtain ⟨a₂, h₂, h⟩ := bind_eq_ok.mp h
  split at h
  · cases h
  · obtain ⟨a₃, h₃, h⟩ := bind_eq_ok.mp h
    obtain ⟨a₄, h₄, h⟩ := bind_eq_ok.mp h
    obtain ⟨a₅, h₅, h⟩ := bind_eq_ok.mp h
    cases h
    -- the five lists go into one table, one behind the other
    obtain ⟨hnodup₁, -⟩ := foldlM_checkAddress_spec List.nodup_nil h₁
    obtain ⟨hnodup₂, -⟩ := foldlM_checkAddress_spec hnodup₁ h₂
    obtain ⟨hnodup₃, -⟩ := foldlM_checkAddress_spec hnodup₂ h₃
    obtain ⟨hnodup₄, -, hsend⟩ := checkOutgoing_spec hnodup₃ h₄
    obtain ⟨hnodup₅, hsub, hread⟩ := checkOutgoing_spec hnodup₄ h₅
    refine ⟨hnodup₅, fun a ha => ?_, fun a => ?_⟩
    -- the outgoing address has been found in the table
    · have ha : o₀.outgoing = some a := ha
      rw [outgoing] at ha
      split at ha
      · next hset =>
        obtain rfl := Option.some.inj ha
        exact hsub (hsend hset).1
      · split at ha
        · next hset =>
          obtain rfl := Option.some.inj ha
          exact (hread hset).1
        · cases ha
    -- an address is in the gap exactly if it is not the outgoing one
    · show o₀.InGap a ↔ o₀.outgoing ≠ some a
      rw [InGap, outgoing]
      by_cases hset : o₀.sendAddressLineno ≠ 0
      · rw [if_pos hset, ← ne_toNat_iff (hsend hset).2 a]
        exact ⟨fun h => h.elim (fun h => absurd h.1 hset) And.right, fun h => .inr ⟨hset, h⟩⟩
      · rw [if_neg hset]
        rw [not_not] at hset
        by_cases hset' : o₀.readRequestAddressLineno ≠ 0
        · rw [if_pos hset', ← ne_toNat_iff (hread hset').2 a]
          constructor
          · rintro (⟨-, h | h⟩ | ⟨h, -⟩)
            · exact absurd h hset'
            · exact h
            · exact absurd hset h
          · exact fun h => .inl ⟨hset, .inr h⟩
        · rw [if_neg hset']
          exact iff_of_true (.inl ⟨hset, .inl (not_not.mp hset')⟩) nofun

/-- The objects of a device that have all been through `BuildObjAddress`. -/
theorem built_of_mapM {b : BCUType} {os objs : List GroupObject}
    (h : os.mapM (buildObjAddress b) = .ok objs) : ∀ o ∈ objs, o.Built := by
  intro o ho
  obtain ⟨o₀, -, ho₀⟩ := exists_of_mem_mapM h ho
  exact built_of_buildObjAddress ho₀

end GroupObject

/-! ## The first pass -/

/-- The slot an object that sends gets. -/
def GroupObject.sendingSlot (addr : List Word16) (i : Nat) (o : GroupObject) : Option Slot :=
  o.outgoing.map fun a => ⟨o.objNo, addr.idxOf a, i⟩

/-- The `n` slots from number `i` on behind the first pass, for the objects from `i` on. -/
def reserved (addr : List Word16) : Nat → List GroupObject → Nat → List (Option Slot)
  | i, o :: objs, n + 1 => o.sendingSlot addr i :: reserved addr (i + 1) objs n
  | _, _, n => List.replicate n none

/-- Each object that sends has a slot among the next `n`. -/
def SlotsExistFrom (objs : List GroupObject) (n : Nat) : Prop :=
  ∀ k o, objs[k]? = some o → o.outgoing ≠ none → k < n

theorem slotsExistFrom_cons {o : GroupObject} {objs : List GroupObject} {n : Nat} :
    SlotsExistFrom (o :: objs) n ↔
      (o.outgoing ≠ none → 0 < n) ∧ SlotsExistFrom objs (n - 1) := by
  constructor
  · intro h
    refine ⟨h 0 o rfl, fun k o' hk hout => ?_⟩
    have := h (k + 1) o' hk hout
    omega
  · rintro ⟨h₀, h⟩ (_ | k) o' hk hout
    · obtain rfl := Option.some.inj hk
      exact h₀ hout
    · have := h k o' hk hout
      omega

theorem addrNo_of_mem {a : List Word16} {ga : Word16} (h : ga ∈ a) :
    addrNo a ga = .ok (a.idxOf ga) := if_pos h

/-- The two branches of the pass are one. -/
theorem putSending_cons (addr : List Word16) (i : Nat) (o : GroupObject)
    (objs : List GroupObject) (slots : List (Option Slot)) :
    putSending addr i (o :: objs) slots =
      match o.outgoing with
      | some ga => do
          let a ← addrNo addr ga
          let slots ← putSlot slots i ⟨o.objNo, a, i⟩
          putSending addr (i + 1) objs slots
      | none => putSending addr (i + 1) objs slots := by
  rw [putSending, GroupObject.outgoing]
  split
  · rfl
  · split
    · rfl
    · rfl

theorem putSlot_append {pre t : List (Option Slot)} {o : Option Slot} (s : Slot) :
    putSlot (pre ++ o :: t) pre.length s = .ok (pre ++ some s :: t) := by
  rw [putSlot, if_pos (by rw [List.length_append, List.length_cons]; omega),
    List.set_append_right _ _ (Nat.le_refl _), Nat.sub_self, List.set_cons_zero]

theorem putSlot_behind {slots : List (Option Slot)} {k : Nat} (h : slots.length ≤ k) (s : Slot) :
    putSlot slots k s = .error .outOfBounds := if_neg (not_lt.mpr h)

@[simp] theorem reserved_nil (addr : List Word16) (i n : Nat) :
    reserved addr i [] n = List.replicate n none := by
  cases n with
  | zero => rfl
  | succ n => rfl

@[simp] theorem reserved_zero (addr : List Word16) (i : Nat) (objs : List GroupObject) :
    reserved addr i objs 0 = [] := by
  cases objs with
  | nil => rfl
  | cons o objs => rfl

@[simp] theorem length_reserved (addr : List Word16) (i : Nat) (objs : List GroupObject) (n : Nat) :
    (reserved addr i objs n).length = n := by
  induction objs generalizing i n with
  | nil => rw [reserved_nil, List.length_replicate]
  | cons o objs ih =>
      rcases n with _ | n
      · rw [reserved_zero, List.length_nil]
      · rw [reserved, List.length_cons, ih]

theorem append_cons_assoc {α : Type} (pre : List α) (x : α) (t : List α) :
    pre ++ x :: t = (pre ++ [x]) ++ t := by
  rw [List.append_assoc, List.singleton_append]

section FirstPass

variable {addr : List Word16} {objs : List GroupObject} {i n : Nat}

/-- All sending objects have a slot: the pass puts an entry there. -/
theorem putSending_of_slotsExist (pre : List (Option Slot))
    (hmem : ∀ o ∈ objs, ∀ ga, o.outgoing = some ga → ga ∈ addr)
    (hpre : 0 < n → pre.length = i) (h : SlotsExistFrom objs n) :
    putSending addr i objs (pre ++ List.replicate n none) =
      .ok (pre ++ reserved addr i objs n) := by
  induction objs generalizing i n pre with
  | nil => rw [putSending, reserved_nil]
  | cons o objs ih =>
      obtain ⟨h₀, hrest⟩ := slotsExistFrom_cons.mp h
      have hmem' : ∀ o ∈ objs, ∀ ga, o.outgoing = some ga → ga ∈ addr :=
        fun o' ho' => hmem o' (List.mem_cons_of_mem _ ho')
      rw [putSending_cons]
      rcases n with _ | n
      · -- behind the table nothing is left to be put
        have hnone : o.outgoing = none := by
          by_contra hne
          exact Nat.lt_irrefl 0 (h₀ hne)
        rw [hnone]
        dsimp only
        rw [ih pre hmem' (fun hlt => absurd hlt (Nat.lt_irrefl 0)) hrest, reserved_zero,
          reserved_zero]
      · have hi : pre.length = i := hpre (Nat.succ_pos n)
        have hnext : ∀ x : Option Slot, 0 < n → (pre ++ [x]).length = i + 1 := by
          intro x _
          rw [List.length_append, hi, List.length_singleton]
        rw [List.replicate_succ, reserved, GroupObject.sendingSlot]
        rcases hout : o.outgoing with _ | ga
        · dsimp only [Option.map_none]
          rw [append_cons_assoc pre none (List.replicate n none),
            append_cons_assoc pre none (reserved addr (i + 1) objs n)]
          exact ih _ hmem' (hnext none) hrest
        · dsimp only [Option.map_some]
          have hga := hmem o (List.mem_cons_self ..) ga hout
          rw [addrNo_of_mem hga, Checked.ok_bind, ← hi, putSlot_append, Checked.ok_bind, hi,
            append_cons_assoc pre _ (List.replicate n none),
            append_cons_assoc pre _ (reserved addr (i + 1) objs n)]
          exact ih _ hmem' (hnext (some _)) hrest

/-- A sending object without a slot: the pass writes behind the table. -/
theorem putSending_of_not_slotsExist (pre : List (Option Slot)) (hpre : pre.length ≤ i)
    (hn : 0 < n → pre.length = i)
    (h : ¬ SlotsExistFrom objs n) :
    ¬ (putSending addr i objs (pre ++ List.replicate n none)).Returns := by
  induction objs generalizing i n pre with
  | nil => exact absurd (fun k o hk => nomatch hk) h
  | cons o objs ih =>
      rw [slotsExistFrom_cons, not_and] at h
      rw [putSending_cons]
      rcases n with _ | n
      -- no slots left: an object that sends has none to write to
      · rw [List.replicate_zero, List.append_nil]
        rcases hout : o.outgoing with _ | ga
        · have hrest : ¬ SlotsExistFrom objs 0 := h fun hne => absurd hout hne
          have hfault := ih pre (Nat.le_succ_of_le hpre)
            (fun hlt => absurd hlt (Nat.lt_irrefl 0)) hrest
          rwa [List.replicate_zero, List.append_nil] at hfault
        · dsimp only
          rintro ⟨slots, hslots⟩
          obtain ⟨a, -, hslots⟩ := Checked.bind_eq_ok.mp hslots
          obtain ⟨slots', hput, -⟩ := Checked.bind_eq_ok.mp hslots
          cases (putSlot_behind hpre _).symm.trans hput
      -- there is a slot for this object, so that a later one is without
      · have hi : pre.length = i := hn (Nat.succ_pos n)
        have hrest : ¬ SlotsExistFrom objs n := h fun _ => Nat.succ_pos n
        have hlen : ∀ x : Option Slot, (pre ++ [x]).length = i + 1 := by
          intro x
          rw [List.length_append, hi, List.length_singleton]
        have hfault : ∀ x : Option Slot,
            ¬ (putSending addr (i + 1) objs (pre ++ x :: List.replicate n none)).Returns := by
          intro x
          rw [append_cons_assoc pre x]
          exact ih _ (Nat.le_of_eq (hlen x)) (fun _ => hlen x) hrest
        rw [List.replicate_succ]
        rcases hout : o.outgoing with _ | ga
        · exact hfault none
        · dsimp only
          rintro ⟨slots, hslots⟩
          obtain ⟨a, -, hslots⟩ := Checked.bind_eq_ok.mp hslots
          obtain ⟨slots', hput, hslots⟩ := Checked.bind_eq_ok.mp hslots
          rw [← hi, putSlot_append] at hput
          cases hput
          rw [hi] at hslots
          exact hfault _ ⟨slots, hslots⟩

end FirstPass

/-! ## The second pass -/

/-- The slot for an address. -/
def ObjectAddress.slot (addr : List Word16) (p : ObjectAddress) : Slot :=
  ⟨p.o.objNo, addr.idxOf p.addr, p.i⟩

/-- What the second pass puts. -/
def others (addr : List Word16) (ps : List ObjectAddress) : List Slot :=
  (ps.filter fun p => p.o.InGap p.addr).map (·.slot addr)

theorem others_cons_of_inGap {p : ObjectAddress} (addr : List Word16) (h : p.o.InGap p.addr)
    (ps : List ObjectAddress) : others addr (p :: ps) = p.slot addr :: others addr ps := by
  rw [others, List.filter_cons, if_pos (decide_eq_true h), List.map_cons, others]

theorem others_cons_of_not_inGap {p : ObjectAddress} (addr : List Word16)
    (h : ¬ p.o.InGap p.addr) (ps : List ObjectAddress) :
    others addr (p :: ps) = others addr ps := by
  rw [others, List.filter_cons, if_neg (by rwa [decide_eq_true_eq]), others]

theorem others_append (addr : List Word16) (ps qs : List ObjectAddress) :
    others addr (ps ++ qs) = others addr ps ++ others addr qs := by
  rw [others, List.filter_append, List.map_append, others, others]

/-- With gaps enough the entries go into the gaps in order. -/
theorem putOthers_of_gaps {addr : List Word16} {ps : List ObjectAddress}
    {s t : List (Option Slot)} (hmem : ∀ p ∈ ps, p.addr ∈ addr)
    (h : (others addr ps).length ≤ gaps t) :
    putOthers addr ps (s ++ t) (nextGap (s ++ t) s.length) =
      .ok (s ++ fill t (others addr ps)) := by
  induction ps generalizing s t with
  | nil =>
      rw [putOthers]
      show _ = Except.ok (s ++ fill t [])
      rw [fill_nil]
  | cons p ps ih =>
      have hmem' : ∀ p ∈ ps, p.addr ∈ addr := fun q hq => hmem q (List.mem_cons_of_mem _ hq)
      rw [putOthers]
      by_cases hgap : p.o.InGap p.addr
      · have hcons := others_cons_of_inGap addr hgap ps
        rw [hcons, List.length_cons] at h
        obtain ⟨full, rest, rfl, hfull, hrest, hnext⟩ := nextGap_split s t
        have hnone : gaps full = 0 := gaps_eq_zero hfull
        rw [if_pos hgap, addrNo_of_mem (hmem p (List.mem_cons_self ..)), Checked.ok_bind, hnext,
          hcons, ← List.append_assoc]
        rcases hrest with rfl | ⟨rest', rfl⟩
        · -- there is a gap
          rw [gaps_append, hnone, gaps_nil] at h
          exact absurd h (Nat.not_succ_le_zero _)
        · rw [gaps_append, gaps_cons_none] at h
          have hfront : s ++ full ++ some (p.slot addr) :: rest' =
              (s ++ full ++ [some (p.slot addr)]) ++ rest' := append_cons_assoc _ _ _
          have hlen : (s ++ full).length + 1 = (s ++ full ++ [some (p.slot addr)]).length := by
            simp only [List.length_append, List.length_cons, List.length_nil]
          have hrest : (others addr ps).length ≤ gaps rest' := by
            omega
          have hnext' := ih (s := s ++ full ++ [some (p.slot addr)]) hmem' hrest
          rw [putSlot_append, Checked.ok_bind, fill_append_full hfull, fill]
          rw [← hfront, ← hlen] at hnext'
          show putOthers addr ps (s ++ full ++ some (p.slot addr) :: rest')
            (nextGap (s ++ full ++ some (p.slot addr) :: rest') ((s ++ full).length + 1)) = _
          rw [hnext', ← append_cons_assoc, List.append_assoc]
      · have hcons := others_cons_of_not_inGap addr hgap ps
        rw [if_neg hgap, hcons]
        exact ih hmem' (hcons ▸ h)

/-! ## As many entries as slots -/

/-- The number of an object's addresses other than the one it sends to. -/
def GroupObject.otherCount (o : GroupObject) : Nat :=
  if o.outgoing = none then o.objAddress.length else o.objAddress.length - 1

/-- `maxs`. -/
def associationCount (objs : List GroupObject) : Nat := (objs.map (·.objAddress.length)).sum

/-- What the second pass puts for one object. -/
def objectOthers (addr : List Word16) (i : Nat) (o : GroupObject) : List Slot :=
  others addr (o.objAddress.map fun a => ⟨i, o, a⟩)

theorem objectOthers_eq (addr : List Word16) (i : Nat) (o : GroupObject) :
    objectOthers addr i o =
      (o.objAddress.filter fun a => o.InGap a).map fun a => ⟨o.objNo, addr.idxOf a, i⟩ := by
  rw [objectOthers, others, List.filter_map, List.map_map]
  rfl

/-- The addresses of an object: the one it sends to, and the others. -/
theorem GroupObject.Built.perm {o : GroupObject} (h : o.Built) :
    o.objAddress.Perm (o.outgoing.toList ++ o.objAddress.filter fun a => o.InGap a) := by
  rcases hout : o.outgoing with _ | ga
  · have hall : (o.objAddress.filter fun a => o.InGap a) = o.objAddress := by
      refine List.filter_eq_self.mpr fun a _ => decide_eq_true ((h.inGap_iff a).mpr ?_)
      rw [hout]
      nofun
    rw [hall]
    exact .refl _
  · have hmem := h.outgoing_mem ga hout
    have hothers : (o.objAddress.filter fun a => o.InGap a) = o.objAddress.erase ga := by
      rw [h.nodup.erase_eq_filter]
      refine List.filter_congr fun a _ => ?_
      rw [Bool.eq_iff_iff, decide_eq_true_eq, bne_iff_ne, h.inGap_iff, hout]
      exact ⟨fun hne heq => hne (heq ▸ rfl), fun hne heq => hne (Option.some.inj heq).symm⟩
    rw [hothers]
    exact List.perm_cons_erase hmem

theorem GroupObject.Built.length_filter {o : GroupObject} (h : o.Built) :
    (o.objAddress.filter fun a => o.InGap a).length = o.otherCount := by
  have hlen := h.perm.length_eq
  rw [List.length_append] at hlen
  rw [GroupObject.otherCount]
  rcases hout : o.outgoing with _ | ga
  · rw [hout] at hlen
    rw [if_pos rfl]
    simpa using hlen.symm
  · rw [hout] at hlen
    rw [if_neg nofun]
    simp only [Option.toList_some, List.length_singleton] at hlen
    omega

@[simp] theorem length_objectOthers {o : GroupObject} (h : o.Built) (addr : List Word16)
    (i : Nat) : (objectOthers addr i o).length = o.otherCount := by
  rw [objectOthers_eq, List.length_map, h.length_filter]

theorem others_objectAddresses_cons (addr : List Word16) (i : Nat) (o : GroupObject)
    (objs : List GroupObject) :
    others addr (objectAddresses i (o :: objs)) =
      objectOthers addr i o ++ others addr (objectAddresses (i + 1) objs) := by
  rw [objectAddresses, others_append, objectOthers]

theorem length_others {addr : List Word16} {objs : List GroupObject}
    (hbuilt : ∀ o ∈ objs, o.Built) (i : Nat) :
    (others addr (objectAddresses i objs)).length = (objs.map (·.otherCount)).sum := by
  induction objs generalizing i with
  | nil => rfl
  | cons o objs ih =>
      rw [others_objectAddresses_cons, List.length_append, List.map_cons, List.sum_cons,
        length_objectOthers (hbuilt o (List.mem_cons_self ..)),
        ih fun o' ho' => hbuilt o' (List.mem_cons_of_mem _ ho')]

/-- The gaps of the first pass. -/
theorem gaps_reserved (addr : List Word16) {objs : List GroupObject} {i n : Nat}
    (h : SlotsExistFrom objs n) :
    gaps (reserved addr i objs n) + objs.countP (fun o => o.outgoing ≠ none) = n := by
  induction objs generalizing i n with
  | nil => rw [reserved_nil, gaps_replicate, List.countP_nil, Nat.add_zero]
  | cons o objs ih =>
      obtain ⟨h₀, hrest⟩ := slotsExistFrom_cons.mp h
      -- without slots left no object sends
      rcases n with _ | n
      · have hnone : o.outgoing = none := by
          by_contra hne
          exact Nat.lt_irrefl 0 (h₀ hne)
        have hcount := ih (i := i) hrest
        rw [reserved_zero] at hcount
        rw [reserved_zero, List.countP_cons_of_neg (by rw [hnone]; simp)]
        exact hcount
      · have hcount := ih (i := i + 1) hrest
        rw [Nat.add_sub_cancel] at hcount
        rw [reserved, GroupObject.sendingSlot]
        rcases hout : o.outgoing with _ | ga
        · rw [Option.map_none, gaps_cons_none, List.countP_cons_of_neg (by rw [hout]; simp)]
          omega
        · rw [Option.map_some, gaps_cons_some, List.countP_cons_of_pos (by rw [hout]; simp)]
          omega

/-- The second pass fills all gaps. -/
theorem gaps_eq_length_others (addr : List Word16) {objs : List GroupObject}
    (hbuilt : ∀ o ∈ objs, o.Built) (h : SlotsExistFrom objs (associationCount objs)) :
    gaps (reserved addr 0 objs (associationCount objs)) =
      (others addr (objectAddresses 0 objs)).length := by
  have hcount := gaps_reserved addr (i := 0) h
  -- an object that sends has one slot more than it has other addresses
  have htotal : associationCount objs =
      (objs.map (·.otherCount)).sum + objs.countP fun o => o.outgoing ≠ none := by
    clear h hcount
    induction objs with
    | nil => rfl
    | cons o objs ih =>
        have ho := hbuilt o (List.mem_cons_self ..)
        have ih := ih fun o' ho' => hbuilt o' (List.mem_cons_of_mem _ ho')
        rw [associationCount] at ih ⊢
        rw [List.map_cons, List.sum_cons, List.map_cons, List.sum_cons, ih,
          GroupObject.otherCount]
        rcases hout : o.outgoing with _ | ga
        · rw [if_pos rfl, List.countP_cons_of_neg (by rw [hout]; simp)]
          omega
        · have hpos := List.length_pos_of_mem (ho.outgoing_mem ga hout)
          rw [if_neg nofun, List.countP_cons_of_pos (by rw [hout]; simp)]
          omega
  rw [length_others hbuilt]
  omega

/-! ## What is in the table -/

theorem reduceOption_reserved_cons {addr : List Word16} {o : GroupObject}
    {objs : List GroupObject} {i n : Nat} (h : SlotsExistFrom (o :: objs) n) :
    (reserved addr i (o :: objs) n).reduceOption =
      (o.sendingSlot addr i).toList ++ (reserved addr (i + 1) objs (n - 1)).reduceOption := by
  rcases n with _ | n
  · have hnone : o.outgoing = none := by
      by_contra hne
      exact Nat.lt_irrefl 0 ((slotsExistFrom_cons.mp h).1 hne)
    rw [reserved_zero, reserved_zero, GroupObject.sendingSlot, hnone]
    rfl
  · rw [reserved, Nat.add_sub_cancel]
    rcases o.sendingSlot addr i with _ | s
    · rw [List.reduceOption_cons_of_none]
      rfl
    · rw [List.reduceOption_cons_of_some]
      rfl

theorem objectOthers_perm {o : GroupObject} (h : o.Built) (addr : List Word16) (i : Nat) :
    ((o.objAddress.map fun a => (⟨i, o, a⟩ : ObjectAddress)).map (·.slot addr)).Perm
      ((o.sendingSlot addr i).toList ++ objectOthers addr i o) := by
  have hsend : (o.sendingSlot addr i).toList =
      o.outgoing.toList.map fun a => ⟨o.objNo, addr.idxOf a, i⟩ := by
    rw [GroupObject.sendingSlot]
    rcases o.outgoing with _ | ga
    · rfl
    · rfl
  rw [List.map_map, hsend, objectOthers_eq, ← List.map_append]
  exact h.perm.map _

/-- The two passes put an entry for every address of every object. -/
theorem entries_perm {addr : List Word16} {objs : List GroupObject} {i n : Nat}
    (hbuilt : ∀ o ∈ objs, o.Built) (h : SlotsExistFrom objs n) :
    ((reserved addr i objs n).reduceOption ++ others addr (objectAddresses i objs)).Perm
      ((objectAddresses i objs).map (·.slot addr)) := by
  induction objs generalizing i n with
  | nil =>
      rw [reserved_nil, List.reduceOption_replicate_none]
      exact .refl _
  | cons o objs ih =>
      have hrest := ih (i := i + 1) (fun o' ho' => hbuilt o' (List.mem_cons_of_mem _ ho'))
        (slotsExistFrom_cons.mp h).2
      have ho := objectOthers_perm (hbuilt o (List.mem_cons_self ..)) addr i
      rw [reduceOption_reserved_cons h, others_objectAddresses_cons, objectAddresses,
        List.map_append]
      -- the entries of `o` are brought together
      refine List.Perm.trans ?_ (ho.symm.append hrest)
      rw [List.append_assoc, List.append_assoc]
      refine List.Perm.append_left _ ?_
      rw [← List.append_assoc, ← List.append_assoc]
      exact List.perm_append_comm.append_right _

/-- `t.addr`. -/
def addressTable (objs : List GroupObject) : List Word16 :=
  exchangeSort BitVec.toNat (collectAddresses objs)

/-- The slots behind the first pass. -/
def sendingSlots (objs : List GroupObject) : List (Option Slot) :=
  reserved (addressTable objs) 0 objs (associationCount objs)

/-- What the second pass puts into the gaps. -/
def otherSlots (objs : List GroupObject) : List Slot :=
  others (addressTable objs) (objectAddresses 0 objs)

/-- The table that `buildAddrTable` makes. -/
def builtTable (objs : List GroupObject) : AddrTable :=
  { addr := addressTable objs, slots := fill (sendingSlots objs) (otherSlots objs) }

theorem mem_addressTable {objs : List GroupObject} {a : Word16} :
    a ∈ addressTable objs ↔ ∃ o ∈ objs, a ∈ o.objAddress := by
  rw [addressTable, (exchangeSort_perm _ _).mem_iff, mem_collectAddresses]

theorem ascending_addressTable (objs : List GroupObject) :
    Ascending BitVec.toNat (addressTable objs) :=
  ascending_exchangeSort
    ((nodup_collectAddresses objs).map fun _ _ hab => BitVec.eq_of_toNat_eq hab)

theorem mem_objectAddresses {objs : List GroupObject} {i : Nat} {p : ObjectAddress}
    (h : p ∈ objectAddresses i objs) :
    i ≤ p.i ∧ objs[p.i - i]? = some p.o ∧ p.addr ∈ p.o.objAddress := by
  induction objs generalizing i with
  | nil => cases h
  | cons o objs ih =>
      rcases List.mem_append.mp h with h | h
      · obtain ⟨a, ha, rfl⟩ := List.mem_map.mp h
        refine ⟨Nat.le_refl i, ?_, ha⟩
        show (o :: objs)[i - i]? = some o
        rw [Nat.sub_self]
        rfl
      · obtain ⟨hle, hget, haddr⟩ := ih h
        refine ⟨by omega, ?_, haddr⟩
        rw [show p.i - i = p.i - (i + 1) + 1 by omega]
        exact hget

theorem addr_mem_addressTable {objs : List GroupObject} {p : ObjectAddress}
    (h : p ∈ objectAddresses 0 objs) : p.addr ∈ addressTable objs := by
  obtain ⟨-, hget, haddr⟩ := mem_objectAddresses h
  exact mem_addressTable.mpr ⟨p.o, List.mem_of_getElem? hget, haddr⟩

theorem buildAddrTable_of_slotsExist {objs : List GroupObject} (hbuilt : ∀ o ∈ objs, o.Built)
    (h : SlotsExistFrom objs (associationCount objs)) :
    buildAddrTable objs = .ok (builtTable objs) := by
  have hsend : ∀ o ∈ objs, ∀ ga, o.outgoing = some ga → ga ∈ addressTable objs :=
    fun o ho ga hga => mem_addressTable.mpr ⟨o, ho, (hbuilt o ho).outgoing_mem ga hga⟩
  have hfirst : putSending (addressTable objs) 0 objs
      (List.replicate (associationCount objs) none) = .ok (sendingSlots objs) :=
    putSending_of_slotsExist [] hsend (fun _ => rfl) h
  have hgaps : (otherSlots objs).length ≤ gaps (sendingSlots objs) :=
    Nat.le_of_eq (gaps_eq_length_others (addressTable objs) hbuilt h).symm
  have hsecond : putOthers (addressTable objs) (objectAddresses 0 objs) (sendingSlots objs)
      (nextGap (sendingSlots objs) 0) =
        .ok (fill (sendingSlots objs) (otherSlots objs)) :=
    putOthers_of_gaps (s := []) (fun p hp => addr_mem_addressTable hp) hgaps
  rw [buildAddrTable, ← addressTable, ← associationCount, hfirst, Checked.ok_bind, hsecond]
  rfl

theorem buildAddrTable_of_not_slotsExist {objs : List GroupObject}
    (h : ¬ SlotsExistFrom objs (associationCount objs)) : ¬ (buildAddrTable objs).Returns := by
  rintro ⟨t, ht⟩
  obtain ⟨slots, hslots, -⟩ := Checked.bind_eq_ok.mp ht
  have hfault : ¬ (putSending (addressTable objs) 0 objs
      (List.replicate (associationCount objs) none)).Returns :=
    putSending_of_not_slotsExist [] (Nat.le_refl 0) (fun _ => rfl) h
  exact hfault ⟨slots, hslots⟩

/-! ## The first entry of an object -/

/-- The first entry in the table that was made for object `i`. -/
def AddrTable.firstEntry (t : AddrTable) (i : Nat) : Option Slot :=
  t.slots.findSome? fun s => s.filter fun s => s.obj = i

theorem mem_of_findSome?_filter {α : Type} {p : α → Bool} {l : List (Option α)} {x : α}
    (h : l.findSome? (fun s => s.filter p) = some x) : some x ∈ l ∧ p x = true := by
  obtain ⟨s, hs, hx⟩ := List.exists_of_findSome?_eq_some h
  obtain ⟨rfl, hp⟩ := Option.filter_eq_some_iff.mp hx
  exact ⟨hs, hp⟩

theorem AddrTable.firstEntry_eq {t : AddrTable} {i k : Nat} {e : Slot}
    (hslot : t.slots[k]? = some (some e)) (he : e.obj = i) :
    t.firstEntry i =
      ((t.slots.take k).findSome? fun s => s.filter fun s => s.obj = i).or (some e) := by
  have hlt : k < t.slots.length := (List.getElem?_eq_some_iff.mp hslot).1
  have hdrop : t.slots.drop k = some e :: t.slots.drop (k + 1) := by
    rw [List.drop_eq_getElem_cons hlt, (List.getElem?_eq_some_iff.mp hslot).2]
  have hfirst : Option.filter (fun s : Slot => decide (s.obj = i)) (some e) = some e :=
    Option.filter_some_pos (decide_eq_true he)
  rw [firstEntry]
  conv_lhs => rw [← List.take_append_drop k t.slots, List.findSome?_append, hdrop,
    List.findSome?_cons, hfirst]

/-- The slots in front of number `k` that the first pass leaves. -/
theorem gaps_take_reserved (addr : List Word16) {objs : List GroupObject} {i n k : Nat}
    (hn : k ≤ n) (hk : k ≤ objs.length) :
    gaps ((reserved addr i objs n).take k) = (objs.take k).countP fun o => o.outgoing = none := by
  induction k generalizing i n objs with
  | zero => rw [List.take_zero, List.take_zero, gaps_nil, List.countP_nil]
  | succ k ih =>
      obtain ⟨o, objs, rfl⟩ := List.exists_cons_of_length_pos (Nat.lt_of_lt_of_le k.succ_pos hk)
      have hpos : 0 < n := Nat.lt_of_lt_of_le k.succ_pos hn
      obtain ⟨n, rfl⟩ := Nat.exists_eq_succ_of_ne_zero (Nat.ne_of_gt hpos)
      rw [List.length_cons] at hk
      have hrest := ih (i := i + 1) (Nat.le_of_succ_le_succ hn) (Nat.le_of_succ_le_succ hk)
      rw [reserved, List.take_succ_cons, List.take_succ_cons, GroupObject.sendingSlot]
      rcases hout : o.outgoing with _ | ga
      · rw [Option.map_none, gaps_cons_none, hrest, List.countP_cons_of_pos (by rw [hout]; simp)]
      · rw [Option.map_some, gaps_cons_some, hrest, List.countP_cons_of_neg (by rw [hout]; simp)]

theorem getElem?_reserved (addr : List Word16) {objs : List GroupObject} {o : GroupObject}
    {i n k : Nat} (hn : k < n) (hk : objs[k]? = some o) :
    (reserved addr i objs n)[k]? = some (o.sendingSlot addr (i + k)) := by
  induction k generalizing i n objs with
  | zero =>
      obtain ⟨n, rfl⟩ := Nat.exists_eq_succ_of_ne_zero (Nat.ne_of_gt hn)
      rcases objs with _ | ⟨o', objs⟩
      · cases hk
      · obtain rfl := Option.some.inj hk
        rfl
  | succ k ih =>
      obtain ⟨n, rfl⟩ := Nat.exists_eq_succ_of_ne_zero (Nat.ne_of_gt (Nat.zero_lt_of_lt hn))
      rcases objs with _ | ⟨o', objs⟩
      · cases hk
      · rw [reserved, List.getElem?_cons_succ, ih (i := i + 1) (Nat.lt_of_succ_lt_succ hn) hk]
        rw [Nat.add_assoc, Nat.add_comm 1 k]

/-- An entry of the first pass stands in the slot of its object. -/
theorem obj_of_reserved {addr : List Word16} {objs : List GroupObject} {i n k : Nat} {e : Slot}
    (h : (reserved addr i objs n)[k]? = some (some e)) : e.obj = i + k := by
  induction objs generalizing i n k with
  | nil =>
      rw [reserved_nil, List.getElem?_replicate] at h
      split at h
      · cases h
      · cases h
  | cons o objs ih =>
      rcases n with _ | n
      · rw [reserved_zero] at h
        cases h
      · rcases k with _ | k
        · have hslot : o.sendingSlot addr i = some e := Option.some.inj h
          obtain ⟨ga, -, rfl⟩ := Option.map_eq_some_iff.mp hslot
          rfl
        · have hrest : (reserved addr (i + 1) objs n)[k]? = some (some e) := h
          rw [ih hrest, Nat.add_assoc, Nat.add_comm 1 k]

theorem obj_of_mem_take_reserved {addr : List Word16} {objs : List GroupObject} {n k : Nat}
    {e : Slot} (h : some e ∈ (reserved addr 0 objs n).take k) : e.obj < k := by
  obtain ⟨j, hj⟩ := List.getElem?_of_mem h
  rw [List.getElem?_take] at hj
  split at hj
  · next hlt =>
    rw [obj_of_reserved hj, Nat.zero_add]
    exact hlt
  · cases hj

theorem objectAddresses_append (i : Nat) (objs objs' : List GroupObject) :
    objectAddresses i (objs ++ objs') =
      objectAddresses i objs ++ objectAddresses (i + objs.length) objs' := by
  induction objs generalizing i with
  | nil => rfl
  | cons o objs ih =>
      rw [List.cons_append, objectAddresses, objectAddresses, ih, List.append_assoc,
        List.length_cons, Nat.add_assoc, Nat.add_comm 1]

theorem obj_of_mem_others {addr : List Word16} {ps : List ObjectAddress} {e : Slot}
    (h : e ∈ others addr ps) :
    ∃ p ∈ ps, p.o.InGap p.addr ∧ e = p.slot addr := by
  obtain ⟨p, hp, rfl⟩ := List.mem_map.mp h
  obtain ⟨hmem, hgap⟩ := List.mem_filter.mp hp
  exact ⟨p, hmem, of_decide_eq_true hgap, rfl⟩

/-- The other addresses of an object stand in one piece behind those of the objects before it. -/
theorem otherSlots_split {objs : List GroupObject} {o : GroupObject} {i : Nat}
    (hbuilt : ∀ o ∈ objs, o.Built) (hi : objs[i]? = some o) :
    ∃ before behind, otherSlots objs =
        before ++ (objectOthers (addressTable objs) i o ++ behind) ∧
      before.length = ((objs.take i).map (·.otherCount)).sum ∧
      (∀ e ∈ before, e.obj < i) ∧ ∀ e ∈ behind, i < e.obj := by
  obtain ⟨hlt, hget⟩ := List.getElem?_eq_some_iff.mp hi
  have hlen : (objs.take i).length = i := by
    rw [List.length_take, Nat.min_eq_left (Nat.le_of_lt hlt)]
  have hsplit : objs = objs.take i ++ o :: objs.drop (i + 1) := by
    rw [← hget, ← List.drop_eq_getElem_cons hlt, List.take_append_drop]
  -- the objects in front of `i`, and those behind it
  refine ⟨others (addressTable objs) (objectAddresses 0 (objs.take i)),
    others (addressTable objs) (objectAddresses (i + 1) (objs.drop (i + 1))), ?_, ?_, ?_, ?_⟩
  · have hall : objectAddresses 0 objs = objectAddresses 0 (objs.take i) ++
        objectAddresses i (o :: objs.drop (i + 1)) := by
      conv_lhs => rw [hsplit, objectAddresses_append, hlen, Nat.zero_add]
    rw [otherSlots, hall, others_append, others_objectAddresses_cons]
  · exact length_others (fun o' ho' => hbuilt o' (List.mem_of_mem_take ho')) 0
  · intro e he
    obtain ⟨p, hp, -, rfl⟩ := obj_of_mem_others he
    obtain ⟨-, hget', -⟩ := mem_objectAddresses hp
    have hlt' := (List.getElem?_eq_some_iff.mp hget').1
    rw [hlen, Nat.sub_zero] at hlt'
    exact hlt'
  · intro e he
    obtain ⟨p, hp, -, rfl⟩ := obj_of_mem_others he
    exact (mem_objectAddresses hp).1

/-- Another address of object `i` is among the first `g` entries exactly if they reach behind those
    of the objects before it. -/
theorem exists_mem_take_otherSlots {objs : List GroupObject} {o : GroupObject} {i g : Nat}
    (hbuilt : ∀ o ∈ objs, o.Built) (hi : objs[i]? = some o) :
    (∃ e ∈ (otherSlots objs).take g, e.obj = i) ↔
      o.otherCount ≠ 0 ∧ ((objs.take i).map (·.otherCount)).sum < g := by
  obtain ⟨before, behind, hsplit, hlen, hbefore, hbehind⟩ := otherSlots_split hbuilt hi
  have ho := length_objectOthers (hbuilt o (List.mem_of_getElem? hi)) (addressTable objs) i
  rw [← hlen, ← ho, hsplit]
  constructor
  · rintro ⟨e, he, hobj⟩
    have hmem := List.mem_of_mem_take he
    constructor
    · intro hzero
      rw [List.length_eq_zero_iff.mp hzero, List.nil_append] at hmem
      rcases List.mem_append.mp hmem with h | h
      · exact absurd (hbefore e h) (by omega)
      · exact absurd (hbehind e h) (by omega)
    -- the entries in front would be all that is taken
    · by_contra hle
      rw [List.take_append_of_le_length (not_lt.mp hle)] at he
      exact absurd (hbefore e (List.mem_of_mem_take he)) (by omega)
  · rintro ⟨hne, hlt⟩
    obtain ⟨x, xs, hx⟩ := List.exists_cons_of_length_pos (Nat.pos_of_ne_zero hne)
    refine ⟨x, ?_, ?_⟩
    · rw [List.take_append, hx, List.mem_append]
      refine .inr ?_
      obtain ⟨m, hm⟩ := Nat.exists_eq_succ_of_ne_zero (Nat.sub_ne_zero_of_lt hlt)
      rw [hm, List.cons_append, List.take_succ_cons]
      exact List.mem_cons_self ..
    · have hmem : x ∈ objectOthers (addressTable objs) i o := hx ▸ List.mem_cons_self ..
      rw [objectOthers_eq] at hmem
      obtain ⟨a, -, rfl⟩ := List.mem_map.mp hmem
      rfl

/-! ## The table -/

/-- The group address and the object number that an entry stands for. -/
def AddrTable.association (t : AddrTable) (s : Option Slot) : Option (Word16 × Int) :=
  s.bind fun s => t.addr[s.addr]?.map fun a => (a, s.objNo)

/-- What the tables of a device are for. -/
structure AddrTable.Correct (objs : List GroupObject) (t : AddrTable) : Prop where
  ascending : Ascending BitVec.toNat t.addr
  addresses : ∀ a, a ∈ t.addr ↔ ∃ o ∈ objs, a ∈ o.objAddress
  /-- One entry for each address of each object, -/
  associations : (t.slots.map t.association).Perm
    (objs.flatMap fun o => o.objAddress.map fun a => some (a, o.objNo))
  /-- noted for an object of that number; -/
  owner : ∀ s, some s ∈ t.slots → ∃ o, objs[s.obj]? = some o ∧ o.objNo = s.objNo
  /-- the first one of an object that sends has the address it sends to. -/
  sending : ∀ i o a, objs[i]? = some o → o.outgoing = some a →
    ∃ s, t.firstEntry i = some s ∧ t.addr[s.addr]? = some a

/-- The number of each sending object is one of a slot. -/
def SlotsExist (objs : List GroupObject) : Prop :=
  ∀ i o, objs[i]? = some o → o.outgoing ≠ none → i < associationCount objs

/-- If a sending object has other addresses, the gaps in front of its slot are not more than the
    other addresses of the objects before it. -/
def GapsTaken (objs : List GroupObject) : Prop :=
  ∀ i o, objs[i]? = some o → o.outgoing ≠ none → o.otherCount ≠ 0 →
    ((objs.take i).countP fun o => o.outgoing = none) ≤ ((objs.take i).map (·.otherCount)).sum

section Table

variable {objs : List GroupObject}

theorem slots_perm (hbuilt : ∀ o ∈ objs, o.Built) (h : SlotsExist objs) :
    (builtTable objs).slots.reduceOption.Perm
      ((objectAddresses 0 objs).map (·.slot (addressTable objs))) := by
  have hfill := fill_perm (sendingSlots objs) (otherSlots objs)
  have hgaps : gaps (sendingSlots objs) = (otherSlots objs).length :=
    gaps_eq_length_others (addressTable objs) hbuilt h
  rw [hgaps, List.take_length] at hfill
  exact hfill.trans (entries_perm hbuilt h)

theorem none_notMem_slots (hbuilt : ∀ o ∈ objs, o.Built) (h : SlotsExist objs) :
    none ∉ (builtTable objs).slots :=
  none_notMem_fill (Nat.le_of_eq (gaps_eq_length_others (addressTable objs) hbuilt h))

/-- An entry of the table is one for an address of an object. -/
theorem exists_objectAddress (hbuilt : ∀ o ∈ objs, o.Built) (h : SlotsExist objs) {s : Slot}
    (hs : some s ∈ (builtTable objs).slots) :
    ∃ p ∈ objectAddresses 0 objs, p.slot (addressTable objs) = s :=
  List.mem_map.mp ((slots_perm hbuilt h).mem_iff.mp (List.reduceOption_mem_iff.mpr hs))

theorem getElem?_idxOf {a : Word16} {as : List Word16} (h : a ∈ as) :
    as[as.idxOf a]? = some a := by
  have hlt := List.idxOf_lt_length_of_mem h
  rw [List.getElem?_eq_getElem hlt, List.getElem_idxOf hlt]

theorem association_slot {p : ObjectAddress} (h : p ∈ objectAddresses 0 objs) :
    (builtTable objs).association (some (p.slot (addressTable objs))) =
      some (p.addr, p.o.objNo) := by
  show ((addressTable objs)[(addressTable objs).idxOf p.addr]?).map (fun a => (a, p.o.objNo)) = _
  rw [getElem?_idxOf (addr_mem_addressTable h), Option.map_some]

theorem map_objectAddresses (objs : List GroupObject) (i : Nat) :
    ((objectAddresses i objs).map fun p => some (p.addr, p.o.objNo)) =
      objs.flatMap fun o => o.objAddress.map fun a => some (a, o.objNo) := by
  induction objs generalizing i with
  | nil => rfl
  | cons o objs ih =>
      rw [objectAddresses, List.map_append, ih, List.map_map, List.flatMap_cons]
      rfl

theorem eq_map_some_reduceOption {α : Type} {l : List (Option α)} (h : none ∉ l) :
    l = l.reduceOption.map some := by
  induction l with
  | nil => rfl
  | cons o l ih =>
      rcases o with _ | a
      · exact absurd (List.mem_cons_self ..) h
      · rw [List.reduceOption_cons_of_some, List.map_cons,
          ← ih fun hmem => h (List.mem_cons_of_mem _ hmem)]

/-- What stands in the slots. -/
def tableEntries (objs : List GroupObject) : List Slot := (builtTable objs).slots.reduceOption

theorem slots_eq_map (hbuilt : ∀ o ∈ objs, o.Built) (h : SlotsExist objs) :
    (builtTable objs).slots = (tableEntries objs).map some :=
  eq_map_some_reduceOption (none_notMem_slots hbuilt h)

theorem length_objectAddresses (objs : List GroupObject) (i : Nat) :
    (objectAddresses i objs).length = associationCount objs := by
  induction objs generalizing i with
  | nil => rfl
  | cons o objs ih =>
      rw [objectAddresses, List.length_append, List.length_map, ih, associationCount,
        associationCount, List.map_cons, List.sum_cons]

/-- There is one for each address of each object. -/
theorem length_tableEntries (hbuilt : ∀ o ∈ objs, o.Built) (h : SlotsExist objs) :
    (tableEntries objs).length = associationCount objs := by
  rw [tableEntries, (slots_perm hbuilt h).length_eq, List.length_map, length_objectAddresses]

theorem associations_perm (hbuilt : ∀ o ∈ objs, o.Built) (h : SlotsExist objs) :
    ((builtTable objs).slots.map (builtTable objs).association).Perm
      (objs.flatMap fun o => o.objAddress.map fun a => some (a, o.objNo)) := by
  have hperm := ((slots_perm hbuilt h).map some).map (builtTable objs).association
  rw [← eq_map_some_reduceOption (none_notMem_slots hbuilt h), List.map_map, List.map_map] at hperm
  rw [← map_objectAddresses objs 0]
  refine hperm.trans (List.Perm.of_eq (List.map_congr_left fun p hp => ?_))
  exact association_slot hp

theorem owner_of_mem (hbuilt : ∀ o ∈ objs, o.Built) (h : SlotsExist objs) {s : Slot}
    (hs : some s ∈ (builtTable objs).slots) : ∃ o, objs[s.obj]? = some o ∧ o.objNo = s.objNo := by
  obtain ⟨p, hp, rfl⟩ := exists_objectAddress hbuilt h hs
  obtain ⟨-, hget, -⟩ := mem_objectAddresses hp
  exact ⟨p.o, hget, rfl⟩

/-- The first entry of a sending object is the right one unless another of its addresses gets a gap
    in front of it. -/
theorem sending_iff (hbuilt : ∀ o ∈ objs, o.Built) (h : SlotsExist objs) {i : Nat}
    {o : GroupObject} {a : Word16} (hi : objs[i]? = some o) (hout : o.outgoing = some a) :
    (∃ s, (builtTable objs).firstEntry i = some s ∧ (builtTable objs).addr[s.addr]? = some a) ↔
      ¬ ∃ e ∈ (otherSlots objs).take (gaps ((sendingSlots objs).take i)), e.obj = i := by
  have ho := hbuilt o (List.mem_of_getElem? hi)
  have hn : i < associationCount objs := h i o hi (by rw [hout]; nofun)
  have ha : a ∈ addressTable objs :=
    mem_addressTable.mpr ⟨o, List.mem_of_getElem? hi, ho.outgoing_mem a hout⟩
  -- the slot of the object
  have hslot : (builtTable objs).slots[i]? =
      some (some ⟨o.objNo, (addressTable objs).idxOf a, i⟩) := by
    refine getElem?_fill_of_some ?_
    have hsend := getElem?_reserved (addressTable objs) (i := 0) hn hi
    rw [GroupObject.sendingSlot, hout, Nat.zero_add] at hsend
    exact hsend
  have htake : (builtTable objs).slots.take i =
      fill ((sendingSlots objs).take i) (otherSlots objs) := take_fill _ _ _
  have hentry := AddrTable.firstEntry_eq (i := i) hslot rfl
  rw [htake] at hentry
  rcases hfirst : (fill ((sendingSlots objs).take i) (otherSlots objs)).findSome?
      (fun s => s.filter fun s => s.obj = i) with _ | x
  · -- no entry of the object is in front of its slot
    rw [hfirst, Option.none_or] at hentry
    refine iff_of_true ⟨_, hentry, getElem?_idxOf ha⟩ ?_
    rintro ⟨e, he, hobj⟩
    have hmem : some e ∈ fill ((sendingSlots objs).take i) (otherSlots objs) :=
      mem_fill.mpr (.inr he)
    have hnone := List.findSome?_eq_none_iff.mp hfirst _ hmem
    rw [Option.filter_some, if_pos (decide_eq_true hobj)] at hnone
    cases hnone
  · obtain ⟨hx, hobj⟩ := mem_of_findSome?_filter hfirst
    have hobj : x.obj = i := of_decide_eq_true hobj
    have hother : x ∈ (otherSlots objs).take (gaps ((sendingSlots objs).take i)) := by
      rcases mem_fill.mp hx with hsend | hother
      · exact absurd (obj_of_mem_take_reserved hsend) (by omega)
      · exact hother
    refine iff_of_false ?_ fun hno => hno ⟨x, hother, hobj⟩
    rw [hfirst, Option.some_or] at hentry
    rintro ⟨s, hs, haddr⟩
    obtain rfl : x = s := Option.some.inj (hentry.symm.trans hs)
    obtain ⟨p, hp, hgap, rfl⟩ := obj_of_mem_others (List.mem_of_mem_take hother)
    obtain ⟨-, hget, -⟩ := mem_objectAddresses hp
    have hpo : p.o = o := by
      have hpi : p.i = i := hobj
      rw [Nat.sub_zero, hpi] at hget
      exact Option.some.inj (hget.symm.trans hi)
    have hpaddr : p.addr = a :=
      Option.some.inj ((getElem?_idxOf (addr_mem_addressTable hp)).symm.trans haddr)
    rw [hpo, hpaddr, ho.inGap_iff] at hgap
    exact hgap hout

end Table

/-- `BuildAddrTable` makes correct tables exactly for the devices whose sending objects all have a
    slot with no gap in front of it for another of their addresses. -/
theorem buildAddrTable_correct_iff (b : BCUType) (objs : List GroupObject)
    (h : ∀ o ∈ objs, ∃ o₀ : GroupObject, o₀.buildObjAddress b = .ok o) :
    (∃ t, buildAddrTable objs = .ok t ∧ t.Correct objs) ↔ SlotsExist objs ∧ GapsTaken objs := by
  have hbuilt : ∀ o ∈ objs, o.Built := fun o ho =>
    have ⟨_, ho₀⟩ := h o ho
    GroupObject.built_of_buildObjAddress ho₀
  by_cases hexist : SlotsExist objs
  swap
  · refine iff_of_false ?_ fun hcond => hexist hcond.1
    rintro ⟨t, ht, -⟩
    exact buildAddrTable_of_not_slotsExist hexist ⟨t, ht⟩
  -- what an object's first entry is, in terms of the condition
  have hsending : ∀ i o a, objs[i]? = some o → o.outgoing = some a →
      ((∃ s, (builtTable objs).firstEntry i = some s ∧
          (builtTable objs).addr[s.addr]? = some a) ↔
        (o.otherCount ≠ 0 → ((objs.take i).countP fun o => o.outgoing = none) ≤
          ((objs.take i).map (·.otherCount)).sum)) := by
    intro i o a hi hout
    have hlt := (List.getElem?_eq_some_iff.mp hi).1
    have hn : i < associationCount objs := hexist i o hi (by rw [hout]; nofun)
    rw [sending_iff hbuilt hexist hi hout, exists_mem_take_otherSlots hbuilt hi, sendingSlots,
      gaps_take_reserved _ (Nat.le_of_lt hn) (Nat.le_of_lt hlt), not_and, not_lt]
  constructor
  · rintro ⟨t, ht, hcorrect⟩
    cases (buildAddrTable_of_slotsExist hbuilt hexist).symm.trans ht
    refine ⟨hexist, fun i o hi hout hother => ?_⟩
    obtain ⟨a, ha⟩ := Option.ne_none_iff_exists'.mp hout
    exact (hsending i o a hi ha).mp (hcorrect.sending i o a hi ha) hother
  · rintro ⟨-, htaken⟩
    refine ⟨builtTable objs, buildAddrTable_of_slotsExist hbuilt hexist,
      ascending_addressTable objs, fun a => mem_addressTable, associations_perm hbuilt hexist,
      fun s hs => owner_of_mem hbuilt hexist hs, fun i o a hi hout => ?_⟩
    exact (hsending i o a hi hout).mpr (htaken i o hi (by rw [hout]; nofun))

/-- A description of an object that receives one address and sends to another. -/
def receiveAndSend (objNo receive send : Int) : GroupObject :=
  { objNo, receiveAddress := [receive], sendAddress := send, sendAddressLineno := 1 }

/-- What `BuildObjAddress` makes of it. -/
def receivingAndSending (objNo : Int) (receive send : Word16) : GroupObject :=
  { receiveAndSend objNo receive.toNat send.toNat with objAddress := [receive, send] }

/-- Two objects that share both addresses. -/
theorem buildAddrTable_correct_iff_sharing :
    let objs := [receivingAndSending 0 1#16 2#16, receivingAndSending 1 2#16 1#16]
    (∃ t, buildAddrTable objs = .ok t ∧ t.Correct objs) ↔ SlotsExist objs ∧ GapsTaken objs := by
  intro objs
  refine buildAddrTable_correct_iff .bcu20 objs fun o ho => ?_
  obtain rfl | ho := List.mem_cons.mp ho
  · exact ⟨receiveAndSend 0 1 2, rfl⟩
  · obtain rfl := List.mem_singleton.mp ho
    exact ⟨receiveAndSend 1 2 1, rfl⟩

/-- Behind an object without addresses: its slot is a gap in front of the other one's, and the
    address that the other one receives is put there.  It becomes the one it sends to. -/
theorem buildAddrTable_receive_before_send :
    [{}, receiveAndSend 1 1 2].mapM (GroupObject.buildObjAddress .bcu20) =
        .ok [{}, receivingAndSending 1 1#16 2#16] ∧
      ¬ ∃ t, buildAddrTable [{}, receivingAndSending 1 1#16 2#16] = .ok t ∧
        t.Correct [{}, receivingAndSending 1 1#16 2#16] := by
  refine ⟨rfl, ?_⟩
  rintro ⟨t, ht, hcorrect⟩
  have htable : buildAddrTable [{}, receivingAndSending 1 1#16 2#16] =
      .ok ⟨[1#16, 2#16], [some ⟨1, 0, 1⟩, some ⟨1, 1, 1⟩]⟩ := by decide
  cases htable.symm.trans ht
  obtain ⟨s, hs, haddr⟩ := hcorrect.sending 1 (receivingAndSending 1 1#16 2#16) 2#16 rfl rfl
  -- the first entry of object 1 is the one in the gap
  obtain rfl : (⟨1, 0, 1⟩ : Slot) = s := Option.some.inj hs
  exact absurd haddr (by decide)

/-! ## The order of the addresses -/

theorem addr_of_buildAddrTable {objs : List GroupObject} {t : AddrTable}
    (h : buildAddrTable objs = .ok t) : t.addr = addressTable objs := by
  rw [buildAddrTable] at h
  obtain ⟨sent, -, h⟩ := Checked.bind_eq_ok.mp h
  obtain ⟨slots, -, h⟩ := Checked.bind_eq_ok.mp h
  cases h
  rfl

/-- The counters of `sort`, which are of type `int`, stay far below their limit. -/
theorem length_collectAddresses_le (objs : List GroupObject) :
    (collectAddresses objs).length ≤ 2 ^ 16 := by
  have hnodup : ((collectAddresses objs).map BitVec.toNat).Nodup :=
    (nodup_collectAddresses objs).map fun _ _ hab => BitVec.eq_of_toNat_eq hab
  have hsub : (collectAddresses objs).map BitVec.toNat ⊆ List.range (2 ^ 16) := by
    intro k hk
    obtain ⟨a, -, rfl⟩ := List.mem_map.mp hk
    exact List.mem_range.mpr a.isLt
  have hle := List.Nodup.length_le_of_subset hnodup hsub
  rwa [List.length_map, List.length_range] at hle

/-- `sort` brings the elements of any array into ascending order, and the addresses that
    `addAddress` has collected into strictly ascending order. -/
theorem sort_ascending_permutation {α κ : Type} [LinearOrder κ] (key : α → κ) {n : Nat}
    (data : Cells α n) (objs : List GroupObject) :
    (∃ d, sort key data = .ok d ∧ d.1.Perm data.1 ∧ d.1.Pairwise fun a b => key a ≤ key b) ∧
      ∃ d, sort BitVec.toNat ⟨collectAddresses objs, rfl⟩ = .ok d ∧
        d.1.Perm (collectAddresses objs) ∧ (d.1.Pairwise fun a b => a < b) ∧
        ∀ t, buildAddrTable objs = .ok t → t.addr = d.1 := by
  constructor
  · obtain ⟨d, hsort, hd⟩ := sort_eq key data
    refine ⟨d, hsort, ?_, ?_⟩
    · rw [hd]
      exact exchangeSort_perm key data.1
    · rw [hd]
      exact exchangeSort_sorted data.1
  · obtain ⟨d, hsort, hd⟩ := sort_eq BitVec.toNat
      (⟨collectAddresses objs, rfl⟩ : Cells Word16 (collectAddresses objs).length)
    refine ⟨d, hsort, ?_, ?_, ?_⟩
    · rw [hd]
      exact exchangeSort_perm BitVec.toNat (collectAddresses objs)
    · rw [hd]
      exact (ascending_addressTable objs).imp fun hab => BitVec.lt_def.mpr hab
    · intro t ht
      rw [hd]
      exact addr_of_buildAddrTable ht

example : (sort id ⟨[3, 1, 2, 1], rfl⟩ : Checked (Cells Nat 4)) = .ok ⟨[1, 1, 2, 3], rfl⟩ := by
  decide

end BcuSdk.BcuGen
