/-
  BcuSdk.Eibd.GroupCacheTable

  What each operation of the group cache does to its array of entries and to
  its ring of updates: the array stays sorted and changes as a map from
  addresses to values, and a round of `LastUpdates` returns the updates of its
  window.
-/
import BcuSdk.Eibd.GroupCache
import BcuSdk.Eibd.ApduService

namespace BcuSdk.Eibd

open BcuSdk.Lib

/-! ## Group values -/

/-- Only the two codes of a group value lead to the class of one. -/
theorem APDU.classOf_groupValue {c0 c1 : Byte} {init : CArray → Option APDU} {c : CArray}
    {a : APDU} (h : classOf c0 c1 = some init) (hi : init c = some a) (ha : a.isGroupValue) :
    c0 &&& 0x03#8 = 0#8 ∧ (c1 &&& 0xC0#8 = 0x40#8 ∨ c1 &&& 0xC0#8 = 0x80#8) := by
  have hcode := hasServiceCode_of_classOf h hi
  unfold isGroupValue at ha
  split at ha
  · exact ⟨hcode.1, .inl hcode.2⟩
  · exact ⟨hcode.1, .inr hcode.2⟩
  · cases ha

/-- The test of `GroupCache::Get_L_Data` on the first two bytes of the payload. -/
theorem APDU.isGroupValue_fromPacket_iff {c0 c1 : Byte} {rest : CArray} :
    (fromPacket (c0 :: c1 :: rest)).isGroupValue ↔
      c0 &&& 0x03#8 = 0#8 ∧ (c1 &&& 0xC0#8 = 0x40#8 ∨ c1 &&& 0xC0#8 = 0x80#8) := by
  constructor
  · intro ha
    rw [fromPacket] at ha
    rcases hc : classOf c0 c1 with _ | init
    · rw [hc] at ha
      cases ha
    · rcases hi : init (c0 :: c1 :: rest) with _ | a
      · rw [hc, Option.bind_some, hi] at ha
        cases ha
      · rw [hc, Option.bind_some, hi] at ha
        exact classOf_groupValue hc hi ha
  · -- the class of a group value rejects nothing
    have hinit : ∀ mk : Bool → CArray → APDU, ∃ issmall data,
        groupValueInit mk (c0 :: c1 :: rest) = some (mk issmall data) := by
      intro mk
      rcases rest with _ | ⟨c2, rest⟩
      · exact ⟨true, _, rfl⟩
      · exact ⟨false, _, rfl⟩
    rintro ⟨h0, h1 | h1⟩
    · obtain ⟨issmall, data, hi⟩ := hinit .aGroupValueResponse
      have hc : classOf c0 c1 = some aGroupValueResponseInit := by simp only [classOf, h0, h1]
      rw [fromPacket_of_init hc hi]
      rfl
    · obtain ⟨issmall, data, hi⟩ := hinit .aGroupValueWrite
      have hc : classOf c0 c1 = some aGroupValueWriteInit := by simp only [classOf, h0, h1]
      rw [fromPacket_of_init hc hi]
      rfl

/-- `Get_L_Data` takes the group values, and nothing else, while the cache is enabled. -/
theorem groupCacheGet_eq (enable : Bool) (l : LDataPDU) :
    groupCacheGet enable l = .ok (if enable then
      (groupValue l).toList.map fun data => .cached data l.source l.dest else []) := by
  unfold groupCacheGet groupValue
  cases enable with
  | false => rfl
  | true =>
      cases TPDU.fromPacket l.data with
      | tDataXXXReq data =>
          rcases data with _ | ⟨c0, _ | ⟨c1, rest⟩⟩
          · rfl
          · rfl
          · have hread0 : readByte (c0 :: c1 :: rest) 0 = .ok c0 := rfl
            have hread1 : readByte (c0 :: c1 :: rest) 1 = .ok c1 := rfl
            have hlen : (c0 :: c1 :: rest).length ≥ 2 := by
              rw [List.length_cons, List.length_cons]
              omega
            simp only [if_true, if_pos hlen, hread0, hread1, Checked.ok_bind,
              APDU.isGroupValue_fromPacket_iff]
            split <;> rfl
      | _ => rfl

/-! ## The array of entries -/

namespace GroupCache

variable {g : GroupCache}

/-- The entries are strictly ascending in their address. -/
def Sorted (g : GroupCache) : Prop := Ascending GroupCacheEntry.key g.cache

/-- Payload and source of the entry for `addr`. -/
def value (g : GroupCache) (addr : EibAddr) : Option (CArray × EibAddr) :=
  (lookup GroupCacheEntry.key g.cache addr.toNat).map fun c => (c.data, c.src)

/-- `find` has two outcomes, and never reads outside of the array. -/
theorem find_cases (h : g.Sorted) (dst : EibAddr) :
    (∃ p c, g.find dst = .ok (some (p, c)) ∧ g.cache[p]? = some c ∧ c.dst = dst ∧
      g.value dst = some (c.data, c.src)) ∨
    g.find dst = .ok none ∧ (∀ c ∈ g.cache, c.dst ≠ dst) ∧ g.value dst = none := by
  rcases hs : search GroupCacheEntry.key g.cache dst.toNat with _ | _ | p
  · rw [search_eq h] at hs
    cases hs
  · have hnone := search_none h hs
    refine .inr ⟨by rw [find, hs]; rfl, fun c hc hdst => ?_, by rw [value, hnone]; rfl⟩
    exact lookup_eq_none_iff.mp hnone c hc (congrArg BitVec.toNat hdst)
  · obtain ⟨hp, hkey⟩ := search_some h hs
    have hget : g.cache[p]? = some g.cache[p] := List.getElem?_eq_getElem hp
    refine .inl ⟨p, g.cache[p], ?_, hget, BitVec.eq_of_toNat_eq hkey, ?_⟩
    · rw [find, hs, Checked.ok_bind]
      simp only [hget]
      rfl
    · rw [value, lookup_of_search h hs, hget]
      rfl

/-- An address that is not in the array gets an entry. -/
theorem add_sound (h : g.Sorted) {c : GroupCacheEntry} (hnew : ∀ b ∈ g.cache, b.dst ≠ c.dst) :
    (g.add c).Sorted ∧
      ∀ a, (g.add c).value a = if a = c.dst then some (c.data, c.src) else g.value a := by
  have hkeys : ∀ b ∈ g.cache, b.key ≠ c.key := fun b hb hk =>
    hnew b hb (BitVec.eq_of_toNat_eq hk)
  refine ⟨ascending_insertSorted h hkeys, fun a => ?_⟩
  have hiff : a.toNat = c.key ↔ a = c.dst := BitVec.toNat_eq.symm
  simp only [value, add, lookup_insertSorted h hkeys, hiff]
  split <;> rfl

/-- The entry of an address is overwritten. -/
theorem set_sound (h : g.Sorted) {p : Nat} {b c : GroupCacheEntry} (hget : g.cache[p]? = some b)
    (hdst : b.dst = c.dst) :
    ({ g with cache := g.cache.set p c } : GroupCache).Sorted ∧
      ∀ a, ({ g with cache := g.cache.set p c } : GroupCache).value a =
        if a = c.dst then some (c.data, c.src) else g.value a := by
  obtain ⟨hp, rfl⟩ := List.getElem?_eq_some_iff.mp hget
  have hkey : c.key = (g.cache[p]).key := (congrArg BitVec.toNat hdst).symm
  refine ⟨ascending_set h hp hkey, fun a => ?_⟩
  have hiff : a.toNat = c.key ↔ a = c.dst := BitVec.toNat_eq.symm
  simp only [value, lookup_set h hp hkey, hiff]
  split <;> rfl

/-- `remove` removes the address and leaves the others. -/
theorem remove_sound (h : g.Sorted) (addr : EibAddr) :
    ∃ g', g.remove addr = .ok g' ∧ g'.Sorted ∧
      (∀ a, g'.value a = if a = addr then none else g.value a) ∧
      g' = { g with cache := g'.cache } := by
  rcases hs : search GroupCacheEntry.key g.cache addr.toNat with _ | _ | p
  · rw [search_eq h] at hs
    cases hs
  · refine ⟨g, by rw [remove, hs]; rfl, h, fun a => ?_, rfl⟩
    split
    case isTrue heq => rw [value, heq, search_none h hs, Option.map_none]
    case isFalse => rfl
  · obtain ⟨hp, hkey⟩ := search_some h hs
    refine ⟨{ g with cache := g.cache.eraseIdx p }, by rw [remove, hs]; rfl,
      ascending_eraseIdx h p, fun a => ?_, rfl⟩
    have hiff : a.toNat = (g.cache[p]).key ↔ a = addr := by
      rw [hkey]
      exact BitVec.toNat_eq.symm
    simp only [value, lookup_eraseIdx h hp, hiff]
    split <;> rfl

/-- A telegram sets the entry of its destination and is noted among the updates; everything
    else leaves the cache as it is. -/
theorem getLData_sound (h : g.Sorted) (l : LDataPDU) (now : Nat) :
    ∃ g', g.getLData l now = .ok g' ∧ g'.Sorted ∧ g'.enable = g.enable ∧
      match g.enable, groupValue l with
      | true, some data =>
          (∀ a, g'.value a = if a = l.dest then some (data, l.source) else g.value a) ∧
            g'.pos = (g.noteUpdate l.dest).pos ∧ g'.updates = (g.noteUpdate l.dest).updates
      | _, _ => g' = g := by
  rw [getLData, groupCacheGet_eq, Checked.ok_bind]
  rcases he : g.enable with _ | _
  · exact ⟨g, rfl, h, he, rfl⟩
  · rcases hv : groupValue l with _ | data
    · exact ⟨g, rfl, h, he, rfl⟩
    · simp only [if_true, Option.toList_some, List.map_cons, List.map_nil]
      rcases find_cases h l.dest with ⟨p, c, hf, hget, hdst, -⟩ | ⟨hf, hnone, -⟩
      · obtain ⟨hsorted, hvalue⟩ := @set_sound (g.noteUpdate l.dest) h p c
          { data, src := l.source, dst := l.dest, recvtime := now } hget hdst
        exact ⟨_, by rw [hf]; rfl, hsorted, he, hvalue, rfl, rfl⟩
      · obtain ⟨hsorted, hvalue⟩ := @add_sound (g.noteUpdate l.dest) h
          { data, src := l.source, dst := l.dest, recvtime := now } hnone
        exact ⟨_, by rw [hf]; rfl, hsorted, he, hvalue, rfl, rfl⟩

/-! ## The ring of updates -/

/-- The ring has the last of all updates `history`, and `pos` counts them. -/
structure Ring (g : GroupCache) (history : List EibAddr) : Prop where
  holds : RingHolds g.updates history
  count : g.pos = BitVec.ofNat 16 history.length

theorem Ring.init : ({} : GroupCache).Ring [] := ⟨.nil _, rfl⟩

variable {history : List EibAddr}

theorem slot_ofNat (i : Nat) : (slot (BitVec.ofNat 16 i)).val = i % 0x100 :=
  toNat_ofNat_mod (by decide) i

theorem ofNat_succ (i : Nat) : BitVec.ofNat 16 (i + 1) = BitVec.ofNat 16 i + 1 :=
  BitVec.ofNat_add ..

theorem Ring.noteUpdate (h : g.Ring history) (dest : EibAddr) :
    (g.noteUpdate dest).Ring (history ++ [dest]) where
  holds := h.holds.push (slot g.pos).isLt (by rw [h.count, slot_ofNat]) dest
  count := by
    show g.pos + 1 = _
    rw [h.count, List.length_append, List.length_singleton, ofNat_succ]

/-- The slots of the window have the updates of the window. -/
theorem Ring.get_slot (h : g.Ring history) {i : Nat} (hi : i < history.length)
    (hwindow : history.length ≤ i + 0x100) :
    g.updates.get (slot (BitVec.ofNat 16 i)) = history[i] := by
  have hslot := h.holds i hi hwindow
  rw [← slot_ofNat, Vector.getElem?_eq_getElem (slot _).isLt] at hslot
  exact Option.some.inj hslot

theorem ofNat_ne_pos (h : g.Ring history) {k : Nat} (hk : 0 < k) (hle : k ≤ history.length)
    (hlt : k < 0x10000) : BitVec.ofNat 16 (history.length - k) ≠ g.pos := by
  rw [h.count]
  intro heq
  have htoNat := congrArg BitVec.toNat heq
  rw [BitVec.toNat_ofNat, BitVec.toNat_ofNat] at htoNat
  omega

/-- A start inside of the window is kept, an older one is moved to its edge. -/
theorem windowStart_eq (h : g.Ring history) {k : Nat} (hle : k ≤ history.length)
    (hlt : k < 0x10000) :
    g.windowStart (BitVec.ofNat 16 (history.length - k)) =
      BitVec.ofNat 16 (history.length - min k 0x100) := by
  have hpos : g.pos.toNat = history.length % 0x10000 := by rw [h.count, BitVec.toNat_ofNat]
  apply BitVec.eq_of_toNat_eq
  unfold windowStart
  simp only [BitVec.lt_def, gt_iff_lt, BitVec.toNat_sub, BitVec.toNat_ofNat, hpos]
  split_ifs <;> simp only [BitVec.toNat_sub, BitVec.toNat_ofNat, hpos] <;> omega

/-- The first update of a window is not empty, so that nothing is skipped. -/
theorem skipUnused_eq (h : g.Ring history) (hnonzero : ∀ d ∈ history, d ≠ 0) {k fuel : Nat}
    (hle : k ≤ history.length) (hk : k ≤ 0x100) :
    g.skipUnused (fuel + 1) (BitVec.ofNat 16 (history.length - k)) =
      some (BitVec.ofNat 16 (history.length - k)) := by
  rw [skipUnused, if_neg]
  rintro ⟨hne, hzero⟩
  rcases Nat.eq_zero_or_pos k with rfl | hpos
  · exact hne h.count.symm
  · rw [h.get_slot (by omega) (by omega)] at hzero
    exact hnonzero _ (List.getElem_mem _) hzero

/-- The second loop collects the window, oldest update first. -/
theorem collect_eq (h : g.Ring history) (hnonzero : ∀ d ∈ history, d ≠ 0) {k fuel : Nat}
    (hle : k ≤ history.length) (hk : k ≤ 0x100) (hfuel : k < fuel) (a : List EibAddr) :
    g.collect fuel (BitVec.ofNat 16 (history.length - k)) a =
      some (a ++ history.drop (history.length - k)) := by
  induction k generalizing fuel a with
  | zero =>
      obtain ⟨fuel, rfl⟩ : ∃ f, fuel = f + 1 := ⟨fuel - 1, by omega⟩
      rw [collect, if_neg (not_not.mpr (by rw [h.count]; rfl)), Nat.sub_zero, List.drop_length,
        List.append_nil]
  | succ k ih =>
      obtain ⟨fuel, rfl⟩ : ∃ f, fuel = f + 1 := ⟨fuel - 1, by omega⟩
      have hi : history.length - (k + 1) < history.length := by omega
      have hnext : history.length - (k + 1) + 1 = history.length - k := by omega
      rw [collect, if_pos (ofNat_ne_pos h (by omega) hle (by omega)),
        h.get_slot hi (by omega)]
      dsimp only
      rw [if_pos (hnonzero _ (List.getElem_mem _)), ← ofNat_succ, hnext,
        ih (by omega) (by omega) (by omega), List.drop_eq_getElem_cons hi, hnext,
        List.append_assoc, List.singleton_append]

/-- One round of `LastUpdates`, `k` updates after the one that returned `start`. -/
theorem lastUpdates_eq (h : g.Ring history) (hnonzero : ∀ d ∈ history, d ≠ 0) {k : Nat}
    (hle : k ≤ history.length) (hlt : k < 0x10000) (occurred : Bool) :
    g.lastUpdates (BitVec.ofNat 16 (history.length - k)) occurred =
      some (if k = 0 ∧ occurred = false then .waits g.pos
        else .returned (history.drop (history.length - min k 0x100)) g.pos) := by
  have hwindow : min k 0x100 ≤ history.length := by omega
  have hskip := @skipUnused_eq g history h hnonzero (min k 0x100) 0xffff hwindow (by omega)
  rw [lastUpdates, windowStart_eq h hle hlt, hskip]
  simp only [Option.bind_eq_bind, Option.bind_some]
  rcases Nat.eq_zero_or_pos k with rfl | hpos
  · have hstart : BitVec.ofNat 16 (history.length - min 0 0x100) = g.pos := h.count.symm
    rw [if_neg (not_not.mpr hstart), hstart]
    cases occurred <;> simp
  · rw [if_pos (ofNat_ne_pos h (by omega) hwindow (by omega)),
      collect_eq h hnonzero hwindow (by omega) (by omega), if_neg (by omega)]
    rfl

/-- Both loops meet `pos` before the 16-bit counter comes round, whatever the cache holds. -/
theorem skipUnused_ends (g : GroupCache) {fuel : Nat} {start : Word16}
    (hfuel : (g.pos - start).toNat < fuel) : ∃ start', g.skipUnused fuel start = some start' := by
  induction fuel generalizing start with
  | zero => omega
  | succ fuel ih =>
      rw [skipUnused]
      split
      case isTrue hmore => exact ih (by have := hmore.1; bv_omega)
      case isFalse => exact ⟨start, rfl⟩

theorem collect_ends (g : GroupCache) {fuel : Nat} {start : Word16} {a : List EibAddr}
    (hfuel : (g.pos - start).toNat < fuel) : ∃ b, g.collect fuel start a = some b := by
  induction fuel generalizing start a with
  | zero => omega
  | succ fuel ih =>
      rw [collect]
      split
      case isTrue hmore => exact ih (by bv_omega)
      case isFalse => exact ⟨a, rfl⟩

theorem lastUpdates_ends (g : GroupCache) (start : Word16) (occurred : Bool) :
    ∃ r, g.lastUpdates start occurred = some r := by
  obtain ⟨start', hskip⟩ := @skipUnused_ends g 0x10000 (g.windowStart start) (BitVec.isLt _)
  obtain ⟨a, hcollect⟩ := @collect_ends g 0x10000 start' [] (BitVec.isLt _)
  rw [lastUpdates, hskip, Option.bind_eq_bind, Option.bind_some, hcollect]
  split
  · exact ⟨_, rfl⟩
  · split <;> exact ⟨_, rfl⟩

/-- The `end` a client gets is `pos`. -/
theorem endPos_eq {start endPos : Word16} {occurred : Bool} {a : List EibAddr}
    (h : g.lastUpdates start occurred = some (.returned a endPos)) : endPos = g.pos := by
  rw [lastUpdates] at h
  obtain ⟨start', -, h⟩ := Option.bind_eq_some_iff.mp h
  split at h
  · obtain ⟨b, -, h⟩ := Option.bind_eq_some_iff.mp h
    cases h
    rfl
  · split at h
    · cases h
      rfl
    · cases h

end GroupCache

end BcuSdk.Eibd
