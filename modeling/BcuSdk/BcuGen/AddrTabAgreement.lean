/-
  BcuSdk.BcuGen.AddrTabAgreement

  The tables that `printAddrTab` prints and the ones that `PatchImage` stores.

  Both take them from `BuildAddrTable`.  The address tables are the same; of
  the association table `printAddrTab` prints as many entries as there are
  addresses, so that some are missing if objects share an address.
-/
import BcuSdk.BcuGen.ImageEditSafety
import Mathlib.Data.Finset.Card

namespace BcuSdk.BcuGen

open BcuSdk.Lib BcuSdk.Lib.Aborting BcuSdk.Common

/-! ## Numbering the objects -/

/-- The objects differ in nothing but their number. -/
def Renumbered (o o' : GroupObject) : Prop := ∃ n, o' = { o with objNo := n }

theorem forall₂_buildObjNo (objs : List GroupObject) (n : Int) :
    List.Forall₂ Renumbered objs (buildObjNo objs n).1 := by
  induction objs generalizing n with
  | nil => exact .nil
  | cons o objs ih =>
      rw [buildObjNo]
      split
      · exact .cons ⟨n, rfl⟩ (ih (n + 1))
      · exact .cons ⟨-1, rfl⟩ (ih n)

/-- The objects that have addresses. -/
def connected (objs : List GroupObject) : Nat := objs.countP fun o => o.objAddress ≠ []

theorem buildObjNo_count (objs : List GroupObject) (n : Int) :
    (buildObjNo objs n).2 = n + connected objs := by
  induction objs generalizing n with
  | nil => exact (Int.add_zero n).symm
  | cons o objs ih =>
      rw [buildObjNo, connected]
      split
      · next h =>
        rw [List.countP_cons, if_pos (decide_eq_true h)]
        show (buildObjNo objs (n + 1)).2 = _
        rw [ih, connected]
        push_cast
        omega
      · next h =>
        rw [List.countP_cons, if_neg fun ht => h (of_decide_eq_true ht)]
        exact ih n

section Renumber

variable {objs objs' : List GroupObject} (h : List.Forall₂ Renumbered objs objs')
include h

theorem flatMap_objAddress_eq :
    objs'.flatMap (·.objAddress) = objs.flatMap (·.objAddress) := by
  induction h with
  | nil => rfl
  | cons ho _ ih =>
      obtain ⟨n, rfl⟩ := ho
      rw [List.flatMap_cons, List.flatMap_cons, ih]

theorem addressTable_eq : addressTable objs' = addressTable objs := by
  rw [addressTable, addressTable, collectAddresses, collectAddresses, flatMap_objAddress_eq h]

theorem associationCount_eq : associationCount objs' = associationCount objs := by
  induction h with
  | nil => rfl
  | cons ho _ ih =>
      obtain ⟨n, rfl⟩ := ho
      rw [associationCount, associationCount, List.map_cons, List.map_cons, List.sum_cons,
        List.sum_cons]
      exact congrArg _ ih

theorem built_of_renumbered (hbuilt : ∀ o ∈ objs, o.Built) : ∀ o ∈ objs', o.Built := by
  induction h with
  | nil => exact hbuilt
  | cons ho _ ih =>
      obtain ⟨hhead, htail⟩ := List.forall_mem_cons.mp hbuilt
      obtain ⟨n, rfl⟩ := ho
      exact List.forall_mem_cons.mpr
        ⟨⟨hhead.nodup, hhead.outgoing_mem, hhead.inGap_iff⟩, ih htail⟩

theorem getElem?_of_renumbered {i : Nat} {o' : GroupObject} (hi : objs'[i]? = some o') :
    ∃ o, objs[i]? = some o ∧ Renumbered o o' := by
  induction h generalizing i with
  | nil => cases hi
  | cons ho _ ih =>
      cases i with
      | zero =>
          cases hi
          exact ⟨_, rfl, ho⟩
      | succ i => exact ih hi

theorem slotsExist_of_renumbered (hexist : SlotsExist objs) : SlotsExist objs' := by
  intro i o' hi hout
  obtain ⟨o, ho, n, rfl⟩ := getElem?_of_renumbered h hi
  rw [associationCount_eq h]
  exact hexist i o ho hout

end Renumber

theorem Renumbered.symm {o o' : GroupObject} (h : Renumbered o o') : Renumbered o' o := by
  obtain ⟨n, rfl⟩ := h
  exact ⟨o.objNo, rfl⟩

theorem slotsExist_iff_of_renumbered {objs objs' : List GroupObject}
    (h : List.Forall₂ Renumbered objs objs') : SlotsExist objs' ↔ SlotsExist objs :=
  ⟨slotsExist_of_renumbered (h.flip.imp fun _ _ ho => Renumbered.symm ho),
    slotsExist_of_renumbered h⟩

/-! ## The addresses that are shared -/

theorem associationCount_eq_length (objs : List GroupObject) :
    associationCount objs = (objs.flatMap (·.objAddress)).length := by
  rw [associationCount, List.length_flatMap]

theorem length_addressTable (objs : List GroupObject) :
    (addressTable objs).length = (objs.flatMap (·.objAddress)).toFinset.card := by
  rw [addressTable, (exchangeSort_perm _ _).length_eq,
    ← List.toFinset_card_of_nodup (nodup_collectAddresses objs)]
  congr 1
  ext a
  rw [List.mem_toFinset, List.mem_toFinset, collectAddresses, mem_foldl_addAddress]
  constructor
  · rintro (ha | ha)
    · exact absurd ha List.not_mem_nil
    · exact ha
  · exact .inr

theorem length_addressTable_le (objs : List GroupObject) :
    (addressTable objs).length ≤ associationCount objs := by
  rw [length_addressTable, associationCount_eq_length]
  exact List.toFinset_card_le _

/-- There are as many addresses as associations if no two objects share one. -/
theorem length_addressTable_eq_iff (objs : List GroupObject) :
    (addressTable objs).length = associationCount objs ↔
      (objs.flatMap (·.objAddress)).Nodup := by
  rw [length_addressTable, associationCount_eq_length]
  rw [← Multiset.coe_nodup, ← Multiset.toFinset_card_eq_card_iff_nodup]
  rfl

/-! ## The bytes of the tables -/

theorem hiByte_ofInt (v : Int) : hiByte (BitVec.ofInt 16 v) = shiftedByte v 1 := by
  apply BitVec.eq_of_toNat_eq
  rw [hiByte, shiftedByte, Int.shiftRight_eq_div_pow, BitVec.toNat_setWidth,
    BitVec.toNat_ushiftRight, BitVec.toNat_ofInt, BitVec.toNat_ofInt, Nat.shiftRight_eq_div_pow]
  simp only [Nat.reducePow, Nat.reduceMul, Nat.cast_ofNat]
  omega

theorem loByte_ofInt (v : Int) : loByte (BitVec.ofInt 16 v) = shiftedByte v 0 := by
  apply BitVec.eq_of_toNat_eq
  rw [loByte, shiftedByte, Int.shiftRight_eq_div_pow, BitVec.toNat_setWidth,
    BitVec.toNat_ofInt, BitVec.toNat_ofInt]
  simp only [Nat.reducePow, Nat.reduceMul, Nat.cast_ofNat]
  omega

/-- The checksum behind a printed table. -/
def checksum (b : BCUType) : CArray := if b ≠ .bcu12 then [0#8] else []

/-- What an entry of the association table is printed and stored as. -/
def Slot.pair (s : Slot) : Byte × Byte := (BitVec.ofNat 8 (s.addr + 1), BitVec.ofInt 8 s.objNo)

/-- An association table: the number of its entries, and these. -/
def assocBytes (entries : List (Byte × Byte)) : CArray :=
  BitVec.ofNat 8 entries.length :: entries.flatMap fun e => [e.1, e.2]

theorem assocTablePatch_bytes (start : Int) (slots : List Slot) :
    (assocTablePatch start slots).bytes = assocBytes (slots.map Slot.pair) := by
  rw [assocBytes, List.length_map, List.flatMap_map]
  rfl

section Text

variable (addr : Label → Int)

theorem emits_checksumText (b : BCUType) : Directive.Emits addr (checksumText b) (checksum b) := by
  rw [checksumText, checksum]
  split
  · exact Directive.emits_nil.byte _
  · exact Directive.emits_nil

/-- The lines of the address table put into their section what `PatchImage` stores. -/
theorem contents_addrText (d : Device) (t : AddrTable) (start : Int) (s cur : Section) :
    Directive.contents addr s cur (addrText d t) =
      some (if .addrtab = s then (addrTablePatch start d t).bytes ++ checksum d.bcu else []) ∧
    Directive.last cur (addrText d t) = .addrtab := by
  have haddrs : Directive.Emits addr
      (t.addr.map fun a => (.hword (.num a.toNat) : Directive Label Section))
      (t.addr.flatMap wordBytes) := by
    refine Directive.emits_map fun a _ => ?_
    exact Directive.emits_nil.hword_toNat a
  have hbody := (((haddrs.append (emits_checksumText addr d.bcu)).append
    (Directive.emits_nil.label Label.addrtabEnd)).hword (.num d.physicalAddress)).byte
      [.num ((t.addr.length + 1 : Nat) : Int)] |>.label Label.addrtab
  simp only [Operand.value, hiByte_ofInt, loByte_ofInt, List.append_nil, List.map_cons,
    List.map_nil, BitVec.ofInt_natCast] at hbody
  exact ⟨hbody.contents_section .addrtab s cur, hbody.last_section .addrtab cur⟩

/-- And the lines of an association table with the given entries. -/
theorem contents_assocText (d : Device) (slots : List Slot) (s cur : Section) :
    Directive.contents addr s cur (assocText d slots) =
      some (if .assoctab = s then assocBytes (slots.map Slot.pair) ++ checksum d.bcu else []) := by
  have hentries : Directive.Emits addr
      (slots.map fun s => (.byte [.num (s.addr + 1), .num s.objNo] : Directive Label Section))
      ((slots.map Slot.pair).flatMap fun e => [e.1, e.2]) := by
    rw [List.flatMap_map]
    refine Directive.emits_map fun e _ => ?_
    rw [Slot.pair, ← BitVec.ofInt_natCast]
    exact Directive.emits_nil.byte [.num ((e.addr + 1 : Nat) : Int), .num e.objNo]
  have hbody := (((hentries.append (emits_checksumText addr d.bcu)).append
    (Directive.emits_nil.label Label.assoctabEnd)).byte
      [.num (slots.length : Int)]).label Label.assoctab
  simp only [Operand.value, List.append_nil, List.map_cons, List.map_nil,
    BitVec.ofInt_natCast] at hbody
  rw [assocBytes, List.length_map]
  exact hbody.contents_section .assoctab s cur

end Text

/-! ## Running the two programs -/

theorem mapM_slot {t : AddrTable} {slots : List Slot} (ht : t.slots = slots.map some) {n : Nat}
    (hn : n ≤ slots.length) : (List.range n).mapM t.slot = .ok (slots.take n) := by
  have hlen : (slots.take n).length = n := by rw [List.length_take, Nat.min_eq_left hn]
  have hread := mapM_range_eq_ok (f := t.slot) (l := slots.take n) fun i hi => by
    have hi' : i < slots.length := by
      rw [hlen] at hi
      omega
    rw [AddrTable.slot, ht, List.getElem?_map, List.getElem?_eq_getElem hi', Option.map_some,
      List.getElem_take]
  rwa [hlen] at hread

theorem wp_printTables {d : Device} {objno : Int} {Q : AsmText × Device → Prop}
    (hbuilt : ∀ o ∈ d.groupObjects, o.Built) :
    wp (printTables d objno) Q ↔
      SlotsExist d.groupObjects ∧ (objno ≤ 85 →
        Q (addrText d (builtTable d.groupObjects) ++
            assocText d ((tableEntries d.groupObjects).take (addressTable d.groupObjects).length),
          { d with objCount := objno })) := by
  rw [printTables, wp_bind, wp_ofChecked]
  by_cases hexist : SlotsExist d.groupObjects
  swap
  · refine iff_of_false ?_ fun h => hexist h.1
    rintro ⟨t, ht, -⟩
    exact buildAddrTable_of_not_slotsExist hexist ⟨t, ht⟩
  -- the loop prints as many slots as there are addresses
  have hread := mapM_slot (slots_eq_map hbuilt hexist)
    (n := (addressTable d.groupObjects).length) (by
      rw [length_tableEntries hbuilt hexist]
      exact length_addressTable_le _)
  rw [and_iff_right hexist]
  constructor
  · rintro ⟨t, ht, h⟩ hfew
    obtain rfl := Except.ok.inj ((buildAddrTable_of_slotsExist hbuilt hexist).symm.trans ht)
    obtain ⟨slots, hslots, h⟩ := (wp_ofChecked _).mp ((wp_bind _ _ _).mp h)
    obtain rfl := Except.ok.inj (hread.symm.trans hslots)
    exact (wp_guard _ _).mp h (Int.not_lt.mpr hfew)
  · intro h
    refine ⟨_, buildAddrTable_of_slotsExist hbuilt hexist, ?_⟩
    refine (wp_bind _ _ _).mpr ((wp_ofChecked _).mpr ⟨_, hread, ?_⟩)
    exact (wp_guard _ _).mpr fun hfew => h (Int.not_lt.mp hfew)

/-- The device as `printAddrTab` numbers it. -/
def numbered (d : Device) (objs : List GroupObject) : Device :=
  { d with groupObjects := (buildObjNo objs 0).1 }

theorem wp_printAddrTab {d : Device} {Q : AsmText × Device → Prop} :
    wp (printAddrTab d) Q ↔
      ∀ objs, d.groupObjects.mapM (GroupObject.buildObjAddress d.bcu) = .ok objs →
        SlotsExist objs ∧ (connected objs ≤ 85 →
          Q (addrText d (builtTable (numbered d objs).groupObjects) ++
              assocText d ((tableEntries (numbered d objs).groupObjects).take
                (addressTable objs).length),
            { numbered d objs with objCount := connected objs })) := by
  rw [printAddrTab, wp_bind, wp_ofResult]
  refine forall₂_congr fun objs hobjs => ?_
  have hnum : List.Forall₂ Renumbered objs (numbered d objs).groupObjects :=
    forall₂_buildObjNo objs 0
  have hbuilt : ∀ o ∈ (numbered d objs).groupObjects, o.Built :=
    built_of_renumbered hnum (GroupObject.built_of_mapM hobjs)
  have hcount : (buildObjNo objs 0).2 = connected objs := by
    rw [buildObjNo_count, Int.zero_add]
  show wp (printTables (numbered d objs) (buildObjNo objs 0).2) Q ↔ _
  rw [wp_printTables hbuilt, slotsExist_iff_of_renumbered hnum, addressTable_eq hnum, hcount]
  refine and_congr_right fun _ => imp_congr ?_ Iff.rfl
  exact Int.ofNat_le (n := 85)

/-- What `PatchImage` stores if it does not die. -/
theorem patchTables_eq_ok {starts : TableStarts} {d : Device} {c c' : CArray}
    {objs : List GroupObject}
    (hobjs : d.groupObjects.mapM (GroupObject.buildObjAddress d.bcu) = .ok objs)
    (h : patchTables starts d c = ofResult (.ok c')) :
    SlotsExist objs ∧ (addressTable objs).length + 1 ≤ countByte c starts.addrtab ∧
      associationCount objs ≤ (addressTable objs).length + 1 ∧
      c' = Patch.applyAll c (tablePatches starts d objs) := by
  have hresult : wp (patchTables starts d c) (· = c') := by
    rw [h]
    exact rfl
  have hlive : ¬ wp (patchTables starts d c) fun _ => False := by
    rw [h]
    exact id
  obtain ⟨hexist, hin⟩ := wp_patchTables.mp hresult objs hobjs
  refine ⟨hexist, ?_⟩
  -- if a check failed it would have died
  by_contra hfail
  refine hlive (wp_patchTables.mpr fun objs' hobjs' => ?_)
  obtain rfl := Except.ok.inj (hobjs.symm.trans hobjs')
  refine ⟨hexist, hin.1, fun hle => ?_⟩
  obtain ⟨haddr, hassoc, hrest⟩ := hin.2 hle
  refine ⟨haddr, hassoc, fun hfew => ?_⟩
  exact absurd ⟨hle, hfew, (hrest hfew).2.2.symm⟩ hfail

/-! ## The agreement -/

/-- An entry for each address of each object: the index of the address, counted from 1, and the
    number of the object. -/
def associationPairs (objs : List GroupObject) : List (Byte × Byte) :=
  objs.flatMap fun o => o.objAddress.map fun a =>
    (BitVec.ofNat 8 ((addressTable objs).idxOf a + 1), BitVec.ofInt 8 o.objNo)

/-- The table has a count byte and as many entries: those of the objects, each once. -/
def ExactAssociations (objs : List GroupObject) (table : CArray) : Prop :=
  ∃ entries : List (Byte × Byte), table = assocBytes entries ∧ entries.length < 256 ∧
    entries.Perm (associationPairs objs)

/-- Unless `printAddrTab` dies, its text is assembled to the address table `table` and an exact
    association table, each with its checksum behind it. -/
def PrintsExact (d : Device) (objs : List GroupObject) (table : CArray) : Prop :=
  wp (printAddrTab d) fun r => ∀ addr,
    Directive.contents addr .addrtab .text r.1 = some (table ++ checksum d.bcu) ∧
      ∃ assoc, Directive.contents addr .assoctab .text r.1 = some (assoc ++ checksum d.bcu) ∧
        ExactAssociations objs assoc

/-- Unless `PatchImage` dies, it stores the address table `table` and an exact association
    table, whatever the image. -/
def StoresExact (d : Device) (objs : List GroupObject) (table : CArray) : Prop :=
  ∀ starts c c', patchTables starts d c = ofResult (.ok c') →
    ∃ assoc, c' = Patch.applyAll c (⟨starts.addrtab, table⟩ :: ⟨starts.assoctab, assoc⟩ ::
        flagPatches starts.groupobj d.bcu objs) ∧ ExactAssociations objs assoc

/-- Both make the same address table, and association tables that miss nothing. -/
def TablesAgree (d : Device) : Prop :=
  ∀ objs, d.groupObjects.mapM (GroupObject.buildObjAddress d.bcu) = .ok objs →
    ∃ table, PrintsExact d objs table ∧ StoresExact d objs table

/-- The objects that have addresses have the numbers that `printAddrTab` gives them. -/
def SameNumbers (objs : List GroupObject) : Prop :=
  List.Forall₂ (fun o o' => o.objAddress ≠ [] → o'.objNo = o.objNo) objs (buildObjNo objs 0).1

theorem associationPairs_eq {objs objs' : List GroupObject}
    (h : List.Forall₂ Renumbered objs objs')
    (hsame : List.Forall₂ (fun o o' => o.objAddress ≠ [] → o'.objNo = o.objNo) objs objs') :
    associationPairs objs' = associationPairs objs := by
  rw [associationPairs, associationPairs, addressTable_eq h]
  generalize addressTable objs = addrs
  induction h with
  | nil => rfl
  | cons ho _ ih =>
      obtain ⟨n, rfl⟩ := ho
      obtain ⟨hhead, htail⟩ := List.forall₂_cons.mp hsame
      rw [List.flatMap_cons, List.flatMap_cons, ih htail]
      congr 1
      refine List.map_congr_left fun a ha => ?_
      rw [hhead (List.ne_nil_of_mem ha)]

theorem length_associationPairs (objs : List GroupObject) :
    (associationPairs objs).length = associationCount objs := by
  rw [associationPairs, List.length_flatMap, associationCount]
  congr 1
  exact List.map_congr_left fun o _ => List.length_map _

theorem map_pair_objectAddresses (addrs : List Word16) (objs : List GroupObject) (i : Nat) :
    ((objectAddresses i objs).map fun p => (p.slot addrs).pair) =
      objs.flatMap fun o => o.objAddress.map fun a =>
        (BitVec.ofNat 8 (addrs.idxOf a + 1), BitVec.ofInt 8 o.objNo) := by
  induction objs generalizing i with
  | nil => rfl
  | cons o objs ih =>
      rw [objectAddresses, List.map_append, ih, List.map_map, List.flatMap_cons]
      rfl

/-- The entries that `BuildAddrTable` makes are those of the objects. -/
theorem map_pair_perm {objs : List GroupObject} (hbuilt : ∀ o ∈ objs, o.Built)
    (hexist : SlotsExist objs) :
    ((tableEntries objs).map Slot.pair).Perm (associationPairs objs) := by
  have hperm := (slots_perm hbuilt hexist).map Slot.pair
  rw [List.map_map] at hperm
  exact hperm.trans (List.Perm.of_eq (map_pair_objectAddresses (addressTable objs) objs 0))

/-- `PatchImage` never misses an association. -/
theorem storesExact {d : Device} {objs : List GroupObject}
    (hobjs : d.groupObjects.mapM (GroupObject.buildObjAddress d.bcu) = .ok objs) (start : Int) :
    StoresExact d objs (addrTablePatch start d (builtTable objs)).bytes := by
  intro starts c c' h
  have hbuilt := GroupObject.built_of_mapM hobjs
  obtain ⟨hexist, haddr, hassoc, rfl⟩ := patchTables_eq_ok hobjs h
  have hcount : countByte c starts.addrtab < 256 := (c.getD starts.addrtab.toNat 0#8).isLt
  refine ⟨assocBytes ((tableEntries objs).map Slot.pair), ?_, _, rfl, ?_,
    map_pair_perm hbuilt hexist⟩
  · rw [tablePatches, ← assocTablePatch_bytes starts.assoctab]
    rfl
  · rw [List.length_map, length_tableEntries hbuilt hexist]
    omega

/-- What the whole text is assembled to. -/
theorem contents_tables (addr : Label → Int) (d : Device) (t : AddrTable) (slots : List Slot)
    (start : Int) :
    Directive.contents addr .addrtab .text (addrText d t ++ assocText d slots) =
        some ((addrTablePatch start d t).bytes ++ checksum d.bcu) ∧
      Directive.contents addr .assoctab .text (addrText d t ++ assocText d slots) =
        some (assocBytes (slots.map Slot.pair) ++ checksum d.bcu) := by
  have htext : ∀ s, Directive.contents addr s .text (addrText d t ++ assocText d slots) =
      some ((if .addrtab = s then (addrTablePatch start d t).bytes ++ checksum d.bcu else []) ++
        (if .assoctab = s then assocBytes (slots.map Slot.pair) ++ checksum d.bcu else [])) :=
    fun s => Directive.contents_append (contents_addrText addr d t start s .text).1
      (contents_assocText addr d slots s _)
  constructor
  · rw [htext, if_pos rfl, if_neg (by decide), List.append_nil]
  · rw [htext, if_neg (by decide), if_pos rfl, List.nil_append]

theorem length_assocBytes (entries : List (Byte × Byte)) :
    (assocBytes entries).length = 1 + 2 * entries.length := by
  rw [assocBytes, List.length_cons, length_flatMap_two _ fun _ => rfl, Nat.add_comm]

/-- The text that `printAddrTab` prints holds all associations exactly if a byte can count them and
    no two objects share an address. -/
theorem printsExact_iff {d : Device} {objs : List GroupObject} (hsame : SameNumbers objs)
    (hobjs : d.groupObjects.mapM (GroupObject.buildObjAddress d.bcu) = .ok objs) :
    (∃ table, PrintsExact d objs table ∧ StoresExact d objs table) ↔
      SlotsExist objs ∧ (connected objs ≤ 85 →
        associationCount objs < 256 ∧ (objs.flatMap (·.objAddress)).Nodup) := by
  have hnum : List.Forall₂ Renumbered objs (numbered d objs).groupObjects :=
    forall₂_buildObjNo objs 0
  have hbuilt : ∀ o ∈ (numbered d objs).groupObjects, o.Built :=
    built_of_renumbered hnum (GroupObject.built_of_mapM hobjs)
  have hentries : SlotsExist objs →
      (tableEntries (numbered d objs).groupObjects).length = associationCount objs := by
    intro hexist
    rw [length_tableEntries hbuilt (slotsExist_of_renumbered hnum hexist), associationCount_eq hnum]
  have hle := length_addressTable_le objs
  constructor
  · rintro ⟨table, hprint, -⟩
    obtain ⟨hexist, hQ⟩ := wp_printAddrTab.mp hprint objs hobjs
    refine ⟨hexist, fun hfew => ?_⟩
    obtain ⟨-, assoc, hassoc, entries, rfl, hlt, hperm⟩ := hQ hfew fun _ => 0
    rw [(contents_tables _ d _ _ 0).2] at hassoc
    have hlen := congrArg List.length (List.append_cancel_right (Option.some.inj hassoc))
    rw [length_assocBytes, length_assocBytes, List.length_map, List.length_take,
      hentries hexist, hperm.length_eq, length_associationPairs] at hlen
    rw [hperm.length_eq, length_associationPairs] at hlt
    exact ⟨hlt, (length_addressTable_eq_iff objs).mp (by omega)⟩
  · rintro ⟨hexist, hfits⟩
    refine ⟨_, wp_printAddrTab.mpr fun objs' hobjs' => ?_, storesExact hobjs 0⟩
    obtain rfl := Except.ok.inj (hobjs.symm.trans hobjs')
    refine ⟨hexist, fun hfew addr => ?_⟩
    obtain ⟨hlt, hnodup⟩ := hfits hfew
    have hall := (length_addressTable_eq_iff objs).mpr hnodup
    -- no entry is cut off
    rw [List.take_of_length_le (by rw [hentries hexist, hall])]
    obtain ⟨haddr, hassoc⟩ := contents_tables addr d (builtTable (numbered d objs).groupObjects)
      (tableEntries (numbered d objs).groupObjects) 0
    have htable : (addrTablePatch 0 d (builtTable (numbered d objs).groupObjects)).bytes =
        (addrTablePatch 0 d (builtTable objs)).bytes := by
      rw [addrTablePatch, addrTablePatch, builtTable, builtTable, addressTable_eq hnum]
    refine ⟨haddr.trans (by rw [htable]), _, hassoc, _, rfl, ?_, ?_⟩
    · rw [List.length_map, hentries hexist]
      exact hlt
    · rw [← associationPairs_eq hnum hsame]
      exact map_pair_perm hbuilt (slotsExist_of_renumbered hnum hexist)

/-- The two programs agree on the devices whose sending objects all have a slot and, unless there
    are too many objects, whose associations fit a byte and share no address. -/
theorem tablesAgree_iff (d : Device)
    (h : ∀ objs, d.groupObjects.mapM (GroupObject.buildObjAddress d.bcu) = .ok objs →
      SameNumbers objs) :
    TablesAgree d ↔
      ∀ objs, d.groupObjects.mapM (GroupObject.buildObjAddress d.bcu) = .ok objs →
        SlotsExist objs ∧ (connected objs ≤ 85 →
          associationCount objs < 256 ∧ (objs.flatMap (·.objAddress)).Nodup) :=
  forall₂_congr fun objs hobjs => printsExact_iff (h objs hobjs) hobjs

/-- An object 0 that sends to address 1, and an object 1 that receives it. -/
def sharingDevice : Device :=
  { bcu := .bcu20
    groupObjects := [{ sendAddress := 1, sendAddressLineno := 1, objNo := 0 },
      { receiveAddress := [1], objNo := 1 }] }

theorem sameNumbers_sharingDevice : ∀ objs,
    sharingDevice.groupObjects.mapM (GroupObject.buildObjAddress .bcu20) = .ok objs →
      SameNumbers objs := by
  intro objs hobjs
  obtain rfl := Except.ok.inj hobjs
  exact .cons (fun _ => rfl) (.cons (fun _ => rfl) .nil)

theorem tablesAgree_iff_sharing :
    TablesAgree sharingDevice ↔
      ∀ objs, sharingDevice.groupObjects.mapM (GroupObject.buildObjAddress .bcu20) = .ok objs →
        SlotsExist objs ∧ (connected objs ≤ 85 →
          associationCount objs < 256 ∧ (objs.flatMap (·.objAddress)).Nodup) :=
  tablesAgree_iff sharingDevice sameNumbers_sharingDevice

/-- There is one address, so `printAddrTab` prints one entry; the one of object 1 is missing. -/
theorem printAddrTab_drops_shared :
    (∀ objs, sharingDevice.groupObjects.mapM (GroupObject.buildObjAddress .bcu20) = .ok objs →
      SameNumbers objs) ∧ ¬ TablesAgree sharingDevice := by
  refine ⟨sameNumbers_sharingDevice, fun h => ?_⟩
  obtain ⟨-, hfits⟩ := (printsExact_iff (sameNumbers_sharingDevice _ rfl) rfl).mp (h _ rfl)
  exact absurd (hfits (by decide)).2 (by decide)

end BcuSdk.BcuGen
