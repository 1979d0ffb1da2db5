/-
  BcuSdk.Common.SegmentOverlap

  The segments of an image for a BCU 2 (common/loadimage.cpp) do not overlap.

  `AddSegmentOverlap` compares a segment with each one in its list by their
  starts only; for segments that are not empty this is the same as asking
  whether they have an address in common.
-/
import Mathlib.Order.CompletePartialOrder
import Mathlib.Order.Interval.Set.Disjoint
import BcuSdk.Common.ImageRoundTrip
import BcuSdk.Common.LoadImage

namespace BcuSdk.Common

open BcuSdk.Lib

/-! ## Segments as intervals -/

/-- The addresses of a segment. -/
def Segment.span (s : Segment) : Set Nat :=
  Set.Ico s.start.toNat (s.start.toNat + s.len.toNat)

/-- Two intervals that are not empty have an element in common exactly if one of them has the first
    element of the other. -/
theorem not_disjoint_Ico_iff {a m b n : Nat} (hm : 0 < m) (hn : 0 < n) :
    ¬ Disjoint (Set.Ico a (a + m)) (Set.Ico b (b + n)) ↔
      (b ≤ a ∧ a < b + n) ∨ (a ≤ b ∧ b < a + m) := by
  rw [Set.Ico_disjoint_Ico]
  omega

/-- An empty segment has no address in common with another. -/
theorem Segment.disjoint_of_empty {s : Segment} (h : s.len = 0) (t : Segment) :
    Disjoint s.span t.span := by
  have hempty : s.span = ∅ := by simp [span, h]
  rw [hempty]
  exact Set.empty_disjoint _

/-- A list of segments none of which is empty and no two of which overlap. -/
structure Separate (seg : List Segment) : Prop where
  nonempty : ∀ s ∈ seg, s.len ≠ 0
  disjoint : seg.Pairwise fun s t => Disjoint s.span t.span

theorem separate_nil : Separate [] := ⟨fun _ hs => absurd hs List.not_mem_nil, .nil⟩

theorem toNat_pos {len : Word16} (h : len ≠ 0) : 0 < len.toNat :=
  Nat.pos_of_ne_zero fun hzero => h (BitVec.eq_of_toNat_eq hzero)

/-- The comparison of two segments that are not empty. -/
theorem overlap_iff {start len : Word16} (hlen : len ≠ 0) {s : Segment} (hs : s.len ≠ 0) :
    ((s.start.toNat ≤ start.toNat && start.toNat < s.start.toNat + s.len.toNat) ||
        (start.toNat ≤ s.start.toNat && s.start.toNat < start.toNat + len.toNat)) = true ↔
      ¬ Disjoint (Segment.span ⟨start, len⟩) s.span := by
  rw [Segment.span, Segment.span, not_disjoint_Ico_iff (toNat_pos hlen) (toNat_pos hs)]
  simp

/-- A segment is refused exactly if it overlaps one in the list. -/
theorem Separate.refused_iff {seg : List Segment} (h : Separate seg) (start len : Word16) :
    addSegmentOverlap seg start len = none ↔
      ∃ s ∈ seg, ¬ Disjoint (Segment.span ⟨start, len⟩) s.span := by
  rw [addSegmentOverlap]
  by_cases hlen : len = 0
  · rw [if_pos hlen]
    refine iff_of_false (Option.some_ne_none _) ?_
    rintro ⟨s, -, hs⟩
    exact hs (Segment.disjoint_of_empty hlen s)
  · rw [if_neg hlen]
    have hany : seg.any (fun s =>
        (s.start.toNat ≤ start.toNat && start.toNat < s.start.toNat + s.len.toNat) ||
          (start.toNat ≤ s.start.toNat && s.start.toNat < start.toNat + len.toNat)) = true ↔
        ∃ s ∈ seg, ¬ Disjoint (Segment.span ⟨start, len⟩) s.span := by
      rw [List.any_eq_true]
      exact exists_congr fun s => and_congr_right fun hs => overlap_iff hlen (h.nonempty s hs)
    rw [← hany]
    split
    · next hover => exact iff_of_true rfl hover
    · next hover => exact iff_of_false (Option.some_ne_none _) hover

/-- A segment that is accepted is empty, or comes to the others without overlapping them. -/
theorem Separate.accepted {seg seg' : List Segment} (h : Separate seg) {start len : Word16}
    (hadd : addSegmentOverlap seg start len = some seg') :
    Separate seg' ∧ (∀ s ∈ seg, s ∈ seg') ∧ (∀ s ∈ seg, Disjoint s.span (Segment.span ⟨start, len⟩)) ∧
      (len ≠ 0 → ⟨start, len⟩ ∈ seg') := by
  have hdisjoint : ∀ s ∈ seg, Disjoint s.span (Segment.span ⟨start, len⟩) := by
    intro s hs
    by_contra hover
    have hnone := (h.refused_iff start len).mpr ⟨s, hs, fun hd => hover hd.symm⟩
    rw [hadd] at hnone
    cases hnone
  rw [addSegmentOverlap] at hadd
  -- an empty segment is accepted, but not kept
  by_cases hlen : len = 0
  · rw [if_pos hlen] at hadd
    cases hadd
    exact ⟨h, fun s hs => hs, hdisjoint, fun hne => absurd hlen hne⟩
  · rw [if_neg hlen] at hadd
    split at hadd
    · cases hadd
    · cases hadd
      refine ⟨⟨?_, ?_⟩, fun s hs => List.mem_append_left _ hs, hdisjoint, fun _ =>
        List.mem_append_right _ (List.mem_singleton_self _)⟩
      · intro s hs
        rcases List.mem_append.mp hs with hs | hs
        · exact h.nonempty s hs
        · obtain rfl := List.mem_singleton.mp hs
          exact hlen
      · refine List.pairwise_append.mpr ⟨h.disjoint, List.pairwise_singleton .., ?_⟩
        intro s hs t ht
        obtain rfl := List.mem_singleton.mp ht
        exact hdisjoint s hs

/-- The list after calls for some segments, those refused included. -/
def collect (calls : List Segment) : List Segment :=
  calls.foldl (fun seg s => (addSegmentOverlap seg s.start s.len).getD seg) []

theorem separate_collect (calls : List Segment) : Separate (collect calls) := by
  have hfold : ∀ seg, Separate seg →
      Separate (calls.foldl (fun seg s => (addSegmentOverlap seg s.start s.len).getD seg) seg) := by
    induction calls with
    | nil => exact fun seg h => h
    | cons s calls ih =>
        intro seg h
        rw [List.foldl_cons]
        refine ih _ ?_
        cases hadd : addSegmentOverlap seg s.start s.len with
        | none => exact h
        | some seg' => exact (h.accepted hadd).1
  exact hfold [] separate_nil

/-! ## The segments of an image -/

/-- The segments `xs` have been accepted one after the other, and no two of them overlap. -/
structure Collected (seg xs : List Segment) : Prop where
  separate : Separate seg
  mem : ∀ s ∈ xs, s.len ≠ 0 → s ∈ seg
  disjoint : xs.Pairwise fun s t => Disjoint s.span t.span

theorem Collected.add {seg seg' xs : List Segment} (h : Collected seg xs) {start len : Word16}
    (hadd : addSegmentOverlap seg start len = some seg') :
    Collected seg' (xs ++ [⟨start, len⟩]) := by
  obtain ⟨hseparate, hkept, hdisjoint, hnew⟩ := h.separate.accepted hadd
  refine ⟨hseparate, ?_, List.pairwise_append.mpr ⟨h.disjoint, List.pairwise_singleton .., ?_⟩⟩
  · intro s hs hlen
    rcases List.mem_append.mp hs with hs | hs
    · exact hkept s (h.mem s hs hlen)
    · obtain rfl := List.mem_singleton.mp hs
      exact hnew hlen
  · intro s hs t ht
    obtain rfl := List.mem_singleton.mp ht
    by_cases hlen : s.len = 0
    · exact Segment.disjoint_of_empty hlen _
    · exact hdisjoint s (h.mem s hs hlen)

/-- The first segment is accepted, whatever it is: its result need not be looked at. -/
theorem collected_first (start len : Word16) :
    Collected ((addSegmentOverlap [] start len).getD []) [⟨start, len⟩] := by
  have hnil : Collected [] [] := ⟨separate_nil, fun _ hs => absurd hs List.not_mem_nil, .nil⟩
  cases hadd : addSegmentOverlap [] start len with
  | some seg => exact hnil.add hadd
  | none =>
      obtain ⟨s, hs, -⟩ := (separate_nil.refused_iff start len).mp hadd
      exact absurd hs List.not_mem_nil

/-- The addresses of the address table, the association table, the read-only, the EEPROM and the
    parameter segment. -/
def segmentAddresses (s1 : STRBCU2Start) : List (Set Nat) :=
  [Set.Ico s1.addrtabStart.toNat (s1.addrtabStart.toNat + s1.addrtabSize.toNat),
    Set.Ico s1.assoctabStart.toNat (s1.assoctabStart.toNat + s1.assoctabSize.toNat),
    Set.Ico s1.readonlyStart.toNat s1.readonlyEnd.toNat,
    Set.Ico s1.eepromStart.toNat s1.eepromEnd.toNat,
    Set.Ico s1.paramStart.toNat s1.paramEnd.toNat]

/-- A segment given by its end. -/
theorem span_of_end {start stop : Word16} (h : start.toNat ≤ stop.toNat) :
    Segment.span ⟨start, stop - start⟩ = Set.Ico start.toNat stop.toNat := by
  have hlen : (stop - start).toNat = stop.toNat - start.toNat := BitVec.toNat_sub_of_le h
  show Set.Ico start.toNat (start.toNat + (stop - start).toNat) = _
  rw [hlen, Nat.add_sub_cancel' h]

theorem PassedBCU2.disjoint {img : Image} {c : STRCode} {s1 : STRBCU2Start}
    (h : PassedBCU2 img c s1) : (segmentAddresses s1).Pairwise Disjoint := by
  obtain ⟨seg₁, seg₂, seg₃, seg₄, hassoctab, htext, heeprom, hparam⟩ := h.segments
  have hall := ((((collected_first s1.addrtabStart s1.addrtabSize).add hassoctab).add htext).add
    heeprom).add hparam
  have hmap : segmentAddresses s1 =
      [(⟨s1.addrtabStart, s1.addrtabSize⟩ : Segment), ⟨s1.assoctabStart, s1.assoctabSize⟩,
        ⟨s1.readonlyStart, s1.readonlyEnd - s1.readonlyStart⟩,
        ⟨s1.eepromStart, s1.eepromEnd - s1.eepromStart⟩,
        ⟨s1.paramStart, s1.paramEnd - s1.paramStart⟩].map Segment.span := by
    simp only [List.map_cons, List.map_nil, span_of_end h.readonly, span_of_end h.eeprom,
      span_of_end h.param]
    rfl
  rw [hmap]
  exact List.pairwise_map.mpr hall.disjoint

/-- The checks accept the image only with streams for a BCU 2 whose segments do not overlap. -/
theorem disjoint_of_checkImage {img : Image} {bcuType : BCUType} {code : CArray}
    {s1 : STRBCU2Start} {key : Option STRBCU2Key}
    (h : checkImage img = .ok (.ok (.bcu2 bcuType code s1 key))) :
    img.findStream STRStream.asBCU2Start = some s1 ∧ (segmentAddresses s1).Pairwise Disjoint := by
  obtain ⟨c, hbcu1 | ⟨type, -, hbcu2⟩⟩ := passed_of_checkImage h
  · cases (passed_of_checkBCU1 hbcu1).1
  · obtain ⟨s1', hpassed, heq⟩ := passed_of_checkBCU2 hbcu2
    cases heq
    exact ⟨hpassed.found, hpassed.disjoint⟩

/-- The segments of an image that passes the checks for a BCU 2 have no address in common, and
    `AddSegmentOverlap`, from the empty list on, keeps them apart and refuses just what overlaps. -/
theorem segments_disjoint :
    (∀ (c : CArray) (img : Image) (bcuType : BCUType) (code : CArray) (s1 : STRBCU2Start)
        (key : Option STRBCU2Key), Image.FromArray c (.ok (some img)) →
      checkImage img = .ok (.ok (.bcu2 bcuType code s1 key)) →
      img.findStream STRStream.asBCU2Start = some s1 ∧
        (segmentAddresses s1).Pairwise Disjoint) ∧
    ∀ (calls : List Segment) (start len : Word16),
      ((collect calls).Pairwise fun s t => Disjoint s.span t.span) ∧
      (addSegmentOverlap (collect calls) start len = none ↔
        ∃ s ∈ collect calls, ¬ Disjoint (Segment.span ⟨start, len⟩) s.span) := by
  refine ⟨fun c img bcuType code s1 key _ hcheck => disjoint_of_checkImage hcheck,
    fun calls start len => ?_⟩
  have hseparate := separate_collect calls
  exact ⟨hseparate.disjoint, hseparate.refused_iff start len⟩

/-- An image with a read-only segment of four bytes behind the address table. -/
def disjointImage : Image :=
  ⟨[.bcuType ⟨0x0020#16⟩, .bcu2Size ⟨0x0018#16, 0#16, 0#16, 0#16, 0#16, 0#16⟩,
    .code ⟨List.replicate 0x18 9#8⟩,
    .bcu2Start ⟨0x0116#16, 4#16, 0#16, 0#16, 0x011a#16, 0x011e#16, 0x0100#16, 0x0101#16, 0#16, 0#16,
      0#16, 0#16, 0#16, 0#16, 0#16, 0#16, 0#16, 0#16, 0#16, 0#16, 0#16, 0#8⟩]⟩

theorem segments_disjoint_accepted :
    ∃ s1, disjointImage.findStream STRStream.asBCU2Start = some s1 ∧
      (segmentAddresses s1).Pairwise Disjoint := by
  have hcheck : ∃ s1, checkImage disjointImage =
      .ok (.ok (.bcu2 .bcu20 (List.replicate 0x18 9#8) s1 none)) := ⟨_, rfl⟩
  obtain ⟨s1, hs1⟩ := hcheck
  exact ⟨s1, segments_disjoint.1 disjointImage.array disjointImage .bcu20 _ s1 none
    (Image.fromArray_array (by simp [disjointImage, STRStream.InRange]) (by decide)) hs1⟩

end BcuSdk.Common
