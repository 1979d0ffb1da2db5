/-
  BcuSdk.BcuGen.ImageEditSafety

  When `PatchImage` stays inside of the space that is reserved in an image.

  Every store is checked against the code, and the two tables against the
  space that their count bytes give.  Computing the weakest precondition of
  the whole program leaves the exact condition, `Reserved`.
-/
import BcuSdk.Common.ImageRoundTrip
import BcuSdk.BcuGen.AddrTabSafety
import BcuSdk.BcuGen.ImageEdit

namespace BcuSdk.BcuGen

open BcuSdk.Lib BcuSdk.Lib.Aborting BcuSdk.Common

/-! ## Every stream finds its parameter -/

theorem map_of_changeFirst {α β : Type} {p : α → Bool} {f : α → α} {g : α → β} {as as' : List α}
    (hg : ∀ a, g (f a) = g a) (h : changeFirst p f as = some as') : as'.map g = as.map g := by
  induction as generalizing as' with
  | nil => cases h
  | cons a as ih =>
      rw [changeFirst] at h
      split at h
      · cases h
        rw [List.map_cons, List.map_cons, hg]
      · obtain ⟨as₁, has₁, rfl⟩ := Option.map_eq_some_iff.mp h
        rw [List.map_cons, List.map_cons, ih has₁]

/-- A loop that sets values keeps what none of them changes. -/
theorem foldl_keeps {α β γ : Type} {f : α → β → α} {g : α → γ} (hg : ∀ a b, g (f a b) = g a)
    (bs : List β) (a : α) : g (bs.foldl f a) = g a := by
  induction bs generalizing a with
  | nil => rfl
  | cons b bs ih => rw [List.foldl_cons, ih, hg]

theorem map_of_parseElement {α β : Type} {idLineno : α → Int} {id : α → CString} {name : CString}
    {e : Die} {f : α → α} {g : α → β} {as as' : List α} (hg : ∀ a, g (f a) = g a)
    (h : parseElement idLineno id name e f as = .ok as') : as'.map g = as.map g := by
  rw [parseElement] at h
  split at h
  · next hfirst =>
    cases h
    exact map_of_changeFirst hg hfirst
  · cases h

/-- What `PatchImage` goes by when it looks for the parameter of a stream. -/
structure Device.SameNames (d d' : Device) : Prop where
  strings : d'.stringParameters.map (·.id) = d.stringParameters.map (·.id)
  ints : d'.intParameters.map (·.id) = d.intParameters.map (·.id)
  floats : d'.floatParameters.map (·.id) = d.floatParameters.map (·.id)
  lists : d'.listParameters.map (·.id) = d.listParameters.map (·.id)

/-- The configuration renames nothing. -/
theorem sameNames_of_parseItem {d d' : Device} {item : ConfigItem}
    (h : parseItem d item = .ok d') : d.SameNames d' := by
  cases item with
  | physicalAddress a => cases h; exact ⟨rfl, rfl, rfl, rfl⟩
  | installKey k => cases h; exact ⟨rfl, rfl, rfl, rfl⟩
  | key m => cases h; exact ⟨rfl, rfl, rfl, rfl⟩
  | property => cases h
  | pollingMaster => cases h
  | pollingSlave => cases h
  -- an item of a group object changes no parameter
  | groupObject id items =>
      obtain ⟨os, -, h⟩ := bind_eq_ok.mp h
      cases h
      exact ⟨rfl, rfl, rfl, rfl⟩
  | listParameter id values =>
      obtain ⟨ps, hps, h⟩ := bind_eq_ok.mp h
      cases h
      refine ⟨rfl, rfl, rfl, map_of_parseElement (fun p => ?_) hps⟩
      apply foldl_keeps (g := ListParameter.id)
      exact fun _ _ => rfl
  | intParameter id values =>
      obtain ⟨ps, hps, h⟩ := bind_eq_ok.mp h
      cases h
      refine ⟨rfl, map_of_parseElement (fun p => ?_) hps, rfl, rfl⟩
      apply foldl_keeps (g := IntParameter.id)
      exact fun _ _ => rfl
  | floatParameter id values =>
      obtain ⟨ps, hps, h⟩ := bind_eq_ok.mp h
      cases h
      refine ⟨rfl, rfl, map_of_parseElement (fun p => ?_) hps, rfl⟩
      apply foldl_keeps (g := FloatParameter.id)
      exact fun _ _ => rfl
  | stringParameter id values =>
      obtain ⟨ps, hps, h⟩ := bind_eq_ok.mp h
      cases h
      refine ⟨map_of_parseElement (fun p => ?_) hps, rfl, rfl, rfl⟩
      apply foldl_keeps (g := StringParameter.id)
      exact fun _ _ => rfl

theorem sameNames_of_xmlReadConfigInformation {d d' : Device} {items : List ConfigItem}
    (h : xmlReadConfigInformation d items = .ok d') : d.SameNames d' := by
  induction items generalizing d with
  | nil => cases h; exact ⟨rfl, rfl, rfl, rfl⟩
  | cons item items ih =>
      rw [xmlReadConfigInformation, List.foldlM_cons] at h
      obtain ⟨d₁, hd₁, h⟩ := bind_eq_ok.mp h
      obtain ⟨hs, hi, hf, hl⟩ := ih h
      obtain ⟨hs₁, hi₁, hf₁, hl₁⟩ := sameNames_of_parseItem hd₁
      exact ⟨hs.trans hs₁, hi.trans hi₁, hf.trans hf₁, hl.trans hl₁⟩

/-- The device has a parameter of the name in the stream. -/
def Device.Knows (d : Device) : STRStream → Prop
  | .stringParameter l => l.name ∈ d.stringParameters.map (·.id)
  | .intParameter l => l.name ∈ d.intParameters.map (·.id)
  | .floatParameter l => l.name ∈ d.floatParameters.map (·.id)
  | .listParameter l => l.name ∈ d.listParameters.map (·.id)
  | _ => True

theorem Device.SameNames.knows {d d' : Device} (h : d.SameNames d') {s : STRStream}
    (hs : d.Knows s) : d'.Knows s := by
  cases s with
  | stringParameter l => show _ ∈ _; rw [h.strings]; exact hs
  | intParameter l => show _ ∈ _; rw [h.ints]; exact hs
  | floatParameter l => show _ ∈ _; rw [h.floats]; exact hs
  | listParameter l => show _ ∈ _; rw [h.lists]; exact hs
  | _ => trivial

theorem Device.knows_addStream (d : Device) (s : STRStream) : (d.addStream s).Knows s := by
  cases s with
  | stringParameter l => show _ ∈ List.map _ (_ ++ [_]); simp
  | intParameter l => show _ ∈ List.map _ (_ ++ [_]); simp
  | floatParameter l => show _ ∈ List.map _ (_ ++ [_]); simp
  | listParameter l => show _ ∈ List.map _ (_ ++ [_]); simp
  | _ => trivial

/-- A further stream is put behind the others. -/
theorem Device.knows_of_knows {d : Device} {s : STRStream} (h : d.Knows s) (s' : STRStream) :
    (d.addStream s').Knows s := by
  have happend : ∀ {α : Type} (as : List α) (a : α) (g : α → CString) (n : CString),
      n ∈ as.map g → n ∈ (as ++ [a]).map g := by
    intro α as a g n hn
    rw [List.map_append]
    exact List.mem_append_left _ hn
  -- only a stream of the same kind adds to the list that is looked at
  cases s' with
  | stringParameter l =>
      cases s with
      | stringParameter l' => exact happend _ _ _ _ h
      | _ => exact h
  | intParameter l =>
      cases s with
      | intParameter l' => exact happend _ _ _ _ h
      | _ => exact h
  | floatParameter l =>
      cases s with
      | floatParameter l' => exact happend _ _ _ _ h
      | _ => exact h
  | listParameter l =>
      cases s with
      | listParameter l' => exact happend _ _ _ _ h
      | _ => exact h
  | _ => exact h

theorem knows_imageToDevice (i : Image) (d : Device) :
    ∀ s ∈ i.str, (imageToDevice i d).Knows s := by
  have hkeep : ∀ (str : List STRStream) (d : Device) (s : STRStream), d.Knows s →
      (str.foldl Device.addStream d).Knows s := by
    intro str
    induction str with
    | nil => exact fun _ _ h => h
    | cons s' str ih => exact fun d s h => ih _ s (Device.knows_of_knows h s')
  have hall : ∀ (str : List STRStream) (d : Device), ∀ s ∈ str,
      (str.foldl Device.addStream d).Knows s := by
    intro str
    induction str with
    | nil => exact fun _ _ hs => nomatch hs
    | cons s' str ih =>
        intro d s hs
        obtain rfl | hs := List.mem_cons.mp hs
        · exact hkeep str _ s (d.knows_addStream s)
        · exact ih _ s hs
  exact hall i.str d

/-! ## The parameters -/

theorem findParameter_of_mem {α : Type} {id : α → CString} {name : CString} {ps : List α}
    (h : name ∈ ps.map id) : ∃ p, findParameter id name ps = .ok p := by
  obtain ⟨p, hp, hname⟩ := List.mem_map.mp h
  have hsome : (ps.find? fun p => id p = name).isSome := by
    rw [List.find?_isSome]
    exact ⟨p, hp, decide_eq_true hname⟩
  obtain ⟨q, hq⟩ := Option.isSome_iff_exists.mp hsome
  exact ⟨q, by rw [findParameter, hq]⟩

/-- The bytes of a number of the given type code. -/
def intSize (type : Byte) : Nat :=
  if type = 1#8 ∨ type = -1#8 then 1
  else if type = 2#8 ∨ type = -2#8 then 2
  else if type = 3#8 ∨ type = -3#8 then 4
  else if type = 4#8 ∨ type = -4#8 then 8
  else 0

/-- The address and the size that a stream declares for its parameter. -/
def declaredCell : STRStream → Option (Word16 × Nat)
  | .stringParameter l => some (l.addr, l.length.toNat)
  | .intParameter l => some (l.addr, intSize l.type)
  | .floatParameter l => some (l.addr, 4)
  | .listParameter l => some (l.addr, if l.elements.length ≤ 0x100 then 1 else 2)
  | _ => none

/-- Byte `k` of the code belongs to the parameter of the stream. -/
def InCell (s : STRStream) (k : Nat) : Prop :=
  ∃ addr n, declaredCell s = some (addr, n) ∧ addr.toNat ≤ k + 0x100 ∧ k + 0x100 < addr.toNat + n

theorem StringParameter.length_bytes {l : STRStringParameter} {p : StringParameter} {bs : CArray}
    (h : p.bytes l = .ok bs) : bs.length ≤ l.length.toNat := by
  rw [bytes] at h
  split at h
  · cases h
  split at h
  · cases h
  next hfit =>
  cases h
  rw [List.length_append, List.length_singleton]
  omega

theorem IntParameter.length_bytes {l : STRIntParameter} {p : IntParameter} {bs : CArray}
    (h : p.bytes l = .ok bs) : bs.length ≤ intSize l.type := by
  rw [bytes] at h
  rw [intSize]
  split at h
  · cases h
  split at h
  · next h1 => rw [if_pos h1]; cases h; exact Nat.le_refl 1
  next h1 =>
  split at h
  · next h2 => rw [if_neg h1, if_pos h2]; cases h; exact Nat.le_refl 2
  next h2 =>
  split at h
  · next h3 => rw [if_neg h1, if_neg h2, if_pos h3]; cases h; exact Nat.le_refl 4
  next h3 =>
  split at h
  · next h4 => rw [if_neg h1, if_neg h2, if_neg h3, if_pos h4]; cases h; exact Nat.le_refl 8
  · cases h

theorem FloatParameter.length_bytes {p : FloatParameter} {bs : CArray} (h : p.bytes = .ok bs) :
    bs.length ≤ 4 := by
  rw [bytes] at h
  split at h
  · cases h
  · cases h
    exact Nat.le_refl 4

theorem ListParameter.length_bytes {l : STRListParameter} {p : ListParameter} {bs : CArray}
    (h : p.bytes l = .ok bs) : bs.length ≤ if l.elements.length ≤ 0x100 then 1 else 2 := by
  have hle := List.idxOf_le_length (a := p.value) (l := l.elements)
  rw [bytes] at h
  split at h
  · cases h
  split at h
  · cases h
  next hfound =>
  split at h
  · cases h
    show 1 ≤ _
    split <;> omega
  · next hlarge =>
    -- the number of an element behind the first 256
    cases h
    rw [if_neg (by omega)]
    exact Nat.le_refl 2

/-- Looking for the parameter does not leave the array, and what is stored belongs to it. -/
theorem parameterPatch_spec {d : Device} {s : STRStream} (h : d.Knows s) :
    ∃ r, parameterPatch d s = ofResult r ∧
      ∀ p, r = .ok (some p) → ∀ k, p.Covers k → InCell s k := by
  -- the four kinds of parameters differ in the search and in the bytes
  have hfound : ∀ {α : Type} {id : α → CString} {name : CString} {ps : List α}
      (bytes : α → Except Die CArray) (addr : Word16) (n : Nat), name ∈ ps.map id →
      (∀ p bs, bytes p = .ok bs → bs.length ≤ n) → declaredCell s = some (addr, n) →
      ∃ r, (do
        let p ← ofChecked (findParameter id name ps)
        let bytes ← ofResult (bytes p)
        return some (codePatch addr bytes) : Aborting Die (Option Patch)) = ofResult r ∧
          ∀ p, r = .ok (some p) → ∀ k, p.Covers k → InCell s k := by
    intro α id name ps bytes addr n hname hlen hcell
    obtain ⟨p, hp⟩ := findParameter_of_mem hname
    rw [hp]
    refine ⟨(bytes p).map fun bytes => some (codePatch addr bytes), ?_, ?_⟩
    · show (ofResult (bytes p) >>= fun bytes => pure (some (codePatch addr bytes))) = _
      rcases bytes p with e | bs
      · rfl
      · rfl
    · intro q hq k hk
      rcases hbytes : bytes p with e | bs
      · rw [hbytes] at hq
        cases hq
      · rw [hbytes] at hq
        cases hq
        have hle := hlen p bs hbytes
        have hk' : (addr.toNat : Int) - 0x100 ≤ k ∧
            (k : Int) < (addr.toNat : Int) - 0x100 + bs.length := hk
        exact ⟨addr, n, hcell, by omega, by omega⟩
  cases s with
  | stringParameter l =>
      exact hfound _ l.addr _ h (fun _ _ => StringParameter.length_bytes) rfl
  | intParameter l => exact hfound _ l.addr _ h (fun _ _ => IntParameter.length_bytes) rfl
  | floatParameter l => exact hfound _ l.addr _ h (fun _ _ => FloatParameter.length_bytes) rfl
  | listParameter l => exact hfound _ l.addr _ h (fun _ _ => ListParameter.length_bytes) rfl
  | _ => exact ⟨.ok none, rfl, fun _ hp => nomatch hp⟩

/-- What is stored until a parameter makes `PatchImage` die. -/
def storedPatches (d : Device) : List STRStream → List Patch
  | [] => []
  | s :: str =>
      match (parameterPatch d s).run with
      | .ok (.ok (some p)) => p :: storedPatches d str
      | .ok (.ok none) => storedPatches d str
      | _ => []

/-- No parameter makes `PatchImage` die. -/
def NoParameterDies (d : Device) (str : List STRStream) : Prop :=
  ∀ s ∈ str, ∃ p, parameterPatch d s = ofResult (.ok p)

theorem wp_patchParameters {d : Device} {str : List STRStream} (hknows : ∀ s ∈ str, d.Knows s)
    (c : CArray) (Q : CArray → Prop) :
    wp (patchParameters d str c) Q ↔
      (∀ p ∈ storedPatches d str, p.Inside c.length) ∧
        (NoParameterDies d str → Q (Patch.applyAll c (storedPatches d str))) := by
  induction str generalizing c with
  | nil => exact ⟨fun h => ⟨fun _ => (nomatch ·), fun _ => h⟩, fun h => h.2 fun _ => (nomatch ·)⟩
  | cons s str ih =>
      obtain ⟨hs, hstr⟩ := List.forall_mem_cons.mp hknows
      obtain ⟨r, hr, -⟩ := parameterPatch_spec hs
      have hdies : NoParameterDies d (s :: str) ↔ (∃ p, r = .ok p) ∧ NoParameterDies d str := by
        rw [NoParameterDies, List.forall_mem_cons, hr]
        refine and_congr_left fun _ => exists_congr fun p => ⟨fun h => ?_, fun h => by rw [h]⟩
        exact Except.ok.inj h
      rw [patchParameters, List.foldlM_cons, wp_bind, storedPatches, hr, hdies]
      rcases r with e | _ | p
      · -- it dies here
        exact ⟨fun _ => ⟨fun _ hp => (nomatch hp), fun h => (nomatch h.1)⟩, fun _ => trivial⟩
      · -- not a parameter
        show wp (patchParameters d str c) Q ↔ _
        rw [ih hstr]
        exact and_congr_right fun _ => ⟨fun h hd => h hd.2, fun h hd => h ⟨⟨none, rfl⟩, hd⟩⟩
      · show wp (ofChecked (p.store c)) (fun c => wp (patchParameters d str c) Q) ↔ _
        rw [wp_ofChecked]
        show _ ↔ (∀ q ∈ p :: storedPatches d str, q.Inside c.length) ∧ _
        rw [List.forall_mem_cons]
        constructor
        · rintro ⟨c', hc', hrest⟩
          obtain ⟨hp, rfl⟩ := Patch.store_eq_ok.mp hc'
          obtain ⟨hin, hQ⟩ := (ih hstr _).mp hrest
          rw [Patch.length_apply hp] at hin
          exact ⟨⟨hp, hin⟩, fun hd => hQ hd.2⟩
        · rintro ⟨⟨hp, hin⟩, hQ⟩
          refine ⟨_, Patch.store_eq_ok.mpr ⟨hp, rfl⟩, (ih hstr _).mpr ⟨?_, fun hd => ?_⟩⟩
          · rw [Patch.length_apply hp]
            exact hin
          · exact hQ ⟨⟨some p, rfl⟩, hd⟩

/-- Nothing is stored next to a parameter. -/
theorem inCell_of_storedPatches {d : Device} {str : List STRStream} (hknows : ∀ s ∈ str, d.Knows s)
    {p : Patch} (hp : p ∈ storedPatches d str) {k : Nat} (hk : p.Covers k) :
    ∃ s ∈ str, InCell s k := by
  induction str with
  | nil => cases hp
  | cons s str ih =>
      obtain ⟨hs, hstr⟩ := List.forall_mem_cons.mp hknows
      obtain ⟨r, hr, hcell⟩ := parameterPatch_spec hs
      have hrest : p ∈ storedPatches d str → ∃ s' ∈ s :: str, InCell s' k := by
        intro hp
        obtain ⟨s', hs', hk'⟩ := ih hstr hp
        exact ⟨s', List.mem_cons_of_mem _ hs', hk'⟩
      rw [storedPatches, hr] at hp
      rcases r with e | _ | q
      · cases hp
      · exact hrest hp
      · obtain rfl | hp := List.mem_cons.mp hp
        · exact ⟨s, List.mem_cons_self, hcell p rfl k hk⟩
        · exact hrest hp

theorem patchParameters_eq {d : Device} {str : List STRStream} {c : CArray}
    (hlive : NoParameterDies d str) (hin : ∀ p ∈ storedPatches d str, p.Inside c.length) :
    patchParameters d str c = ofResult (.ok (Patch.applyAll c (storedPatches d str))) := by
  induction str generalizing c with
  | nil => rfl
  | cons s str ih =>
      obtain ⟨⟨r, hr⟩, hlive⟩ := List.forall_mem_cons.mp hlive
      rw [patchParameters, List.foldlM_cons, storedPatches, hr]
      rw [storedPatches, hr] at hin
      rcases r with _ | p
      · exact ih hlive hin
      · obtain ⟨hp, hin⟩ := List.forall_mem_cons.mp hin
        rw [← Patch.length_apply hp] at hin
        show (ofChecked (p.store c) >>= fun c => patchParameters d str c) = _
        rw [Patch.store_eq_ok.mpr ⟨hp, rfl⟩]
        exact ih hlive hin

/-! ## The tables -/

/-- A table with that many entries, at two bytes each, is inside of `n` bytes. -/
def TableInside (n : Nat) (start : Int) (entries : Nat) : Prop :=
  0 ≤ start ∧ start + 1 + 2 * entries ≤ n

/-- Place `k` is one of a table with that many entries. -/
def InTable (start : Int) (entries k : Nat) : Prop := start ≤ k ∧ k < start + 1 + 2 * entries

/-- The count byte of the table at `start`. -/
def countByte (c : CArray) (start : Int) : Nat := (c.getD start.toNat 0#8).toNat

theorem tableInside_zero {n entries : Nat} {start : Int} (h : TableInside n start entries) :
    TableInside n start 0 := by
  rw [TableInside] at h ⊢
  omega

theorem readAt_eq_ok_iff {c : CArray} {start : Int} {b : Byte} :
    readAt c start = .ok b ↔ TableInside c.length start 0 ∧ c.getD start.toNat 0#8 = b := by
  rw [readAt_eq_ok, TableInside]
  refine and_congr_left fun _ => ?_
  omega

theorem length_flatMap_two {α : Type} (f : α → CArray) (h : ∀ a, (f a).length = 2) (as : List α) :
    (as.flatMap f).length = 2 * as.length := by
  induction as with
  | nil => rfl
  | cons a as ih =>
      rw [List.flatMap_cons, List.length_append, ih, h, List.length_cons]
      omega

theorem length_addrTablePatch (start : Int) (d : Device) (t : AddrTable) :
    (addrTablePatch start d t).bytes.length = 1 + 2 * (t.addr.length + 1) := by
  have hentries := length_flatMap_two wordBytes (fun _ => rfl) t.addr
  simp only [addrTablePatch, List.length_cons, hentries]
  omega

theorem length_assocTablePatch (start : Int) (slots : List Slot) :
    (assocTablePatch start slots).bytes.length = 1 + 2 * slots.length := by
  have hentries := length_flatMap_two
    (fun s : Slot => [BitVec.ofNat 8 (s.addr + 1), BitVec.ofInt 8 s.objNo]) (fun _ => rfl) slots
  simp only [assocTablePatch, List.length_cons, hentries]
  omega

theorem addrTablePatch_inside {n : Nat} {start : Int} {d : Device} {t : AddrTable} :
    (addrTablePatch start d t).Inside n ↔ TableInside n start (t.addr.length + 1) := by
  rw [Patch.Inside, length_addrTablePatch, TableInside]
  show 0 ≤ start ∧ start + _ ≤ _ ↔ _
  push_cast
  omega

theorem assocTablePatch_inside {n : Nat} {start : Int} {slots : List Slot} :
    (assocTablePatch start slots).Inside n ↔ TableInside n start slots.length := by
  rw [Patch.Inside, length_assocTablePatch, TableInside]
  show 0 ≤ start ∧ start + _ ≤ _ ↔ _
  push_cast
  omega

theorem wp_patchAddrTable (start : Int) (d : Device) (t : AddrTable) (c : CArray)
    (Q : CArray → Prop) :
    wp (patchAddrTable start d t c) Q ↔ TableInside c.length start 0 ∧
      (t.addr.length + 1 ≤ countByte c start →
        TableInside c.length start (t.addr.length + 1) ∧
          Q ((addrTablePatch start d t).apply c)) := by
  rw [patchAddrTable, wp_bind, wp_ofChecked]
  constructor
  · rintro ⟨space, hspace, h⟩
    obtain ⟨hin, rfl⟩ := readAt_eq_ok_iff.mp hspace
    refine ⟨hin, fun hle => ?_⟩
    obtain ⟨c', hc', hQ⟩ := (wp_ofChecked _).mp ((wp_guard _ _).mp h (Nat.not_lt.mpr hle))
    obtain ⟨hpatch, rfl⟩ := Patch.store_eq_ok.mp hc'
    exact ⟨addrTablePatch_inside.mp hpatch, hQ⟩
  · rintro ⟨hin, h⟩
    refine ⟨_, readAt_eq_ok_iff.mpr ⟨hin, rfl⟩, (wp_guard _ _).mpr fun hle => ?_⟩
    obtain ⟨hpatch, hQ⟩ := h (Nat.not_lt.mp hle)
    exact (wp_ofChecked _).mpr
      ⟨_, Patch.store_eq_ok.mpr ⟨addrTablePatch_inside.mpr hpatch, rfl⟩, hQ⟩

theorem mapM_readSlot (slots : List Slot) : (slots.map some).mapM readSlot = .ok slots := by
  induction slots with
  | nil => rfl
  | cons s slots ih =>
      rw [List.map_cons, List.mapM_cons, ih]
      rfl

theorem wp_patchAssocTable (starts : TableStarts) {t : AddrTable} {slots : List Slot}
    (hslots : t.slots = slots.map some) (c : CArray) (Q : CArray → Prop) :
    wp (patchAssocTable starts t c) Q ↔ TableInside c.length starts.addrtab 0 ∧
      (countByte c starts.addrtab < slots.length → TableInside c.length starts.assoctab 0) ∧
      (slots.length ≤ countByte c starts.addrtab →
        TableInside c.length starts.assoctab slots.length ∧
          Q ((assocTablePatch starts.assoctab slots).apply c)) := by
  have hlen : t.slots.length = slots.length := by rw [hslots, List.length_map]
  rw [patchAssocTable, wp_bind, wp_ofChecked, hlen, hslots, mapM_readSlot]
  constructor
  -- with too many entries the count of the associations is read for the message
  · rintro ⟨count, hcount, h⟩
    obtain ⟨hin, rfl⟩ := readAt_eq_ok_iff.mp hcount
    obtain ⟨hmore, hfit⟩ := (wp_ite _ _).mp h
    refine ⟨hin, fun hlt => ?_, fun hle => ?_⟩
    · obtain ⟨space, hspace, -⟩ := (wp_ofChecked _).mp ((wp_bind _ _ _).mp (hmore hlt))
      exact (readAt_eq_ok_iff.mp hspace).1
    · obtain ⟨c', hc', hQ⟩ := (wp_ofChecked _).mp (hfit (Nat.not_lt.mpr hle))
      obtain ⟨hpatch, rfl⟩ := Patch.store_eq_ok.mp hc'
      exact ⟨assocTablePatch_inside.mp hpatch, hQ⟩
  · rintro ⟨hin, hmessage, h⟩
    refine ⟨_, readAt_eq_ok_iff.mpr ⟨hin, rfl⟩, (wp_ite _ _).mpr ⟨fun hlt => ?_, fun hle => ?_⟩⟩
    · exact (wp_bind _ _ _).mpr ((wp_ofChecked _).mpr
        ⟨_, readAt_eq_ok_iff.mpr ⟨hmessage hlt, rfl⟩, trivial⟩)
    · obtain ⟨hpatch, hQ⟩ := h (Nat.not_lt.mp hle)
      exact (wp_ofChecked _).mpr
        ⟨_, Patch.store_eq_ok.mpr ⟨assocTablePatch_inside.mpr hpatch, rfl⟩, hQ⟩

/-- The count that is stored is the one that the associations are compared with. -/
theorem countByte_apply {c : CArray} {start : Int} (d : Device) {t : AddrTable}
    (h : TableInside c.length start (t.addr.length + 1))
    (hle : t.addr.length + 1 ≤ countByte c start) :
    countByte ((addrTablePatch start d t).apply c) start = t.addr.length + 1 := by
  have hread := Patch.getElem?_apply_start (addrTablePatch_inside (d := d).mpr h) (i := 0)
    (by rw [length_addrTablePatch]; omega)
  have hlt : countByte c start < 256 := (c.getD start.toNat 0#8).isLt
  rw [countByte, List.getD_eq_getElem?_getD]
  show (((addrTablePatch start d t).apply c)[(addrTablePatch start d t).start.toNat + 0]?.getD
    0#8).toNat = _
  rw [hread]
  show (BitVec.ofNat 8 (t.addr.length + 1)).toNat = _
  rw [BitVec.toNat_ofNat]
  omega

/-- The patches of the tables and the flags. -/
def tablePatches (starts : TableStarts) (d : Device) (objs : List GroupObject) : List Patch :=
  addrTablePatch starts.addrtab d (builtTable objs) ::
    assocTablePatch starts.assoctab (tableEntries objs) :: flagPatches starts.groupobj d.bcu objs

/-- The place of the flags of an object. -/
def flagPlace (start : Int) (o : GroupObject) : Int := start + 2 + 3 * o.objNo + 1

/-- What the tables of `objs` need: their count byte is in the code `c`; if it leaves room for the
    addresses, the address table is in the code, and the count byte of the associations; if these
    are not more than the entries of the address table, they and the flags are in the code, too,
    and there is `rest`. -/
def TablesInside (starts : TableStarts) (objs : List GroupObject) (c : CArray) (rest : Prop) :
    Prop :=
  let addresses := (addressTable objs).length + 1
  let associations := associationCount objs
  TableInside c.length starts.addrtab 0 ∧
    (addresses ≤ countByte c starts.addrtab →
      TableInside c.length starts.addrtab addresses ∧ TableInside c.length starts.assoctab 0 ∧
        (associations ≤ addresses →
          TableInside c.length starts.assoctab associations ∧
            (∀ o ∈ objs, TableInside c.length (flagPlace starts.groupobj o) 0) ∧ rest))

theorem flagPatches_inside {n : Nat} {start : Int} {b : BCUType} {objs : List GroupObject} :
    (∀ p ∈ flagPatches start b objs, p.Inside n) ↔
      ∀ o ∈ objs, TableInside n (flagPlace start o) 0 := by
  rw [flagPatches, List.forall_mem_map]
  refine forall₂_congr fun o _ => ?_
  show 0 ≤ flagPlace start o ∧ flagPlace start o + (1 : Nat) ≤ n ↔ _
  rw [TableInside]
  omega

theorem wp_patchTables {starts : TableStarts} {d : Device} {c : CArray} {Q : CArray → Prop} :
    wp (patchTables starts d c) Q ↔
      ∀ objs, d.groupObjects.mapM (GroupObject.buildObjAddress d.bcu) = .ok objs →
        SlotsExist objs ∧
          TablesInside starts objs c (Q (Patch.applyAll c (tablePatches starts d objs))) := by
  rw [patchTables, wp_bind, wp_ofResult]
  refine forall₂_congr fun objs hobjs => ?_
  have hbuilt := GroupObject.built_of_mapM hobjs
  rw [wp_bind, wp_ofChecked]
  by_cases hexist : SlotsExist objs
  swap
  · refine iff_of_false ?_ fun h => hexist h.1
    rintro ⟨t, ht, -⟩
    exact buildAddrTable_of_not_slotsExist hexist ⟨t, ht⟩
  have hslots := slots_eq_map hbuilt hexist
  have htable : (∃ t, buildAddrTable objs = .ok t ∧
      wp (do
        let c ← patchAddrTable starts.addrtab d t c
        let c ← patchAssocTable starts t c
        ofChecked (Patch.storeAll c (flagPatches starts.groupobj d.bcu objs)) :
          Aborting Die CArray) Q) ↔
      wp (do
        let c ← patchAddrTable starts.addrtab d (builtTable objs) c
        let c ← patchAssocTable starts (builtTable objs) c
        ofChecked (Patch.storeAll c (flagPatches starts.groupobj d.bcu objs)) :
          Aborting Die CArray) Q := by
    rw [buildAddrTable_of_slotsExist hbuilt hexist]
    exact ⟨fun ⟨_, ht, h⟩ => Except.ok.inj ht ▸ h, fun h => ⟨_, rfl, h⟩⟩
  rw [htable, wp_bind, wp_patchAddrTable, and_iff_right hexist]
  refine and_congr_right fun _ => forall_congr' fun hle => and_congr_right fun hin => ?_
  -- behind the address table: its count byte is the number that the next check goes by
  have hlen : ((addrTablePatch starts.addrtab d (builtTable objs)).apply c).length = c.length :=
    Patch.length_apply (addrTablePatch_inside.mpr hin)
  have hcount := countByte_apply d hin hle
  rw [wp_bind, wp_patchAssocTable starts hslots, hcount, hlen, length_tableEntries hbuilt hexist]
  constructor
  · rintro ⟨-, hmessage, h⟩
    refine ⟨?_, fun hfew => ?_⟩
    · by_cases hfew : associationCount objs ≤ (builtTable objs).addr.length + 1
      · exact tableInside_zero (h hfew).1
      · exact hmessage (Nat.not_le.mp hfew)
    · obtain ⟨hassoc, hstore⟩ := h hfew
      obtain ⟨c', hc', hQ⟩ := (wp_ofChecked _).mp hstore
      obtain ⟨hflags, rfl⟩ := Patch.storeAll_eq_ok.mp hc'
      rw [Patch.length_apply (assocTablePatch_inside.mpr (by
        rw [hlen, length_tableEntries hbuilt hexist]; exact hassoc)), hlen,
        flagPatches_inside] at hflags
      exact ⟨hassoc, hflags, hQ⟩
  · rintro ⟨hzero, h⟩
    refine ⟨tableInside_zero hin, fun _ => hzero, fun hfew => ?_⟩
    obtain ⟨hassoc, hflags, hQ⟩ := h hfew
    refine ⟨hassoc, (wp_ofChecked _).mpr ⟨_, Patch.storeAll_eq_ok.mpr ⟨?_, rfl⟩, hQ⟩⟩
    rw [Patch.length_apply (assocTablePatch_inside.mpr (by
      rw [hlen, length_tableEntries hbuilt hexist]; exact hassoc)), hlen, flagPatches_inside]
    exact hflags

/-! ## The code and the keys -/

theorem findSome?_changeFirst_of_eq {α β : Type} {p : α → Bool} {f : α → α} {g : α → Option β}
    {as as' : List α} (hg : ∀ a, g (f a) = g a) (h : changeFirst p f as = some as') :
    as'.findSome? g = as.findSome? g := by
  have hmap : ∀ bs : List α, bs.findSome? g = (bs.map g).findSome? id := by
    intro bs
    rw [List.findSome?_map]
    rfl
  rw [hmap, hmap, map_of_changeFirst hg h]

theorem findSome?_changeFirst {α β : Type} {g : α → Option β} {as : List α} {b b' : β} (a' : α)
    (ha' : g a' = some b') (h : as.findSome? g = some b) :
    ∃ as', changeFirst (fun a => (g a).isSome) (fun _ => a') as = some as' ∧
      as'.findSome? g = some b' := by
  induction as with
  | nil => cases h
  | cons a as ih =>
      rw [changeFirst]
      rcases ha : g a with _ | x
      · rw [List.findSome?_cons_of_isNone (by rw [ha]; rfl)] at h
        obtain ⟨as', has', hfind⟩ := ih h
        refine ⟨a :: as', by rw [has']; rfl, ?_⟩
        rw [List.findSome?_cons_of_isNone (by rw [ha]; rfl), hfind]
      · refine ⟨a' :: as, rfl, ?_⟩
        rw [List.findSome?_cons_of_isSome (by rw [ha']; rfl), ha']

/-- All keys are for a level that there is. -/
def KeyLevels (d : Device) : Prop := ∀ m ∈ d.keys, 0 ≤ m.level ∧ m.level ≤ 2

theorem foldlM_setKey_iff {ms : List KeyMap} (keys : List Word32) :
    (∃ keys', ms.foldlM setKey keys = .ok keys') ↔ ∀ m ∈ ms, 0 ≤ m.level ∧ m.level ≤ 2 := by
  induction ms generalizing keys with
  | nil => exact ⟨fun _ _ => (nomatch ·), fun _ => ⟨keys, rfl⟩⟩
  | cons m ms ih =>
      rw [List.forall_mem_cons, ← ih (keys.set m.level.toNat m.key), List.foldlM_cons,
        setKey]
      by_cases hm : m.level < 0 ∨ m.level > 2
      · rw [if_pos hm]
        exact ⟨fun ⟨_, h⟩ => (nomatch h), fun ⟨h, _⟩ => by omega⟩
      · rw [if_neg hm]
        exact ⟨fun h => ⟨by omega, h⟩, fun h => h.2⟩

/-- The keys have no code in them. -/
theorem patchKeys_spec (d : Device) (str : List STRStream) :
    (KeyLevels d ↔ ∃ str', patchKeys d str = .ok str') ∧
      ∀ str', patchKeys d str = .ok str' →
        str'.findSome? STRStream.asCode = str.findSome? STRStream.asCode := by
  refine ⟨?_, fun str' h => ?_⟩
  · rw [KeyLevels, ← foldlM_setKey_iff noKeys]
    constructor
    · rintro ⟨keys, hkeys⟩
      exact ⟨_, by rw [patchKeys, hkeys]; rfl⟩
    · rintro ⟨str', h⟩
      obtain ⟨keys, hkeys, -⟩ := bind_eq_ok.mp h
      exact ⟨keys, hkeys⟩
  · obtain ⟨keys, -, h⟩ := bind_eq_ok.mp h
    obtain rfl := Except.ok.inj h
    rcases hfirst : changeFirst isBCU2Key (changeKeys d keys) str with _ | as
    · rw [Option.getD_none, List.findSome?_append]
      exact Option.or_none
    · refine findSome?_changeFirst_of_eq (fun s => ?_) hfirst
      cases s with
      | _ => rfl

/-! ## The whole program -/

/-- The image that `PatchImage` leaves: the tables have no more entries than their count bytes gave
    in the code `c₀`, and what belongs neither to a parameter nor to a table nor to the flags of an
    object is as it was. -/
structure StaysInside (i : Image) (starts : TableStarts) (objs : List GroupObject) (t : AddrTable)
    (c₀ c' : CArray) : Prop where
  addresses : t.addr.length + 1 ≤ countByte c₀ starts.addrtab
  associations : t.slots.length ≤ countByte c₀ starts.assoctab
  length : c'.length = c₀.length
  others : ∀ k, (∀ s ∈ i.str, ¬ InCell s k) →
    ¬ InTable starts.addrtab (countByte c₀ starts.addrtab) k →
    ¬ InTable starts.assoctab (countByte c₀ starts.assoctab) k →
    (∀ o ∈ objs, (k : Int) ≠ flagPlace starts.groupobj o) → c'[k]? = c₀[k]?

/-- So it is with the tables of the device `d`. -/
def Preserved (i : Image) (d : Device) (i' : Image) : Prop :=
  ∃ co co' c₁ starts objs t, i.findStream STRStream.asCode = some co ∧
    i'.findStream STRStream.asCode = some co' ∧
    patchParameters d i.str co.code = ofResult (.ok c₁) ∧ tableStarts i d c₁ = .ok starts ∧
    d.groupObjects.mapM (GroupObject.buildObjAddress d.bcu) = .ok objs ∧
    buildAddrTable objs = .ok t ∧ StaysInside i starts objs t co.code co'.code

/-- What the image has to reserve, its code being `c`: the parameters up to the first that makes
    `PatchImage` die are in the code; unless there is such a one, the tables are known and inside,
    the objects have their slots, and the count bytes that the image came with leave room for all
    entries, unless a key makes `PatchImage` die. -/
def Reserved (i : Image) (d : Device) (c : CArray) : Prop :=
  let c₁ := Patch.applyAll c (storedPatches d i.str)
  (∀ p ∈ storedPatches d i.str, p.Inside c.length) ∧
    (NoParameterDies d i.str →
      ∃ starts, tableStarts i d c₁ = .ok starts ∧
        ∀ objs, d.groupObjects.mapM (GroupObject.buildObjAddress d.bcu) = .ok objs →
          SlotsExist objs ∧ TablesInside starts objs c₁ (KeyLevels d →
            (addressTable objs).length + 1 ≤ countByte c starts.addrtab ∧
              associationCount objs ≤ countByte c starts.assoctab))

section Program

variable {i : Image} {d : Device} {co : STRCode}

theorem wp_patchImage (hco : i.findStream STRStream.asCode = some co)
    (hknows : ∀ s ∈ i.str, d.Knows s) (Q : Image → Prop) :
    wp (patchImage i d) Q ↔
      (∀ p ∈ storedPatches d i.str, p.Inside co.code.length) ∧
        (NoParameterDies d i.str →
          ∃ starts, tableStarts i d (Patch.applyAll co.code (storedPatches d i.str)) = .ok starts ∧
            ∀ objs, d.groupObjects.mapM (GroupObject.buildObjAddress d.bcu) = .ok objs →
              SlotsExist objs ∧
                TablesInside starts objs (Patch.applyAll co.code (storedPatches d i.str))
                  (∀ str, patchKeys d ((setCode i.str (Patch.applyAll (Patch.applyAll co.code
                      (storedPatches d i.str)) (tablePatches starts d objs))).getD i.str) =
                    .ok str → Q { str })) := by
  rw [patchImage, hco]
  show wp (patchParameters d i.str co.code >>= _) Q ↔ _
  rw [wp_bind, wp_patchParameters hknows]
  refine and_congr_right fun _ => forall_congr' fun _ => ?_
  rw [wp_bind, wp_ofChecked]
  refine exists_congr fun starts => and_congr_right fun _ => ?_
  rw [wp_bind, wp_patchTables]
  refine forall₂_congr fun objs _ => and_congr_right fun _ => ?_
  rw [wp_bind, wp_ofResult]
  exact Iff.rfl

/-- What is behind the checks may use that they have been passed. -/
theorem tablesInside_congr {starts : TableStarts} {objs : List GroupObject} {c : CArray}
    {rest rest' : Prop}
    (h : TableInside c.length starts.addrtab ((addressTable objs).length + 1) →
      TableInside c.length starts.assoctab (associationCount objs) →
      (∀ o ∈ objs, TableInside c.length (flagPlace starts.groupobj o) 0) → (rest ↔ rest')) :
    TablesInside starts objs c rest ↔ TablesInside starts objs c rest' := by
  refine and_congr_right fun _ => forall_congr' fun _ => and_congr_right fun haddr => ?_
  refine and_congr_right fun _ => forall_congr' fun _ => and_congr_right fun hassoc => ?_
  exact and_congr_right fun hflags => h haddr hassoc hflags

/-- With room for all entries, nothing but parameters, tables and flags is touched. -/
theorem staysInside {starts : TableStarts} {objs : List GroupObject} {c : CArray}
    (hknows : ∀ s ∈ i.str, d.Knows s) (hbuilt : ∀ o ∈ objs, o.Built) (hexist : SlotsExist objs)
    (hparam : ∀ p ∈ storedPatches d i.str, p.Inside c.length)
    (haddr : TableInside c.length starts.addrtab ((addressTable objs).length + 1))
    (hassoc : TableInside c.length starts.assoctab (associationCount objs))
    (hflags : ∀ o ∈ objs, TableInside c.length (flagPlace starts.groupobj o) 0)
    (hcounts : (addressTable objs).length + 1 ≤ countByte c starts.addrtab ∧
      associationCount objs ≤ countByte c starts.assoctab) :
    StaysInside i starts objs (builtTable objs) c
      (Patch.applyAll (Patch.applyAll c (storedPatches d i.str)) (tablePatches starts d objs)) := by
  have hentries := length_tableEntries hbuilt hexist
  have hslots : (builtTable objs).slots.length = associationCount objs := by
    rw [slots_eq_map hbuilt hexist, List.length_map, hentries]
  -- every patch lies inside the image
  have hin : ∀ p ∈ storedPatches d i.str ++ tablePatches starts d objs, p.Inside c.length := by
    intro p hp
    obtain hp | hp := List.mem_append.mp hp
    · exact hparam p hp
    obtain rfl | hp := List.mem_cons.mp hp
    · exact addrTablePatch_inside.mpr haddr
    obtain rfl | hp := List.mem_cons.mp hp
    · exact assocTablePatch_inside.mpr (by rw [hentries]; exact hassoc)
    · exact flagPatches_inside.mpr hflags p hp
  rw [← Patch.applyAll_append]
  refine ⟨hcounts.1, by rw [hslots]; exact hcounts.2, Patch.length_applyAll hin, ?_⟩
  -- a byte outside of all the places is in no patch
  intro k hcell haddrtab hassoctab hflag
  refine Patch.getElem?_applyAll hin fun p hp hk => ?_
  obtain hp | hp := List.mem_append.mp hp
  · obtain ⟨s, hs, hks⟩ := inCell_of_storedPatches hknows hp hk
    exact hcell s hs hks
  obtain rfl | hp := List.mem_cons.mp hp
  · obtain ⟨hlo, hhi⟩ := hk
    rw [length_addrTablePatch] at hhi
    have hmore : (builtTable objs).addr.length + 1 ≤ countByte c starts.addrtab := hcounts.1
    refine haddrtab ⟨hlo, ?_⟩
    show (k : Int) < starts.addrtab + 1 + 2 * _
    change (k : Int) < starts.addrtab + _ at hhi
    omega
  obtain rfl | hp := List.mem_cons.mp hp
  · obtain ⟨hlo, hhi⟩ := hk
    rw [length_assocTablePatch, hentries] at hhi
    have hmore := hcounts.2
    refine hassoctab ⟨hlo, ?_⟩
    change (k : Int) < starts.assoctab + _ at hhi
    omega
  · obtain ⟨o, ho, rfl⟩ := List.mem_map.mp hp
    obtain ⟨hlo, hhi⟩ := hk
    refine hflag o ho ?_
    change flagPlace starts.groupobj o ≤ k at hlo
    change (k : Int) < flagPlace starts.groupobj o + 1 at hhi
    omega

theorem wp_patchImage_preserved (hco : i.findStream STRStream.asCode = some co)
    (hknows : ∀ s ∈ i.str, d.Knows s) :
    wp (patchImage i d) (Preserved i d) ↔ Reserved i d co.code := by
  rw [wp_patchImage hco hknows, Reserved]
  refine and_congr_right fun hparam => forall_congr' fun hlive => exists_congr fun starts =>
    and_congr_right fun hstarts => forall₂_congr fun objs hobjs => and_congr_right fun hexist =>
    tablesInside_congr fun haddr hassoc hflags => ?_
  have hbuilt := GroupObject.built_of_mapM hobjs
  rw [Patch.length_applyAll hparam] at haddr hassoc hflags
  have htable := buildAddrTable_of_slotsExist hbuilt hexist
  have hparams := patchParameters_eq hlive hparam
  -- the code of the image that is left
  obtain ⟨str, hstr, hcode⟩ := findSome?_changeFirst (g := STRStream.asCode) (STRStream.code
    ⟨Patch.applyAll (Patch.applyAll co.code (storedPatches d i.str)) (tablePatches starts d objs)⟩)
    rfl hco
  rw [setCode, hstr, Option.getD_some]
  obtain ⟨hlevels, hkeep⟩ := patchKeys_spec d str
  constructor
  · intro h hkeys
    obtain ⟨str', hstr'⟩ := hlevels.mp hkeys
    obtain ⟨co₁, co', c₁, starts₁, objs₁, t, hco₁, -, hc₁, hstarts₁, hobjs₁, ht, hstays⟩ :=
      h str' hstr'
    cases hco.symm.trans hco₁
    cases hparams.symm.trans hc₁
    cases hstarts.symm.trans hstarts₁
    cases hobjs.symm.trans hobjs₁
    cases htable.symm.trans ht
    have hassociations := hstays.associations
    rw [slots_eq_map hbuilt hexist, List.length_map, length_tableEntries hbuilt hexist]
      at hassociations
    exact ⟨hstays.addresses, hassociations⟩
  · intro h str' hstr'
    exact ⟨co, _, _, starts, objs, _, hco, (hkeep str' hstr').trans hcode, hparams, hstarts, hobjs,
      htable, staysInside hknows hbuilt hexist hparam haddr hassoc hflags
        (h (hlevels.mpr ⟨str', hstr'⟩))⟩

end Program

/-- An image that `PrepareLoadImage` accepts has a code. -/
theorem exists_code {unset : Word16} {p : CArray} {img : Image} {im : BCUImage}
    (himg : Image.FromArray p (.ok (some img)))
    (hload : PrepareLoadImage unset p (.ok (.imageLoadable, some im))) :
    ∃ co, img.findStream STRStream.asCode = some co := by
  obtain ⟨o, ho, hr⟩ := hload
  rw [← himg.unique ho, Checked.ok_bind, prepareImage] at hr
  obtain ⟨l, hl, hr⟩ := Checked.bind_eq_ok.mp hr.symm
  rcases hcode : img.findStream STRStream.asCode with _ | co
  · rw [checkImage, hcode] at hl
    split at hl
    · cases hl
      cases hr
    · rcases htype : img.findStream STRStream.asBCUType with _ | bt
      · rw [htype] at hl
        cases hl
        cases hr
      · rw [htype] at hl
        cases hl
        cases hr
  · exact ⟨co, rfl⟩

/-- `PatchImage`, with whatever configuration, dies or stays inside of the space that an accepted
    image reserves exactly if that image is made so. -/
theorem patchImage_staysInside_iff {unset : Word16} {p : CArray} {img : Image} {im : BCUImage}
    {b : BCUType} {items : List ConfigItem} {d : Device}
    (himg : Image.FromArray p (.ok (some img)))
    (hload : PrepareLoadImage unset p (.ok (.imageLoadable, some im)))
    (hd : xmlReadConfigInformation (imageToDevice img { bcu := b }) items = .ok d) :
    wp (patchImage img d) (Preserved img d) ↔
      ∀ co, img.findStream STRStream.asCode = some co → Reserved img d co.code := by
  have hknows : ∀ s ∈ img.str, d.Knows s := fun s hs =>
    (sameNames_of_xmlReadConfigInformation hd).knows (knows_imageToDevice img _ s hs)
  obtain ⟨co, hco⟩ := exists_code himg hload
  rw [wp_patchImage_preserved hco hknows]
  exact ⟨fun h co' hco' => Option.some.inj (hco.symm.trans hco') ▸ h, fun h => h co hco⟩

/-- A BCU 1 with one group object: an address table for three entries at 0x16, an association table
    for one entry at 0x1d, and the description of the object behind it. -/
def smallCode : CArray :=
  List.replicate 0x11 9#8 ++ [0x1d#8, 0x20#8, 9#8, 9#8, 9#8] ++
    [3#8, 0#8, 0#8, 0#8, 0#8, 0#8, 0#8] ++ [1#8, 0#8, 0#8] ++ [9#8, 9#8, 9#8, 9#8]

/-- The name of its object. -/
def smallName : CString := ⟨[0x6f#8], by decide⟩

def smallImage : Image :=
  ⟨[.bcuType ⟨0x0012#16⟩, .bcu1Size ⟨0x0024#16, 0#16, 0#16, 0#16⟩, .code ⟨smallCode⟩,
    .groupObject ⟨0#8, smallName⟩]⟩

theorem fromArray_smallImage : Image.FromArray smallImage.array (.ok (some smallImage)) :=
  Image.fromArray_array (by simp [smallImage, STRStream.InRange]) (by decide)

theorem prepareLoadImage_smallImage :
    PrepareLoadImage 0#16 smallImage.array (.ok (.imageLoadable, some
      { bcuType := .bcu1, code := smallCode, load := [], addr := 0#16, installkey := 0#32
        keys := [] })) :=
  ⟨_, fromArray_smallImage, rfl⟩

/-- The device with the given addresses for its object. -/
def smallDevice (o : GroupObject) : Device :=
  { bcu := .bcu12, groupObjects := [{ o with id := smallName, idLineno := 1, objNo := 0 }] }

theorem patchImage_staysInside_iff_small :
    wp (patchImage smallImage (smallDevice { sendAddress := 1, sendAddressLineno := 1 }))
        (Preserved smallImage (smallDevice { sendAddress := 1, sendAddressLineno := 1 })) ↔
      ∀ co, smallImage.findStream STRStream.asCode = some co →
        Reserved smallImage (smallDevice { sendAddress := 1, sendAddressLineno := 1 }) co.code :=
  patchImage_staysInside_iff fromArray_smallImage prepareLoadImage_smallImage
    (show xmlReadConfigInformation (imageToDevice smallImage { bcu := .bcu12 })
      [.groupObject smallName [.sendAddress 1]] = .ok _ from rfl)

/-- With two addresses the association table grows over the byte behind it. -/
theorem patchImage_overruns :
    xmlReadConfigInformation (imageToDevice smallImage { bcu := .bcu12 })
        [.groupObject smallName [.receiveAddress 1, .sendAddress 2]] =
      .ok (smallDevice (receiveAndSend 0 1 2)) ∧
    Image.FromArray smallImage.array (.ok (some smallImage)) ∧
    (∃ im, PrepareLoadImage 0#16 smallImage.array (.ok (.imageLoadable, some im))) ∧
    ¬ wp (patchImage smallImage (smallDevice (receiveAndSend 0 1 2)))
      (Preserved smallImage (smallDevice (receiveAndSend 0 1 2))) := by
  refine ⟨rfl, fromArray_smallImage, ⟨_, prepareLoadImage_smallImage⟩, fun h => ?_⟩
  have hrun : ∃ i' co', patchImage smallImage (smallDevice (receiveAndSend 0 1 2)) =
      ofResult (.ok i') ∧ i'.findStream STRStream.asCode = some co' ∧ co'.code[0x20]? = some 1#8 :=
    ⟨_, _, rfl, rfl, rfl⟩
  obtain ⟨i', co', hi', hco', hbyte⟩ := hrun
  rw [hi'] at h
  obtain ⟨co, co₁, c₁, starts, objs, t, hco, hco₁, hc₁, hstarts, hobjs, -, hstays⟩ := h
  cases hco'.symm.trans hco₁
  cases hco
  cases hc₁
  cases hstarts
  cases hobjs
  -- byte 0x20 is behind the only entry that the association table has room for
  have hsame := hstays.others 0x20 ?_ ?_ ?_ ?_
  · rw [hbyte] at hsame
    exact absurd hsame (by decide)
  · simp [smallImage, InCell, declaredCell]
  · rw [InTable]
    decide
  · rw [InTable]
    decide
  · decide

end BcuSdk.BcuGen
