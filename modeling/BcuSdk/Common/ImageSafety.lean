/-
  BcuSdk.Common.ImageSafety

  What an arbitrary array can do to the image decoder.

  The position of the stream loop is a 16-bit word; on arrays of that size
  every round moves it forward, so that the loop ends.  Of the bodies that do
  not hold what they announce, all are refused but one kind: a list whose
  count exceeds its strings is scanned behind the end of the array.
-/
import BcuSdk.Common.ImageRoundTrip

namespace BcuSdk.Common

open BcuSdk.Lib

/-! ## Termination of the stream loop -/

namespace Image

/-- Each round moves the position forward, and not out of the array. -/
theorem nextStream_progress {c stream : CArray} {pos pos' : Word16} (hc : c.length ≤ 65535)
    (h : nextStream c pos = .ok (some (stream, pos'))) :
    pos.toNat < pos'.toNat ∧ pos'.toNat ≤ c.length := by
  obtain ⟨hlong, hpos, hle, -⟩ := nextStream_eq_some (by omega) h
  omega

/-- The bytes that are left bound the rounds that are needed. -/
theorem loop_terminates (decode : CArray → Checked STRStream) {c : CArray} (hc : c.length ≤ 65535)
    {rounds : Nat} {pos : Word16} (hrounds : c.length - pos.toNat < rounds) :
    ∃ r, loop decode c rounds pos = some r := by
  induction rounds generalizing pos with
  | zero => exact absurd hrounds (Nat.not_lt_zero _)
  | succ rounds ih =>
      rw [loop]
      split
      · next hlt =>
          cases hnext : nextStream c pos with
          | error e => exact ⟨_, rfl⟩
          | ok next =>
              cases next with
              | none => exact ⟨_, rfl⟩
              | some step =>
                  obtain ⟨stream, pos'⟩ := step
                  -- a stream is not empty, so that fewer bytes are left
                  obtain ⟨hless, hle⟩ := nextStream_progress hc hnext
                  dsimp only
                  cases decode stream with
                  | error e => exact ⟨_, rfl⟩
                  | ok s =>
                      have hrest : c.length - pos'.toNat < rounds := by omega
                      obtain ⟨r, hr⟩ := ih hrest
                      dsimp only
                      rw [hr]
                      exact ⟨_, rfl⟩
      · exact ⟨_, rfl⟩

theorem fromArray_ends {c : CArray} (hc : c.length ≤ 65535) : ∃ r, FromArray c r := by
  by_cases hheader : headerOk c = true
  · have hrounds : c.length - (10#16).toNat < c.length + 1 := by omega
    obtain ⟨r, hr⟩ := loop_terminates STRStream.fromArray hc hrounds
    exact ⟨r.map (·.map Image.mk), c.length + 1, by rw [fromArrayFuel, if_pos hheader, hr]; rfl⟩
  · refine ⟨.ok none, 0, ?_⟩
    rw [fromArrayFuel, if_neg hheader]

end Image

/-! ## Bodies that run past the end -/

/-- A string, the announced elements or a fixed field of a stream of the given type would go on
    behind the last byte. -/
def RunsPast (type : Word16) (c : CArray) : Prop :=
  if type = LoadControlType.stringPar then 0#8 ∉ c.drop 8
  else if type = LoadControlType.intPar then 0#8 ∉ c.drop 7
  else if type = LoadControlType.floatPar then 0#8 ∉ c.drop 6
  else if type = LoadControlType.listPar then
    c.length < 8 ∨ ∃ el, readWord c 6 = .ok el ∧ (c.drop 8).count 0#8 < 1 + el.toNat
  else if type = LoadControlType.groupObject then 0#8 ∉ c.drop 5
  else if type = LoadControlType.bcuType then c.length < 6
  else if type = LoadControlType.bcu2Init then c.length < 47
  else if type = LoadControlType.bcu1Size then c.length < 12
  else if type = LoadControlType.bcu2Size then c.length < 16
  else if type = LoadControlType.bcu2Key then c.length < 8
  else False

namespace STRStream

/-- Nothing of a stream in range is behind the end of its array. -/
theorem not_runsPast {s : STRStream} (h : s.InRange) {type : Word16}
    (htype : readWord s.array 2 = .ok type) : ¬ RunsPast type s.array := by
  have hframe : ∀ {t : Word16} {body : CArray}, readWord (frame t body) 2 = .ok type → t = type :=
    fun h => Except.ok.inj ((readWord_frame_type _ _).symm.trans h)
  cases s with
  | invalid data => exact h.elim
  | unknown s =>
      obtain rfl := hframe htype
      -- no class has a layout for this type
      simp only [InRange, LoadControlType.known, List.mem_cons, List.not_mem_nil, or_false,
        not_or] at h
      simp [RunsPast, h]
  | bcuType s =>
      obtain rfl := hframe htype
      show ¬ (frame _ s.body).length < 6
      simp [STRBCUType.body, wordBytes]
  | code s =>
      obtain rfl := hframe htype
      exact not_false
  | stringParameter s =>
      obtain rfl := hframe htype
      show ¬ 0#8 ∉ (frame _ s.body).drop 8
      simp [STRStringParameter.body, wordBytes]
  | intParameter s =>
      obtain rfl := hframe htype
      show ¬ 0#8 ∉ (frame _ s.body).drop 7
      simp [STRIntParameter.body, wordBytes]
  | floatParameter s =>
      obtain rfl := hframe htype
      show ¬ 0#8 ∉ (frame _ s.body).drop 6
      simp [STRFloatParameter.body, wordBytes]
  | listParameter s =>
      obtain rfl := hframe htype
      rintro (hshort | ⟨el, hel, hcount⟩)
      · have hbody := s.length_body
        rw [array, length_frame] at hshort
        omega
      · have hword := Except.ok.inj ((s.readWord_frame_count _).symm.trans hel)
        rw [array, s.drop_frame_body, count_terminated, List.length_cons, ← hword,
          BitVec.toNat_ofNat] at hcount
        have hmod := Nat.mod_le s.elements.length (2 ^ 16)
        omega
  | groupObject s =>
      obtain rfl := hframe htype
      show ¬ 0#8 ∉ (frame _ s.body).drop 5
      simp [STRGroupObject.body]
  | bcu1Size s =>
      obtain rfl := hframe htype
      show ¬ (frame _ s.body).length < 12
      simp [STRBCU1Size.body, STRBCU1Size.words, wordBytes]
  | bcu2Size s =>
      obtain rfl := hframe htype
      show ¬ (frame _ s.body).length < 16
      simp [STRBCU2Size.body, STRBCU2Size.words, wordBytes]
  | bcu2Start s =>
      obtain rfl := hframe htype
      show ¬ (frame _ s.body).length < 47
      simp [STRBCU2Start.body, STRBCU2Start.words, wordBytes]
  | bcu2Key s =>
      obtain rfl := hframe htype
      show ¬ (frame _ s.body).length < 8
      rw [length_frame, STRBCU2Key.length_body]
      omega

/-- What the assertions of `fromArray` ask for. -/
def Framed (c : CArray) : Prop :=
  4 ≤ c.length ∧ ∃ len, readWord c 0 = .ok len ∧ len.toNat + 2 = c.length

theorem fromArray_of_not_framed {c : CArray} (h : ¬ Framed c) :
    fromArray c = .error .assertion := by
  by_cases hlong : 4 ≤ c.length
  · obtain ⟨len, hlen⟩ : (readWord c 0).Returns :=
      wordField.read_returns (show 0 + 2 ≤ c.length by omega)
    have hmatch : len.toNat + 2 ≠ c.length := fun hmatch => h ⟨hlong, len, hlen, hmatch⟩
    rw [fromArray, check_of hlong, Checked.ok_bind, hlen, Checked.ok_bind, check_of_not hmatch]
    rfl
  · rw [fromArray, check_of_not hlong]
    rfl

/-- `fromArray` stops at its assertions or returns, that is, `init` stays inside of the array; and
    what runs past the end is refused. -/
def Safe (c : CArray) : Prop :=
  fromArray c = .error .assertion ∨
    ∃ s type, fromArray c = .ok s ∧ readWord c 2 = .ok type ∧ (RunsPast type c → s = invalid c)

/-- A list stream that announces more elements than strings are behind its name. -/
def OverrunsList (c : CArray) : Prop :=
  Framed c ∧ readWord c 2 = .ok LoadControlType.listPar ∧ STRListParameter.Overruns c

theorem fromArray_of_overrunsList {c : CArray} (h : OverrunsList c) :
    fromArray c = .error .outOfBounds := by
  obtain ⟨⟨hlong, len, hlen, hmatch⟩, htype, hover⟩ := h
  obtain ⟨type, body, rfl, hbody⟩ := exists_frame hlong hlen hmatch
  obtain rfl := Except.ok.inj ((readWord_frame_type _ _).symm.trans htype)
  exact fromArray_overrun hbody hover

/-- Only a list with too large a count is read past its end. -/
theorem fromArray_safe_iff (c : CArray) : Safe c ↔ ¬ OverrunsList c := by
  constructor
  · intro hsafe hover
    have herror := fromArray_of_overrunsList hover
    obtain hassert | ⟨s, type, hs, -⟩ := hsafe
    · rw [herror] at hassert
      cases hassert
    · rw [herror] at hs
      cases hs
  · intro hover
    by_cases hframed : Framed c
    swap
    · -- an assertion stops it before the body is looked at
      exact .inl (fromArray_of_not_framed hframed)
    obtain ⟨hlong, len, hlen, hmatch⟩ := id hframed
    obtain ⟨type, body, rfl, hbody⟩ := exists_frame hlong hlen hmatch
    have htype := readWord_frame_type type body
    have hlist : type = LoadControlType.listPar →
        ¬ STRListParameter.Overruns (frame type body) :=
      fun h hov => hover ⟨hframed, h ▸ htype, hov⟩
    obtain ⟨o, ho, hs⟩ := initOf_answers type hlist
    cases o with
    | none =>
        refine .inr ⟨invalid (frame type body), type, ?_, htype, fun _ => rfl⟩
        rw [fromArray_frame type hbody, ho]
        rfl
    | some s =>
        obtain ⟨hrange, harray⟩ := hs s rfl
        refine .inr ⟨s, type, ?_, htype, ?_⟩
        · rw [fromArray_frame type hbody, ho]
          rfl
        · -- what is accepted is the array of a stream in range
          intro hpast
          rw [← harray] at hpast htype
          exact absurd hpast (not_runsPast hrange htype)

/-- Two elements are announced, and one string is behind the name. -/
theorem not_fromArray_safe : ¬ ∀ c, Safe c := by
  intro h
  have herror : fromArray [0x00#8, 0x0a#8, 0x01#8, 0xf7#8, 0x01#8, 0x16#8, 0x00#8, 0x02#8, 0x61#8,
      0x00#8, 0x62#8, 0x00#8] = .error .outOfBounds := by decide
  obtain hassert | ⟨s, type, hs, -⟩ := h _
  · rw [herror] at hassert
    cases hassert
  · rw [herror] at hs
    cases hs

end STRStream

end BcuSdk.Common
