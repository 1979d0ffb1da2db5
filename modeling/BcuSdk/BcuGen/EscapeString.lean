/-
  BcuSdk.BcuGen.EscapeString

  Texts in a configuration file: `escapeString` (bcugen/lib/map.cpp) writes
  them, `unescapeString` (bcugen/configfile/readconfig.cpp) reads them.

  The case for a backslash in `escapeString` has no `break` and goes on into
  the case for a newline.  A text comes back with a newline behind each of its
  backslashes, so the two are inverse exactly for texts without one.
-/
import Mathlib.Data.List.Basic
import BcuSdk.Lib.Decimal

namespace BcuSdk.BcuGen

open BcuSdk.Lib

/-- `"` -/
def quote : Byte := 0x22#8

def backslash : Byte := 0x5c#8

def newline : Byte := 0x0a#8

/-! ## Writing -/

/-- One turn of the loop in `escapeString`. -/
def escapeByte (c : Byte) : List Byte :=
  if c = quote then [backslash, quote]
  -- no `break`: the text of the next case follows
  else if c = backslash then [backslash, backslash, backslash, charByte 'n']
  else if c = newline then [backslash, charByte 'n']
  else if c = 0x0d#8 then [backslash, charByte 'r']
  else if c = 0x09#8 then [backslash, charByte 't']
  else if c = 0x0c#8 then [backslash, charByte 'f']
  else [c]

/-- `escapeString`. -/
def escapeString (s : CString) : List Byte := s.1.flatMap escapeByte

/-! ## Reading -/

def isOctal (c : Byte) : Bool := charByte '0' ≤ c && c ≤ charByte '7'

def isDecimal (c : Byte) : Bool := charByte '0' ≤ c && c ≤ charByte '9'

def isLower (c : Byte) : Bool := charByte 'a' ≤ c && c ≤ charByte 'f'

def isUpper (c : Byte) : Bool := charByte 'A' ≤ c && c ≤ charByte 'F'

/-- The loop over octal digits; `no` is looked at modulo 256 only. -/
def readOctal (no : Nat) : List Byte → Checked (Nat × List Byte)
  | [] => .error .outOfBounds
  | c :: cs =>
      if isOctal c then readOctal (no * 8 + (c.toNat - 0x30)) cs else .ok (no, c :: cs)

/-- The value of a digit, which is one of the three kinds. -/
def hexDigit (c : Byte) : Nat :=
  if isDecimal c then c.toNat - 0x30
  else if isUpper c then c.toNat - 0x41 + 10
  else c.toNat - 0x61 + 10

/-- The loop over hexadecimal digits. -/
def readHex (no : Nat) : List Byte → Checked (Nat × List Byte)
  | [] => .error .outOfBounds
  | c :: cs =>
      if isDecimal c || isLower c || isUpper c then readHex (no * 16 + hexDigit c) cs
      else .ok (no, c :: cs)

theorem length_of_readOctal {no no' : Nat} {cs cs' : List Byte}
    (h : readOctal no cs = .ok (no', cs')) : cs'.length ≤ cs.length := by
  induction cs generalizing no with
  | nil => cases h
  | cons c cs ih =>
      rw [readOctal] at h
      split at h
      · have := ih h
        rw [List.length_cons]
        omega
      · cases h
        exact Nat.le_refl _

theorem length_of_readHex {no no' : Nat} {cs cs' : List Byte}
    (h : readHex no cs = .ok (no', cs')) : cs'.length ≤ cs.length := by
  induction cs generalizing no with
  | nil => cases h
  | cons c cs ih =>
      rw [readHex] at h
      split at h
      · have := ih h
        rw [List.length_cons]
        omega
      · cases h
        exact Nat.le_refl _

/-- The cases of one character behind the backslash. -/
def simpleEscape (c : Byte) : Option Byte :=
  if c = quote then some quote
  else if c = charByte 'b' then some 0x08#8
  else if c = backslash then some backslash
  else if c = charByte 'f' then some 0x0c#8
  else if c = charByte 'n' then some newline
  else if c = charByte 'r' then some 0x0d#8
  else if c = charByte 't' then some 0x09#8
  else none

/-- The loop in `unescapeString`, from `*a` to the end of the array.  What it stores through `b`
stays behind `a`, and is the result. -/
def unescape (cs : List Byte) : Checked (List Byte) :=
  match cs with
  | [] => .error .outOfBounds
  | c :: cs =>
      if c = 0#8 ∨ c = quote then .ok []
      else if c = backslash then
        match cs with
        | [] => .error .outOfBounds
        | e :: cs =>
            match simpleEscape e with
            | some v => return v :: (← unescape cs)
            | none =>
                if isOctal e then
                  match _h : readOctal (e.toNat - 0x30) cs with
                  | .ok (no, cs') => return BitVec.ofNat 8 no :: (← unescape cs')
                  | .error f => .error f
                else if e = charByte 'X' ∨ e = charByte 'x' then
                  match _h : readHex 0 cs with
                  | .ok (no, cs') => return BitVec.ofNat 8 no :: (← unescape cs')
                  | .error f => .error f
                else return c :: e :: (← unescape cs)
      else return c :: (← unescape cs)
termination_by cs.length
decreasing_by
  · simp only [List.length_cons]; omega
  · have := length_of_readOctal _h
    simp only [List.length_cons]; omega
  · have := length_of_readHex _h
    simp only [List.length_cons]; omega
  · simp only [List.length_cons]; omega
  · simp only [List.length_cons]; omega

/-- `unescapeString`: the first character is passed over, and the result ends at its first NUL. -/
def unescapeString (str : CString) : Checked CString :=
  match str.1 ++ [0#8] with
  | [] => .error .outOfBounds
  | _ :: cs => do
      let out ← unescape cs
      cstring (out ++ [0#8])

theorem unescape_quote (cs : List Byte) : unescape (quote :: cs) = .ok [] := by
  rw [unescape.eq_def]
  exact if_pos (.inr rfl)

theorem unescape_plain {c : Byte} (h0 : c ≠ 0#8) (hquote : c ≠ quote) (hbackslash : c ≠ backslash)
    (cs : List Byte) : unescape (c :: cs) = (unescape cs).map (c :: ·) := by
  have hend : ¬ (c = 0#8 ∨ c = quote) := by
    rintro (h | h)
    · exact h0 h
    · exact hquote h
  rw [unescape.eq_def]
  dsimp only
  rw [if_neg hend, if_neg hbackslash]
  cases unescape cs <;> rfl

theorem unescape_simple {e v : Byte} (h : simpleEscape e = some v) (cs : List Byte) :
    unescape (backslash :: e :: cs) = (unescape cs).map (v :: ·) := by
  rw [unescape.eq_def]
  dsimp only
  rw [if_neg (by decide), if_pos rfl]
  simp only [h]
  cases unescape cs <;> rfl

/-! ## There and back -/

/-- What becomes of a character. -/
def broken (c : Byte) : List Byte := if c = backslash then [backslash, newline] else [c]

/-- The text with a newline behind each backslash. -/
def brokenText (bs : List Byte) : List Byte := bs.flatMap broken

theorem unescape_escapeByte {c : Byte} (h0 : c ≠ 0#8) (cs : List Byte) :
    unescape (escapeByte c ++ cs) = (unescape cs).map (broken c ++ ·) := by
  -- a backslash is written as a backslash and a newline
  by_cases hbackslash : c = backslash
  · subst hbackslash
    show unescape (backslash :: backslash :: backslash :: charByte 'n' :: cs) = _
    rw [unescape_simple (by decide : simpleEscape backslash = some backslash),
      unescape_simple (by decide : simpleEscape (charByte 'n') = some newline)]
    cases unescape cs <;> rfl
  · have hkept : broken c = [c] := if_neg hbackslash
    rw [hkept, escapeByte]
    split_ifs with hquote hnewline hreturn htab hfeed
    · rw [hquote]
      exact unescape_simple (by decide) cs
    · rw [hnewline]
      exact unescape_simple (by decide) cs
    · rw [hreturn]
      exact unescape_simple (by decide) cs
    · rw [htab]
      exact unescape_simple (by decide) cs
    · rw [hfeed]
      exact unescape_simple (by decide) cs
    · exact unescape_plain h0 hquote hbackslash cs

/-- The loop reads what has been written, and stops at the quotation mark. -/
theorem unescape_flatMap {bs : List Byte} (h : 0#8 ∉ bs) (rest : List Byte) :
    unescape (bs.flatMap escapeByte ++ quote :: rest) = .ok (brokenText bs) := by
  induction bs with
  | nil => exact unescape_quote rest
  | cons c bs ih =>
      have hc : c ≠ 0#8 := fun hc => h (hc ▸ List.mem_cons_self)
      have hbs : 0#8 ∉ bs := fun hmem => h (List.mem_cons_of_mem _ hmem)
      rw [List.flatMap_cons, List.append_assoc, unescape_escapeByte hc, ih hbs]
      rfl

theorem nul_notMem_escapeByte {c : Byte} (h : c ≠ 0#8) : 0#8 ∉ escapeByte c := by
  rw [escapeByte]
  split_ifs
  all_goals try decide
  simpa using h.symm

theorem nul_notMem_quoted (s : CString) : 0#8 ∉ quote :: escapeString s ++ [quote] := by
  intro hmem
  obtain hmem | hmem := List.mem_append.mp hmem
  · cases hmem with
    | tail _ hmem =>
        obtain ⟨c, hc, hmem⟩ := List.mem_flatMap.mp hmem
        have h0 : c ≠ 0#8 := by
          rintro rfl
          exact s.2 hc
        exact nul_notMem_escapeByte h0 hmem
  · exact absurd (List.mem_singleton.mp hmem) (by decide)

/-- `'"' + escapeString (s) + '"'` -/
def quoted (s : CString) : CString := ⟨quote :: escapeString s ++ [quote], nul_notMem_quoted s⟩

theorem nul_notMem_brokenText (s : CString) : 0#8 ∉ brokenText s.1 := by
  intro hmem
  obtain ⟨c, hc, hmem⟩ := List.mem_flatMap.mp hmem
  rw [broken] at hmem
  split at hmem
  · exact absurd hmem (by decide)
  · cases List.mem_singleton.mp hmem
    exact s.2 hc

/-- What is read for a written text. -/
theorem unescapeString_quoted (s : CString) :
    unescapeString (quoted s) = .ok ⟨brokenText s.1, nul_notMem_brokenText s⟩ := by
  have hread := unescape_flatMap s.2 [0#8]
  have hcut := cstring_append ⟨brokenText s.1, nul_notMem_brokenText s⟩ []
  show (unescape (escapeString s ++ [quote] ++ [0#8]) >>= fun out => cstring (out ++ [0#8])) = _
  rw [List.append_assoc, escapeString, List.singleton_append, hread]
  exact hcut

theorem length_brokenText (bs : List Byte) :
    (brokenText bs).length = bs.length + bs.count backslash := by
  induction bs with
  | nil => rfl
  | cons c bs ih =>
      rw [brokenText, List.flatMap_cons, List.length_append, ← brokenText, ih, broken,
        List.length_cons, List.count_cons]
      split
      · next h => simp [h]; omega
      · next h => simp [h]; omega

theorem brokenText_eq_self_iff {bs : List Byte} : brokenText bs = bs ↔ backslash ∉ bs := by
  constructor
  · intro h
    have hlength := length_brokenText bs
    rw [h] at hlength
    exact List.count_eq_zero.mp (by omega)
  · intro h
    have hkept : ∀ c ∈ bs, broken c = [c] := by
      intro c hc
      apply if_neg
      rintro rfl
      exact h hc
    rw [brokenText, List.flatMap_congr hkept, List.flatMap_singleton']

/-- A text comes back exactly when it has no backslash. -/
theorem unescapeString_quoted_iff (s : CString) :
    unescapeString (quoted s) = .ok s ↔ backslash ∉ s.1 := by
  rw [unescapeString_quoted, ← brokenText_eq_self_iff]
  constructor
  · intro h
    exact congrArg Subtype.val (Except.ok.inj h)
  · intro h
    exact congrArg Except.ok (Subtype.ext h)

/-- One backslash comes back as two characters. -/
theorem backslash_broken :
    unescapeString (quoted ⟨[backslash], by decide⟩) = .ok ⟨[backslash, newline], by decide⟩ ∧
      unescapeString (quoted ⟨[backslash], by decide⟩) ≠ .ok ⟨[backslash], by decide⟩ := by
  have h := unescapeString_quoted ⟨[backslash], by decide⟩
  refine ⟨h, ?_⟩
  rw [h]
  intro heq
  exact absurd (congrArg Subtype.val (Except.ok.inj heq)) (by decide)

end BcuSdk.BcuGen
