/-
  BcuSdk.Lib.CString

  NUL-terminated strings in a byte array.

  A `CString` holds no NUL, so that writing it out with one behind it and
  scanning for the first NUL are inverse to each other.  `terminated` is a
  table of such strings; every byte list that ends with a NUL is one.
-/
import BcuSdk.Lib.Checked

namespace BcuSdk.Lib

/-- A string without its terminating NUL. -/
abbrev CString := { bs : List Byte // 0#8 ∉ bs }

/-- `while (*d) d++;`: the bytes in front of the first NUL. -/
def cstring : List Byte → Checked CString
  | [] => .error .outOfBounds
  | b :: bs =>
      if h : b = 0#8 then .ok ⟨[], List.not_mem_nil⟩
      else do
        let s ← cstring bs
        return ⟨b :: s.1, by
          intro hmem
          cases hmem with
          | head => exact h rfl
          | tail _ hmem => exact s.2 hmem⟩

/-- A string that is written out is found again, whatever follows it. -/
theorem cstring_append (s : CString) (rest : List Byte) :
    cstring (s.1 ++ 0#8 :: rest) = .ok s := by
  obtain ⟨bs, hs⟩ := s
  induction bs with
  | nil => rfl
  | cons b bs ih =>
      have hb : b ≠ 0#8 := fun hb => hs (hb ▸ List.mem_cons_self)
      have hbs : 0#8 ∉ bs := fun hmem => hs (List.mem_cons_of_mem _ hmem)
      have hread : cstring (bs ++ 0#8 :: rest) = .ok ⟨bs, hbs⟩ := ih hbs
      show cstring (b :: (bs ++ 0#8 :: rest)) = _
      rw [cstring, dif_neg hb, hread]
      rfl

/-- A list with a NUL begins with a string. -/
theorem exists_cstring {bs : List Byte} (h : 0#8 ∈ bs) :
    ∃ (s : CString) (rest : List Byte), bs = s.1 ++ 0#8 :: rest := by
  induction bs with
  | nil => exact absurd h List.not_mem_nil
  | cons b bs ih =>
      by_cases hb : b = 0#8
      · exact ⟨⟨[], List.not_mem_nil⟩, bs, by rw [hb]; rfl⟩
      · have hbs : 0#8 ∈ bs := by
          cases h with
          | head => exact absurd rfl hb
          | tail _ hmem => exact hmem
        obtain ⟨s, rest, hrest⟩ := ih hbs
        have hs : 0#8 ∉ b :: s.1 := by
          intro hmem
          cases hmem with
          | head => exact hb rfl
          | tail _ hmem => exact s.2 hmem
        exact ⟨⟨b :: s.1, hs⟩, rest, by rw [hrest]; rfl⟩

/-! ## Tables of strings -/

/-- Each string with its NUL, one after the other. -/
def terminated (strings : List CString) : List Byte := strings.flatMap fun s => s.1 ++ [0#8]

@[simp] theorem terminated_nil : terminated [] = [] := rfl

@[simp] theorem terminated_cons (s : CString) (strings : List CString) :
    terminated (s :: strings) = s.1 ++ 0#8 :: terminated strings := by
  simp [terminated]

@[simp] theorem terminated_append (as bs : List CString) :
    terminated (as ++ bs) = terminated as ++ terminated bs := by
  simp [terminated]

/-- A table has as many NULs as strings. -/
theorem count_terminated (strings : List CString) :
    (terminated strings).count 0#8 = strings.length := by
  induction strings with
  | nil => rfl
  | cons s strings ih =>
      rw [terminated_cons, List.count_append, List.count_cons_self, ih,
        List.count_eq_zero_of_not_mem s.2, List.length_cons]
      omega

/-- A table that is not empty ends with a NUL. -/
theorem getLast?_terminated {strings : List CString} (h : strings ≠ []) :
    (terminated strings).getLast? = some 0#8 := by
  obtain hnil | ⟨front, s, hconcat⟩ := List.eq_nil_or_concat strings
  · exact absurd hnil h
  · rw [hconcat, List.concat_eq_append, terminated_append]
    simp [terminated]

@[simp] theorem terminated_eq_nil {strings : List CString} :
    terminated strings = [] ↔ strings = [] := by
  cases strings with
  | nil => simp
  | cons s strings => simp

theorem length_terminated_pos {strings : List CString} (h : strings ≠ []) :
    0 < (terminated strings).length :=
  List.length_pos_iff.mpr (mt terminated_eq_nil.mp h)

/-- What ends with a NUL is a table of strings. -/
theorem exists_terminated {bs : List Byte} (h : bs = [] ∨ bs.getLast? = some 0#8) :
    ∃ strings, bs = terminated strings := by
  induction hn : bs.length using Nat.strongRecOn generalizing bs with
  | ind n ih =>
      obtain rfl | hlast := h
      · exact ⟨[], rfl⟩
      · have hmem : 0#8 ∈ bs := List.mem_of_getLast? hlast
        obtain ⟨s, rest, rfl⟩ := exists_cstring hmem
        have hrest : rest = [] ∨ rest.getLast? = some 0#8 := by
          cases rest with
          | nil => exact .inl rfl
          | cons b rest =>
              rw [List.getLast?_append, List.getLast?_cons_cons] at hlast
              simpa using hlast
        obtain ⟨strings, hstrings⟩ := ih rest.length
          (by rw [← hn, List.length_append, List.length_cons]; omega) hrest rfl
        exact ⟨s :: strings, by rw [terminated_cons, ← hstrings]⟩

end BcuSdk.Lib
