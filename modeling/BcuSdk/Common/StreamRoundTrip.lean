/-
  BcuSdk.Common.StreamRoundTrip

  Decoding and encoding of streams.

  The bytes of a stream are its length word, its type and its body.  For each
  class, `init` gives back what `toArray` wrote, and accepts nothing else;
  `STR_Stream::fromArray` then does so for the stream of any class.
-/
import BcuSdk.Lib.PackedField
import BcuSdk.Lib.Parser
import BcuSdk.Common.Image

namespace BcuSdk.Common

open BcuSdk.Lib

/-! ## Frames -/

/-- A stream of the given type and body. -/
def frame (type : Word16) (body : CArray) : CArray :=
  wordBytes (BitVec.ofNat 16 (2 + body.length)) ++ wordBytes type ++ body

@[simp] theorem length_frame (type : Word16) (body : CArray) :
    (frame type body).length = 4 + body.length := by
  simp [frame, wordBytes]
  omega

theorem encode_eq {type : Word16} {fixed tail : CArray}
    (h : 2 + fixed.length + tail.length < 65536) :
    encode type fixed tail = .ok (frame type (fixed ++ tail)) := by
  have hlen : (BitVec.ofNat 16 (2 + fixed.length + tail.length)).toNat =
      2 + fixed.length + tail.length := by
    rw [BitVec.toNat_ofNat]
    exact Nat.mod_eq_of_lt h
  rw [encode, if_neg (by omega), frame, List.length_append, ← Nat.add_assoc]
  simp

theorem encode_frame {type : Word16} {fixed tail body : CArray} (hbody : fixed ++ tail = body)
    (h : (frame type body).length < 65536) : encode type fixed tail = .ok (frame type body) := by
  subst hbody
  rw [length_frame, List.length_append] at h
  exact encode_eq (by omega)

/-- What passes the assertions of `STR_Stream::fromArray` is a frame. -/
theorem exists_frame {c : CArray} (hlen : 4 ≤ c.length) {len : Word16}
    (hword : readWord c 0 = .ok len) (hmatch : len.toNat + 2 = c.length) :
    ∃ type body, c = frame type body ∧ 2 + body.length < 65536 := by
  rcases c with _ | ⟨b0, _ | ⟨b1, _ | ⟨b2, _ | ⟨b3, body⟩⟩⟩⟩ <;> simp at hlen
  have hlen' : len = word16 b0 b1 := (Except.ok.inj hword).symm
  rw [hlen'] at hmatch
  simp only [List.length_cons] at hmatch
  have hlt := (word16 b0 b1).isLt
  refine ⟨word16 b2 b3, body, ?_, by omega⟩
  have hwrap : BitVec.ofNat 16 (2 + body.length) = word16 b0 b1 := by
    rw [← BitVec.toNat_inj, BitVec.toNat_ofNat]
    omega
  simp [frame, wordBytes, hwrap]

@[simp] theorem readByte_frame (type : Word16) (body : CArray) (i : Nat) :
    readByte (frame type body) (i + 4) = readByte body i := by
  simp [frame, wordBytes]

@[simp] theorem readWord_frame (type : Word16) (body : CArray) (i : Nat) :
    readWord (frame type body) (i + 4) = readWord body i := by
  rw [readWord, readByte_frame, show i + 4 + 1 = i + 1 + 4 by omega, readByte_frame, readWord]

@[simp] theorem readKey_frame (type : Word16) (body : CArray) (i : Nat) :
    readKey (frame type body) (i + 4) = readKey body i := by
  rw [readKey, readByte_frame, show i + 4 + 1 = i + 1 + 4 by omega, readByte_frame,
    show i + 4 + 2 = i + 2 + 4 by omega, readByte_frame, show i + 4 + 3 = i + 3 + 4 by omega,
    readByte_frame, readKey]

@[simp] theorem drop_frame (type : Word16) (body : CArray) (i : Nat) :
    (frame type body).drop (i + 4) = body.drop i := by
  simp [frame, wordBytes]

theorem readWord_frame_type (type : Word16) (body : CArray) :
    readWord (frame type body) 2 = .ok type := by
  simp [frame, wordBytes, readWord]

theorem readSlice_frame (type : Word16) (body : CArray) :
    readSlice (frame type body) 4 body.length = .ok body := by
  rw [readSlice_of_le (by rw [length_frame])]
  simp

/-! ## Fields of a body -/

@[simp] theorem readWord_cons_zero (w : Word16) (rest : CArray) :
    readWord (hiByte w :: loByte w :: rest) 0 = .ok w := by
  simp [readWord]

@[simp] theorem readWord_cons_succ (b : Byte) (rest : CArray) (i : Nat) :
    readWord (b :: rest) (i + 1) = readWord rest i := by
  simp [readWord]

/-- A 16-bit word in two bytes. -/
def wordField : PackedField Word16 where
  size := 2
  pack := wordBytes
  read := readWord
  length_pack _ := rfl
  read_pack w pre rest := by
    have hhi : readByte (pre ++ wordBytes w ++ rest) pre.length = .ok (hiByte w) :=
      readByte_of_getElem? (by simp [wordBytes])
    have hlo : readByte (pre ++ wordBytes w ++ rest) (pre.length + 1) = .ok (loByte w) :=
      readByte_of_getElem? (by simp [wordBytes])
    rw [readWord, hhi, Checked.ok_bind, hlo, Checked.ok_bind, word16_hiByte_loByte]
    rfl
  pack_of_read := by
    intro data i w h
    obtain ⟨hi, hhi, h⟩ := Checked.bind_eq_ok.mp h
    obtain ⟨lo, hlo, h⟩ := Checked.bind_eq_ok.mp h
    cases h
    have hbytes := drop_eq_cons_of_getElem? (getElem?_of_readByte hhi)
    rw [drop_eq_cons_of_getElem? (getElem?_of_readByte hlo)] at hbytes
    have hlen := congrArg List.length hbytes
    simp only [List.length_drop, List.length_cons] at hlen
    refine ⟨by omega, ?_⟩
    rw [hbytes]
    simp [wordBytes]
  read_returns := by
    intro data i h
    rw [readWord, readByte_of_lt (by omega), Checked.ok_bind, readByte_of_lt (by omega)]
    exact ⟨_, rfl⟩

/-- A key in four bytes. -/
def keyField : PackedField Word32 where
  size := 4
  pack := keyBytes
  read := readKey
  length_pack _ := rfl
  read_pack k pre rest := by
    have h3 : readByte (pre ++ keyBytes k ++ rest) pre.length = .ok (byteOf k 3) :=
      readByte_of_getElem? (by simp [keyBytes])
    have h2 : readByte (pre ++ keyBytes k ++ rest) (pre.length + 1) = .ok (byteOf k 2) :=
      readByte_of_getElem? (by simp [keyBytes])
    have h1 : readByte (pre ++ keyBytes k ++ rest) (pre.length + 2) = .ok (byteOf k 1) :=
      readByte_of_getElem? (by simp [keyBytes])
    have h0 : readByte (pre ++ keyBytes k ++ rest) (pre.length + 3) = .ok (byteOf k 0) :=
      readByte_of_getElem? (by simp [keyBytes])
    rw [readKey, h3, Checked.ok_bind, h2, Checked.ok_bind, h1, Checked.ok_bind, h0,
      Checked.ok_bind, word32_byteOf]
    rfl
  pack_of_read := by
    intro data i k h
    obtain ⟨b3, h3, h⟩ := Checked.bind_eq_ok.mp h
    obtain ⟨b2, h2, h⟩ := Checked.bind_eq_ok.mp h
    obtain ⟨b1, h1, h⟩ := Checked.bind_eq_ok.mp h
    obtain ⟨b0, h0, h⟩ := Checked.bind_eq_ok.mp h
    cases h
    have hbytes := drop_eq_cons_of_getElem? (getElem?_of_readByte h3)
    have hbytes2 : data.drop (i + 1) = b2 :: data.drop (i + 2) :=
      drop_eq_cons_of_getElem? (getElem?_of_readByte h2)
    have hbytes1 : data.drop (i + 2) = b1 :: data.drop (i + 3) :=
      drop_eq_cons_of_getElem? (getElem?_of_readByte h1)
    have hbytes0 : data.drop (i + 3) = b0 :: data.drop (i + 4) :=
      drop_eq_cons_of_getElem? (getElem?_of_readByte h0)
    rw [hbytes2, hbytes1, hbytes0] at hbytes
    have hlen := congrArg List.length hbytes
    simp only [List.length_drop, List.length_cons] at hlen
    refine ⟨by omega, ?_⟩
    rw [hbytes]
    simp [keyBytes, byteOf_word32]
  read_returns := by
    intro data i h
    rw [readKey, readByte_of_lt (by omega), Checked.ok_bind, readByte_of_lt (by omega),
      Checked.ok_bind, readByte_of_lt (by omega), Checked.ok_bind, readByte_of_lt (by omega)]
    exact ⟨_, rfl⟩

section Rules

variable {α : Type} {P : α → Prop} {type : Word16} {body : CArray} {i : Nat}

/-- A word inside of the body. -/
theorem answers_readWord {f : Word16 → Checked (Option α)} (hi : i + 2 ≤ body.length)
    (h : ∀ w, readWord body i = .ok w → Answers (f w) P) :
    Answers (readWord (frame type body) (i + 4) >>= f) P := by
  rw [readWord_frame]
  exact Answers.step (wordField.read_returns hi) h

/-- A byte inside of the body. -/
theorem answers_readByte {f : Byte → Checked (Option α)} (hi : i < body.length)
    (h : ∀ b, body[i]? = some b → Answers (f b) P) :
    Answers (readByte (frame type body) (i + 4) >>= f) P := by
  rw [readByte_frame]
  exact Answers.readByte hi h

/-- A word at the start of a body, and what is behind it. -/
theorem wordBytes_append_drop {w : Word16} (h : readWord body i = .ok w) :
    body.drop i = wordBytes w ++ body.drop (i + 2) := by
  obtain ⟨hle, hpack⟩ := wordField.pack_of_read h
  calc body.drop i = (body.drop i).take 2 ++ (body.drop i).drop 2 := (List.take_append_drop ..).symm
    _ = wordBytes w ++ body.drop (i + 2) := by
        rw [List.drop_drop]
        exact congrArg (· ++ body.drop (i + 2)) hpack

end Rules

/-! ## Names -/

theorem readName_frame (type : Word16) (pre : CArray) (name : CString) :
    readName (frame type (pre ++ (name.1 ++ [0#8]))) (pre.length + 4) = .ok (some name) := by
  have hlen : (frame type (pre ++ (name.1 ++ [0#8]))).length =
      pre.length + name.1.length + 1 + 4 := by
    simp only [length_frame, List.length_append, List.length_singleton]
    omega
  have hlast : readByte (frame type (pre ++ (name.1 ++ [0#8])))
      (pre.length + name.1.length + 4) = .ok 0#8 := by
    rw [readByte_frame]
    apply readByte_of_getElem?
    simp
  have hend : pre.length + name.1.length + 1 + 4 - 1 = pre.length + name.1.length + 4 := by omega
  have hsame : pre.length + 4 + name.1.length = pre.length + name.1.length + 4 := by omega
  rw [readName, hlen, hend, hlast, Checked.ok_bind, if_neg (not_not.mpr rfl), drop_frame,
    List.drop_left, cstring_append, Checked.ok_bind, if_neg (not_not.mpr hsame)]
  rfl

theorem readName_answers (type : Word16) {body : CArray} {i : Nat} (h : i < body.length) :
    Answers (readName (frame type body) (i + 4)) fun name =>
      body.drop i = name.1 ++ [0#8] := by
  have hend : (frame type body).length - 1 = body.length - 1 + 4 := by
    rw [length_frame]
    omega
  rw [readName, hend]
  apply answers_readByte (by omega)
  intro last hlast
  apply Answers.guard
  intro hzero
  rw [not_not.mp hzero] at hlast
  -- the last byte is a NUL, so the scan for one comes to an end
  have hmem : 0#8 ∈ body.drop i := by
    have hsplit : body.drop (body.length - 1) = (body.drop i).drop (body.length - 1 - i) := by
      rw [List.drop_drop]
      congr 1
      omega
    rw [drop_eq_cons_of_getElem? hlast] at hsplit
    exact List.mem_of_mem_drop (hsplit ▸ List.mem_cons_self)
  obtain ⟨name, rest, hname⟩ := exists_cstring hmem
  rw [drop_frame, hname, cstring_append, Checked.ok_bind]
  apply Answers.guard
  intro hmatch
  apply Answers.accept
  -- the first NUL is the last byte
  have hlen := congrArg List.length hname
  simp only [List.length_drop, List.length_append, List.length_cons] at hlen
  have hrest : rest = [] := List.eq_nil_of_length_eq_zero (by omega)
  rw [hrest]

/-! ## Streams without strings -/

namespace STRUnknown

theorem init_frame (type : Word16) (body : CArray) :
    init (frame type body) = .ok (some { type, data := body }) := by
  rw [init, length_frame, Nat.add_sub_cancel_left, readSlice_frame, Checked.ok_bind,
    readWord_frame_type]
  rfl

end STRUnknown

namespace STRCode

theorem init_frame (type : Word16) (body : CArray) :
    init (frame type body) = .ok (some { code := body }) := by
  rw [init, length_frame, Nat.add_sub_cancel_left, readSlice_frame]
  rfl

end STRCode

namespace STRBCUType

def body (s : STRBCUType) : CArray := wordBytes s.bcutype

theorem init_body (type : Word16) (s : STRBCUType) :
    init (frame type s.body) = .ok (some s) := by
  have hlen : s.body.length = 2 := rfl
  simp [init, hlen]
  simp [body, wordBytes]

theorem init_answers (type : Word16) (body : CArray) :
    Answers (init (frame type body)) fun s => body = s.body := by
  rw [init, length_frame]
  apply Answers.guard
  intro hlen
  apply answers_readWord (by omega)
  intro bcutype h0
  apply Answers.accept
  have hsplit := wordBytes_append_drop h0
  rwa [List.drop_zero, List.drop_eq_nil_of_le (by omega), List.append_nil] at hsplit

end STRBCUType

/-- Words that are read from the start of a body on are its first bytes. -/
theorem take_eq_flatMap_wordBytes {body : CArray} (ws : List Word16)
    (h : ∀ (i : Nat) (hi : i < ws.length), readWord body (2 * i) = .ok ws[i]) :
    body.take (2 * ws.length) = ws.flatMap wordBytes := by
  have htake : (body.drop 0).take (2 * ws.length) = ws.flatMap wordBytes :=
    wordField.flatMap_of_reads fun i hi => by
      rw [Nat.zero_add]
      exact h i hi
  rwa [List.drop_zero] at htake

/-- A body that consists of words is their bytes. -/
theorem eq_flatMap_wordBytes {body : CArray} {ws : List Word16} (hlen : body.length = 2 * ws.length)
    (h : ∀ (i : Nat) (hi : i < ws.length), readWord body (2 * i) = .ok ws[i]) :
    body = ws.flatMap wordBytes := by
  rw [← take_eq_flatMap_wordBytes ws h, ← hlen, List.take_length]

namespace STRBCU1Size

def body (s : STRBCU1Size) : CArray := s.words.flatMap wordBytes

theorem init_body (type : Word16) (s : STRBCU1Size) :
    init (frame type s.body) = .ok (some s) := by
  have hlen : s.body.length = 8 := rfl
  simp [init, hlen]
  simp [body, words, wordBytes]

theorem init_answers (type : Word16) (body : CArray) :
    Answers (init (frame type body)) fun s => body = s.body := by
  rw [init, length_frame]
  apply Answers.guard
  intro hlen
  iterate 4
    apply answers_readWord (by omega)
    intro _ _
  apply Answers.accept
  apply eq_flatMap_wordBytes (by show body.length = 2 * 4; omega)
  intro i hi
  have hi4 : i < 4 := hi
  interval_cases i <;> assumption

end STRBCU1Size

namespace STRBCU2Size

def body (s : STRBCU2Size) : CArray := s.words.flatMap wordBytes

theorem init_body (type : Word16) (s : STRBCU2Size) :
    init (frame type s.body) = .ok (some s) := by
  have hlen : s.body.length = 12 := rfl
  simp [init, hlen]
  simp [body, words, wordBytes]

theorem init_answers (type : Word16) (body : CArray) :
    Answers (init (frame type body)) fun s => body = s.body := by
  rw [init, length_frame]
  apply Answers.guard
  intro hlen
  iterate 6
    apply answers_readWord (by omega)
    intro _ _
  apply Answers.accept
  apply eq_flatMap_wordBytes (by show body.length = 2 * 6; omega)
  intro i hi
  have hi6 : i < 6 := hi
  interval_cases i <;> assumption

end STRBCU2Size

namespace STRBCU2Start

def body (s : STRBCU2Start) : CArray := s.words.flatMap wordBytes ++ [s.pollSlot]

theorem init_body (type : Word16) (s : STRBCU2Start) :
    init (frame type s.body) = .ok (some s) := by
  have hlen : s.body.length = 43 := rfl
  simp [init, hlen]
  simp [body, words, wordBytes]

/-- The 21 words and the byte behind them. -/
theorem eq_body_of_reads {body : CArray} {s : STRBCU2Start} (hlen : body.length = 43)
    (h : ∀ (i : Nat) (hi : i < s.words.length), readWord body (2 * i) = .ok s.words[i])
    (hslot : body[42]? = some s.pollSlot) : body = s.body := by
  have hwords : body.take 42 = s.words.flatMap wordBytes := take_eq_flatMap_wordBytes s.words h
  have hlast : body.drop 42 = [s.pollSlot] := by
    rw [drop_eq_cons_of_getElem? hslot, List.drop_eq_nil_of_le (by omega)]
  calc body = body.take 42 ++ body.drop 42 := (List.take_append_drop 42 body).symm
    _ = s.body := by rw [hwords, hlast, STRBCU2Start.body]

theorem init_answers (type : Word16) (body : CArray) :
    Answers (init (frame type body)) fun s => body = s.body := by
  rw [init, length_frame]
  apply Answers.guard
  intro hlen
  iterate 21
    apply answers_readWord (by omega)
    intro _ _
  apply answers_readByte (by omega)
  intro pollSlot hslot
  apply Answers.accept
  refine eq_body_of_reads (by omega) ?_ hslot
  intro i hi
  have hi21 : i < 21 := hi
  interval_cases i <;> assumption

end STRBCU2Start

namespace STRBCU2Key

def body (s : STRBCU2Key) : CArray := keyBytes s.installkey ++ s.keys.flatMap keyBytes

theorem length_body (s : STRBCU2Key) : s.body.length = 4 * s.keys.length + 4 := by
  have hkeys : (s.keys.flatMap keyBytes).length = 4 * s.keys.length :=
    keyField.length_flatMap_pack s.keys
  rw [body, List.length_append, hkeys, Nat.add_comm]
  rfl

theorem init_body (type : Word16) (s : STRBCU2Key) :
    init (frame type s.body) = .ok (some s) := by
  have hcount : (4 + s.body.length) / 4 - 2 = s.keys.length := by
    rw [length_body]
    omega
  have hinstall : readKey (frame type s.body) 4 = .ok s.installkey := by
    have hread := keyField.read_pack s.installkey [] (s.keys.flatMap keyBytes)
    rw [← Nat.zero_add 4, readKey_frame]
    exact hread
  have hkeys : (List.range s.keys.length).mapM (fun i => readKey (frame type s.body) (8 + 4 * i)) =
      .ok s.keys := by
    apply mapM_range_eq_ok
    intro i hi
    have hread := keyField.read_flatMap s.keys (keyBytes s.installkey) [] i hi
    rw [List.append_nil] at hread
    rw [show 8 + 4 * i = 4 + 4 * i + 4 by omega, readKey_frame]
    exact hread
  rw [init, length_frame, if_neg (by rw [length_body]; omega), if_neg (by rw [length_body]; omega),
    hinstall, Checked.ok_bind, hcount, hkeys]
  rfl

theorem init_answers (type : Word16) (body : CArray) :
    Answers (init (frame type body)) fun s => body = s.body := by
  rw [init, length_frame]
  apply Answers.guard
  intro hfour
  apply Answers.guard
  intro hlong
  apply Answers.step
  · rw [← Nat.zero_add 4, readKey_frame]
    exact keyField.read_returns (by show 0 + 4 ≤ _; omega)
  intro installkey h0
  rw [← Nat.zero_add 4, readKey_frame] at h0
  apply Answers.step
  · apply Checked.returns_mapM
    intro i hi
    rw [List.mem_range] at hi
    rw [show 8 + 4 * i = 4 + 4 * i + 4 by omega, readKey_frame]
    exact keyField.read_returns (by show 4 + 4 * i + 4 ≤ _; omega)
  intro keys hkeys
  obtain ⟨hlen, hread⟩ := mapM_range_getElem hkeys
  apply Answers.accept
  -- the installation key, and the others behind it
  have hfirst : (body.drop 0).take 4 = keyBytes installkey := (keyField.pack_of_read h0).2
  have hrest : (body.drop 4).take (4 * keys.length) = keys.flatMap keyBytes := by
    apply keyField.flatMap_of_reads
    intro i hi
    have hkey := hread i hi
    rw [show 8 + 4 * i = 4 + 4 * i + 4 by omega, readKey_frame] at hkey
    exact hkey
  rw [List.drop_zero] at hfirst
  rw [List.take_of_length_le (by rw [List.length_drop]; omega)] at hrest
  calc body = body.take 4 ++ body.drop 4 := (List.take_append_drop 4 body).symm
    _ = STRBCU2Key.body { installkey, keys } := by rw [hfirst, hrest, STRBCU2Key.body]

end STRBCU2Key

/-! ## Streams with a name -/

namespace STRStringParameter

def body (s : STRStringParameter) : CArray :=
  wordBytes s.addr ++ wordBytes s.length ++ (s.name.1 ++ [0#8])

theorem init_body (type : Word16) (s : STRStringParameter) :
    init (frame type s.body) = .ok (some s) := by
  have hlen : s.body.length = 5 + s.name.1.length := by
    simp [body, wordBytes]
    omega
  have haddr : readWord (frame type s.body) 4 = .ok s.addr := by
    simp [body, wordBytes]
  have hlength : readWord (frame type s.body) 6 = .ok s.length := by
    simp [body, wordBytes]
  have hname := readName_frame type (wordBytes s.addr ++ wordBytes s.length) s.name
  rw [init, length_frame, if_neg (by omega), haddr, Checked.ok_bind, hlength, Checked.ok_bind]
  exact congrArg (· >>= _) hname

theorem init_answers (type : Word16) (body : CArray) :
    Answers (init (frame type body)) fun s => body = s.body := by
  rw [init, length_frame]
  apply Answers.guard
  intro hlong
  apply answers_readWord (by omega)
  intro addr haddr
  apply answers_readWord (by omega)
  intro length hlength
  apply Answers.call (readName_answers type (by omega)) (by rfl)
  intro name hname
  apply Answers.accept
  rw [STRStringParameter.body, ← hname, List.append_assoc, ← wordBytes_append_drop hlength,
    ← wordBytes_append_drop haddr, List.drop_zero]

end STRStringParameter

namespace STRIntParameter

def body (s : STRIntParameter) : CArray := wordBytes s.addr ++ [s.type] ++ (s.name.1 ++ [0#8])

theorem init_body (type : Word16) (s : STRIntParameter) :
    init (frame type s.body) = .ok (some s) := by
  have hlen : s.body.length = 4 + s.name.1.length := by
    simp [body, wordBytes]
    omega
  have haddr : readWord (frame type s.body) 4 = .ok s.addr := by
    simp [body, wordBytes]
  have htype : readByte (frame type s.body) 6 = .ok s.type := by
    simp [body, wordBytes]
  have hname := readName_frame type (wordBytes s.addr ++ [s.type]) s.name
  rw [init, length_frame, if_neg (by omega), haddr, Checked.ok_bind, htype, Checked.ok_bind]
  exact congrArg (· >>= _) hname

theorem init_answers (type : Word16) (body : CArray) :
    Answers (init (frame type body)) fun s => body = s.body := by
  rw [init, length_frame]
  apply Answers.guard
  intro hlong
  apply answers_readWord (by omega)
  intro addr haddr
  apply answers_readByte (by omega)
  intro t htype
  apply Answers.call (readName_answers type (by omega)) (by rfl)
  intro name hname
  apply Answers.accept
  rw [STRIntParameter.body, ← hname, List.append_assoc, List.singleton_append,
    ← drop_eq_cons_of_getElem? htype, ← wordBytes_append_drop haddr, List.drop_zero]

end STRIntParameter

namespace STRFloatParameter

def body (s : STRFloatParameter) : CArray := wordBytes s.addr ++ (s.name.1 ++ [0#8])

theorem init_body (type : Word16) (s : STRFloatParameter) :
    init (frame type s.body) = .ok (some s) := by
  have hlen : s.body.length = 3 + s.name.1.length := by
    simp [body, wordBytes]
    omega
  have haddr : readWord (frame type s.body) 4 = .ok s.addr := by
    simp [body, wordBytes]
  have hname := readName_frame type (wordBytes s.addr) s.name
  rw [init, length_frame, if_neg (by omega), haddr, Checked.ok_bind]
  exact congrArg (· >>= _) hname

theorem init_answers (type : Word16) (body : CArray) :
    Answers (init (frame type body)) fun s => body = s.body := by
  rw [init, length_frame]
  apply Answers.guard
  intro hlong
  apply answers_readWord (by omega)
  intro addr haddr
  apply Answers.call (readName_answers type (by omega)) (by rfl)
  intro name hname
  apply Answers.accept
  rw [STRFloatParameter.body, ← hname, ← wordBytes_append_drop haddr, List.drop_zero]

end STRFloatParameter

namespace STRGroupObject

def body (s : STRGroupObject) : CArray := [s.no] ++ (s.name.1 ++ [0#8])

theorem init_body (type : Word16) (s : STRGroupObject) :
    init (frame type s.body) = .ok (some s) := by
  have hlen : s.body.length = 2 + s.name.1.length := by
    simp [body]
    omega
  have hno : readByte (frame type s.body) 4 = .ok s.no := by
    simp [body]
  have hname := readName_frame type [s.no] s.name
  rw [init, length_frame, if_neg (by omega), hno, Checked.ok_bind]
  exact congrArg (· >>= _) hname

theorem init_answers (type : Word16) (body : CArray) :
    Answers (init (frame type body)) fun s => body = s.body := by
  rw [init, length_frame]
  apply Answers.guard
  intro hlong
  apply answers_readByte (by omega)
  intro no hno
  apply Answers.call (readName_answers type (by omega)) (by rfl)
  intro name hname
  apply Answers.accept
  rw [STRGroupObject.body, ← hname, List.singleton_append, ← drop_eq_cons_of_getElem? hno,
    List.drop_zero]

end STRGroupObject

/-! ## Lists -/

namespace STRListParameter

def body (s : STRListParameter) : CArray :=
  wordBytes s.addr ++ wordBytes (BitVec.ofNat 16 s.elements.length) ++
    terminated (s.name :: s.elements)

/-- Behind the first string of a table are the others. -/
theorem drop_table {c : CArray} {s : CString} {strings : List CString} {d : Nat}
    (htable : c.drop d = terminated (s :: strings)) :
    c.drop (d + s.1.length + 1) = terminated strings := by
  rw [terminated_cons] at htable
  rw [Nat.add_assoc, ← List.drop_drop, htable, ← List.drop_drop, List.drop_left, List.drop_one,
    List.tail_cons]

/-- The first string of a table ends inside of the array. -/
theorem lt_of_table {c : CArray} {s : CString} {strings : List CString} {d : Nat}
    (htable : c.drop d = terminated (s :: strings)) : d + s.1.length < c.length := by
  have hlen := congrArg List.length htable
  rw [terminated_cons] at hlen
  simp only [List.length_drop, List.length_append, List.length_cons] at hlen
  omega

/-- One round of the loop over the elements takes the first string off a table. -/
theorem readElements_table {c : CArray} {s : CString} {strings : List CString} {d : Nat}
    (htable : c.drop d = terminated (s :: strings)) (el : Nat) :
    readElements c (el + 1) d = do
      let some (elements, d') ← readElements c el (d + s.1.length + 1) | return none
      return some (s :: elements, d') := by
  have hlt := lt_of_table htable
  rw [terminated_cons] at htable
  rw [readElements, htable, cstring_append, Checked.ok_bind, if_neg (by omega)]
  exact (if_neg (by omega)).trans rfl

/-- Reading `el` elements from a table that holds at least so many. -/
theorem readElements_take {c : CArray} {strings : List CString} {el d : Nat}
    (htable : c.drop d = terminated strings) (hel : el ≤ strings.length) :
    readElements c el d =
      .ok (some (strings.take el, d + (terminated (strings.take el)).length)) := by
  induction el generalizing d strings with
  | zero => rfl
  | succ el ih =>
      cases strings with
      | nil => simp at hel
      | cons s strings =>
          rw [readElements_table htable, ih (drop_table htable) (by simpa using hel)]
          simp only [Checked.ok_bind, Checked.pure_eq_ok, List.take_succ_cons, terminated_cons,
            List.length_append, List.length_cons]
          congr 3
          omega

/-- A count that exceeds the table leads past its end. -/
theorem readElements_overrun {c : CArray} {strings : List CString} {el d : Nat}
    (htable : c.drop d = terminated strings) (hel : strings.length < el) :
    readElements c el d = .error .outOfBounds := by
  induction el generalizing d strings with
  | zero => simp at hel
  | succ el ih =>
      cases strings with
      | nil =>
          rw [readElements, htable]
          rfl
      | cons s strings =>
          rw [readElements_table htable, ih (drop_table htable) (by simpa using hel)]
          rfl

/-- Without a NUL at the end the array is refused. -/
theorem init_unterminated {data : CArray} (hlong : 9 ≤ data.length) {b : Byte}
    (hlast : data[data.length - 1]? = some b) (hb : b ≠ 0#8) : init data = .ok none := by
  rw [init, if_neg (by omega)]
  obtain ⟨addr, haddr⟩ := wordField.read_returns (show 4 + 2 ≤ data.length by omega)
  obtain ⟨el, hel⟩ := wordField.read_returns (show 6 + 2 ≤ data.length by omega)
  rw [show readWord data 4 = .ok addr from haddr, Checked.ok_bind,
    show readWord data 6 = .ok el from hel, Checked.ok_bind, readByte_of_getElem? hlast,
    Checked.ok_bind, if_pos hb]
  rfl

section Table

variable {c : CArray} {addr el : Word16} {name : CString} {rest : List CString}

/-- What is left of `init` when the array is a table of strings behind its head. -/
theorem init_table (hlong : 9 ≤ c.length) (haddr : readWord c 4 = .ok addr)
    (hel : readWord c 6 = .ok el) (htable : c.drop 8 = terminated (name :: rest)) :
    init c = if rest = [] then .ok none else do
      let some (elements, d) ← readElements c el.toNat (8 + name.1.length + 1) | return none
      if d ≠ c.length then return none
      return some { addr, name, elements } := by
  rw [terminated_cons] at htable
  have hlen := congrArg List.length htable
  simp only [List.length_drop, List.length_append, List.length_cons] at hlen
  -- the last byte is the end of the last string
  have hlast : readByte c (c.length - 1) = .ok 0#8 := by
    apply readByte_of_getElem?
    have hend := getLast?_terminated (List.cons_ne_nil name rest)
    rw [terminated_cons, ← htable, List.getLast?_eq_getElem?, List.getElem?_drop,
      List.length_drop] at hend
    rwa [show c.length - 1 = 8 + (c.length - 8 - 1) by omega]
  rw [init, if_neg (by omega), haddr, Checked.ok_bind, hel, Checked.ok_bind, hlast,
    Checked.ok_bind, if_neg (not_not.mpr rfl), htable, cstring_append, Checked.ok_bind,
    if_neg (by omega)]
  by_cases hnil : rest = []
  · subst hnil
    rw [terminated_nil, List.length_nil] at hlen
    rw [if_pos rfl, if_pos (by omega)]
    rfl
  · have hpos := length_terminated_pos hnil
    rw [if_neg hnil]
    exact (if_neg (by omega)).trans rfl

/-- The whole table is read if the count is the number of its elements. -/
theorem init_table_eq (hlong : 9 ≤ c.length) (haddr : readWord c 4 = .ok addr)
    (hel : readWord c 6 = .ok el) (htable : c.drop 8 = terminated (name :: rest))
    (hnil : rest ≠ []) (hcount : el.toNat = rest.length) :
    init c = .ok (some { addr, name, elements := rest }) := by
  have hrest := drop_table htable
  have hlen := congrArg List.length hrest
  rw [List.length_drop] at hlen
  have hpos := length_terminated_pos hnil
  rw [init_table hlong haddr hel htable, if_neg hnil,
    readElements_take hrest (by omega), hcount, List.take_length, Checked.ok_bind]
  dsimp only
  rw [if_neg (by omega)]
  rfl

/-- The table is refused if the count is smaller. -/
theorem init_table_lt (hlong : 9 ≤ c.length) (haddr : readWord c 4 = .ok addr)
    (hel : readWord c 6 = .ok el) (htable : c.drop 8 = terminated (name :: rest))
    (hcount : el.toNat < rest.length) : init c = .ok none := by
  have hrest := drop_table htable
  have hlen := congrArg List.length hrest
  -- the strings that are left over keep the position from the end
  have hsplit : terminated rest =
      terminated (rest.take el.toNat) ++ terminated (rest.drop el.toNat) := by
    rw [← terminated_append, List.take_append_drop]
  have hpos : 0 < (terminated (rest.drop el.toNat)).length := by
    apply length_terminated_pos
    rw [ne_eq, List.drop_eq_nil_iff]
    omega
  rw [hsplit, List.length_drop, List.length_append] at hlen
  rw [init_table hlong haddr hel htable]
  split
  · rfl
  · rw [readElements_take hrest (by omega), Checked.ok_bind]
    dsimp only
    rw [if_pos (by omega)]
    rfl

/-- The array is overrun if the count is larger. -/
theorem init_table_gt (hlong : 9 ≤ c.length) (haddr : readWord c 4 = .ok addr)
    (hel : readWord c 6 = .ok el) (htable : c.drop 8 = terminated (name :: rest))
    (hnil : rest ≠ []) (hcount : rest.length < el.toNat) : init c = .error .outOfBounds := by
  rw [init_table hlong haddr hel htable, if_neg hnil,
    readElements_overrun (drop_table htable) hcount]
  rfl

end Table

/-- An array that ends with a NUL is a table behind its head. -/
theorem exists_table {c : CArray} (hlong : 9 ≤ c.length) (hlast : c.getLast? = some 0#8) :
    ∃ name rest, c.drop 8 = terminated (name :: rest) := by
  have hdrop : (c.drop 8).getLast? = some 0#8 := by
    rw [List.getLast?_eq_getElem?, List.getElem?_drop, List.length_drop,
      show 8 + (c.length - 8 - 1) = c.length - 1 by omega, ← List.getLast?_eq_getElem?, hlast]
  obtain ⟨strings, hstrings⟩ := exists_terminated (.inr hdrop)
  cases strings with
  | nil =>
      rw [hstrings] at hdrop
      cases hdrop
  | cons name rest => exact ⟨name, rest, hstrings⟩

/-- The announced count exceeds the number of strings behind the name, and there is at least one
    of these. -/
def Overruns (c : CArray) : Prop :=
  9 ≤ c.length ∧ c.getLast? = some 0#8 ∧ ∃ el, readWord c 6 = .ok el ∧
    2 ≤ (c.drop 8).count 0#8 ∧ (c.drop 8).count 0#8 ≤ el.toNat

theorem init_overrun {c : CArray} (h : Overruns c) : init c = .error .outOfBounds := by
  obtain ⟨hlong, hlast, el, hel, htwo, hcount⟩ := h
  obtain ⟨name, rest, htable⟩ := exists_table hlong hlast
  obtain ⟨addr, haddr⟩ : (readWord c 4).Returns :=
    wordField.read_returns (show 4 + 2 ≤ c.length by omega)
  rw [htable, count_terminated, List.length_cons] at htwo hcount
  have hnil : rest ≠ [] := by
    rintro rfl
    rw [List.length_nil] at htwo
    omega
  exact init_table_gt hlong haddr hel htable hnil (by omega)

theorem drop_frame_body (type : Word16) (s : STRListParameter) :
    (frame type s.body).drop 8 = terminated (s.name :: s.elements) := by
  rw [show 8 = 4 + 4 from rfl, drop_frame]
  simp [body, wordBytes]

theorem readWord_frame_count (type : Word16) (s : STRListParameter) :
    readWord (frame type s.body) 6 = .ok (BitVec.ofNat 16 s.elements.length) := by
  simp [body, wordBytes]

theorem init_body (type : Word16) {s : STRListParameter} (hnil : s.elements ≠ [])
    (hcount : s.elements.length < 65536) : init (frame type s.body) = .ok (some s) := by
  have haddr : readWord (frame type s.body) 4 = .ok s.addr := by
    simp [body, wordBytes]
  have hlong : 9 ≤ (frame type s.body).length := by
    simp [body, wordBytes]
    omega
  refine init_table_eq hlong haddr (s.readWord_frame_count type) (s.drop_frame_body type) hnil ?_
  rw [BitVec.toNat_ofNat]
  exact Nat.mod_eq_of_lt hcount

theorem init_answers (type : Word16) {body : CArray} (h : ¬ Overruns (frame type body)) :
    Answers (init (frame type body)) fun s => body = s.body ∧ s.elements ≠ [] := by
  by_cases hlong : 9 ≤ (frame type body).length
  swap
  · rw [init, if_pos (by omega)]
    exact Answers.refuse
  rw [length_frame] at hlong
  obtain ⟨addr, haddr⟩ : (readWord body 0).Returns :=
    wordField.read_returns (show 0 + 2 ≤ body.length by omega)
  obtain ⟨el, hel⟩ : (readWord body 2).Returns :=
    wordField.read_returns (show 2 + 2 ≤ body.length by omega)
  have haddr' : readWord (frame type body) 4 = .ok addr := by
    rw [← Nat.zero_add 4, readWord_frame, haddr]
  have hel' : readWord (frame type body) 6 = .ok el := by
    rw [show 6 = 2 + 4 from rfl, readWord_frame, hel]
  by_cases hlast : (frame type body).getLast? = some 0#8
  · obtain ⟨name, rest, htable⟩ := exists_table (by rw [length_frame]; omega) hlast
    by_cases hnil : rest = []
    · rw [init_table (by rw [length_frame]; omega) haddr' hel' htable, if_pos hnil]
      exact Answers.refuse
    have hpos : 0 < rest.length := List.length_pos_iff.mpr hnil
    -- only the right count is accepted, and only a larger one leads past the end
    obtain hlt | heq | hgt := Nat.lt_trichotomy el.toNat rest.length
    · rw [init_table_lt (by rw [length_frame]; omega) haddr' hel' htable hlt]
      exact Answers.refuse
    · rw [init_table_eq (by rw [length_frame]; omega) haddr' hel' htable hnil heq]
      apply Answers.accept
      have hword : BitVec.ofNat 16 rest.length = el := by
        rw [← heq, BitVec.ofNat_toNat, BitVec.setWidth_eq]
      have hdrop : body.drop 4 = terminated (name :: rest) := by
        rw [← htable, show 8 = 4 + 4 from rfl, drop_frame]
      refine ⟨?_, hnil⟩
      rw [STRListParameter.body, hword, ← hdrop, List.append_assoc, ← wordBytes_append_drop hel,
        ← wordBytes_append_drop haddr, List.drop_zero]
    · apply absurd _ h
      refine ⟨by rw [length_frame]; omega, hlast, el, hel', ?_, ?_⟩
      · rw [htable, count_terminated, List.length_cons]
        omega
      · rw [htable, count_terminated, List.length_cons]
        omega
  · have hlt : (frame type body).length - 1 < (frame type body).length := by
      rw [length_frame]
      omega
    rw [List.getLast?_eq_getElem?, List.getElem?_eq_getElem hlt] at hlast
    rw [init_unterminated (by rw [length_frame]; omega) (List.getElem?_eq_getElem hlt)
      fun hb => hlast (congrArg some hb)]
    exact Answers.refuse

/-- The elements fill the rest of the array, as long as its positions are 16-bit words. -/
theorem putElements_eq (elements : List CString) {pre junk : CArray} {p : Word16}
    (hp : p.toNat = pre.length) (hjunk : junk.length = (terminated elements).length)
    (hlen : pre.length + junk.length < 65536) :
    putElements elements (pre ++ junk) p = pre ++ terminated elements := by
  induction elements generalizing pre junk p with
  | nil =>
      rw [terminated_nil, List.length_nil] at hjunk
      rw [putElements, List.eq_nil_of_length_eq_zero hjunk, terminated_nil]
  | cons e elements ih =>
      have hpart : (e.1 ++ [0#8]).length = e.1.length + 1 := by simp
      rw [terminated_cons, List.length_append, List.length_cons] at hjunk
      -- the position does not start again at 0
      have hnext : (p + BitVec.ofNat 16 (e.1.length + 1)).toNat =
          (pre ++ (e.1 ++ [0#8])).length := by
        rw [BitVec.toNat_add, BitVec.toNat_ofNat, List.length_append, hpart, hp]
        omega
      rw [putElements, hp, setpart_append pre junk _ rfl, ih hnext]
      · simp
      · rw [List.length_drop, hpart]
        omega
      · rw [List.length_drop, List.length_append, hpart]
        omega

theorem length_body (s : STRListParameter) :
    s.body.length = 5 + s.name.1.length + (terminated s.elements).length := by
  simp [body, wordBytes]
  omega

theorem length_elements_lt {s : STRListParameter} (hlen : 4 + s.body.length < 65538) :
    s.elements.length < 65536 := by
  have hle := List.count_le_length (a := 0#8) (l := terminated s.elements)
  rw [count_terminated] at hle
  rw [length_body] at hlen
  omega

theorem toArray_eq (fresh : Nat → Byte) {s : STRListParameter}
    (hlen : 4 + s.body.length < 65536) :
    s.toArray fresh = .ok (frame LoadControlType.listPar s.body) := by
  have hbody := s.length_body
  have hcount := length_elements_lt (Nat.lt_add_right 2 hlen)
  -- neither the length nor the positions leave their 16 bits
  have hword : (BitVec.ofNat 16 (7 + s.name.1.length + (terminated s.elements).length)).toNat =
      7 + s.name.1.length + (terminated s.elements).length := by
    rw [BitVec.toNat_ofNat]
    omega
  have hsize : 2 + (7 + s.name.1.length + (terminated s.elements).length) - 8 =
      s.name.1.length + 1 + (terminated s.elements).length := by omega
  have hstart : (BitVec.ofNat 16 (8 + s.name.1.length + 1)).toNat = 8 + s.name.1.length + 1 := by
    rw [BitVec.toNat_ofNat]
    omega
  have hsum : 7 + s.name.1.length + (terminated s.elements).length = 2 + s.body.length := by omega
  rw [toArray, check_of hcount, Checked.ok_bind]
  dsimp only
  rw [hword, if_neg (by omega), hsize, setpart_append _ _ _ (by simp [wordBytes]), putElements_eq]
  · rw [Checked.pure_eq_ok, hsum, frame, body]
    simp
  · rw [hstart]
    simp [wordBytes]
    omega
  · simp [resize]
  · simp [resize, wordBytes]
    omega

end STRListParameter

/-! ## Streams of any class -/

/-- The types that `STR_Stream::fromArray` has a class for. -/
def LoadControlType.known : List Word16 :=
  [stringPar, intPar, floatPar, listPar, groupObject, bcuType, bcu2Init, code, bcu1Size, bcu2Size,
    bcu2Key]

namespace STRStream

/-- The bytes of a stream. -/
def array : STRStream → CArray
  | invalid data => data
  | unknown s => frame s.type s.data
  | bcuType s => frame LoadControlType.bcuType s.body
  | code s => frame LoadControlType.code s.code
  | stringParameter s => frame LoadControlType.stringPar s.body
  | intParameter s => frame LoadControlType.intPar s.body
  | floatParameter s => frame LoadControlType.floatPar s.body
  | listParameter s => frame LoadControlType.listPar s.body
  | groupObject s => frame LoadControlType.groupObject s.body
  | bcu1Size s => frame LoadControlType.bcu1Size s.body
  | bcu2Size s => frame LoadControlType.bcu2Size s.body
  | bcu2Start s => frame LoadControlType.bcu2Init s.body
  | bcu2Key s => frame LoadControlType.bcu2Key s.body

/-- A defined type with field values in range. -/
def InRange : STRStream → Prop
  | invalid _ => False
  | unknown s => s.type ∉ LoadControlType.known
  | listParameter s => s.elements ≠ []
  | _ => True

/-- Nothing is behind the type of the stream. -/
def bare : STRStream → Bool
  | code s => s.code.isEmpty
  | unknown s => s.data.isEmpty
  | _ => false

/-- A stream whose array fits 16-bit positions is encoded as that array. -/
theorem toArray_eq (fresh : Nat → Byte) {s : STRStream} (h : s.array.length < 65536) :
    s.toArray fresh = .ok s.array := by
  cases s with
  | invalid data => rfl
  | unknown s => exact encode_frame (List.nil_append _) h
  | bcuType s => exact encode_frame (List.append_nil _) h
  | code s => exact encode_frame (List.nil_append _) h
  | stringParameter s => exact encode_frame (by rw [STRStringParameter.body]) h
  | intParameter s => exact encode_frame (by rw [STRIntParameter.body]) h
  | floatParameter s => exact encode_frame (by rw [STRFloatParameter.body]) h
  | listParameter s =>
      rw [array, length_frame] at h
      exact STRListParameter.toArray_eq fresh h
  | groupObject s => exact encode_frame (by rw [STRGroupObject.body]) h
  | bcu1Size s => exact encode_frame (List.append_nil _) h
  | bcu2Size s => exact encode_frame (List.append_nil _) h
  | bcu2Start s =>
      rw [toArray, STRBCU2Start.toArray]
      exact encode_frame (List.append_nil _) h
  | bcu2Key s => exact encode_frame (List.append_nil _) h

/-- The class for the type accepts a frame only as a stream that is encoded as this frame. -/
theorem initOf_answers (type : Word16) {body : CArray}
    (h : type = LoadControlType.listPar → ¬ STRListParameter.Overruns (frame type body)) :
    Answers (initOf type (frame type body)) fun s => s.InRange ∧ s.array = frame type body := by
  -- one branch for each type that has a class of its own
  rw [initOf]
  refine Answers.branch ?_ fun hstring => ?_
  · rintro rfl
    exact (STRStringParameter.init_answers _ body).map fun s hs => ⟨trivial, by rw [array, hs]⟩
  refine Answers.branch ?_ fun hint => ?_
  · rintro rfl
    exact (STRIntParameter.init_answers _ body).map fun s hs => ⟨trivial, by rw [array, hs]⟩
  refine Answers.branch ?_ fun hfloat => ?_
  · rintro rfl
    exact (STRFloatParameter.init_answers _ body).map fun s hs => ⟨trivial, by rw [array, hs]⟩
  refine Answers.branch ?_ fun hlist => ?_
  · rintro rfl
    exact (STRListParameter.init_answers _ (h rfl)).map fun s hs => ⟨hs.2, by rw [array, hs.1]⟩
  refine Answers.branch ?_ fun hgroup => ?_
  · rintro rfl
    exact (STRGroupObject.init_answers _ body).map fun s hs => ⟨trivial, by rw [array, hs]⟩
  refine Answers.branch ?_ fun htype => ?_
  · rintro rfl
    exact (STRBCUType.init_answers _ body).map fun s hs => ⟨trivial, by rw [array, hs]⟩
  refine Answers.branch ?_ fun hstart => ?_
  · rintro rfl
    exact (STRBCU2Start.init_answers _ body).map fun s hs => ⟨trivial, by rw [array, hs]⟩
  refine Answers.branch ?_ fun hcode => ?_
  · rintro rfl
    rw [STRCode.init_frame]
    exact Answers.accept ⟨trivial, rfl⟩
  refine Answers.branch ?_ fun hbcu1 => ?_
  · rintro rfl
    exact (STRBCU1Size.init_answers _ body).map fun s hs => ⟨trivial, by rw [array, hs]⟩
  refine Answers.branch ?_ fun hbcu2 => ?_
  · rintro rfl
    exact (STRBCU2Size.init_answers _ body).map fun s hs => ⟨trivial, by rw [array, hs]⟩
  refine Answers.branch ?_ fun hkey => ?_
  · rintro rfl
    exact (STRBCU2Key.init_answers _ body).map fun s hs => ⟨trivial, by rw [array, hs]⟩
  -- every other type is kept with its bytes
  rw [STRUnknown.init_frame]
  refine Answers.accept ⟨?_, rfl⟩
  simp [InRange, LoadControlType.known, *]

/-- `fromArray` on a frame. -/
theorem fromArray_frame (type : Word16) {body : CArray} (h : 2 + body.length < 65536) :
    fromArray (frame type body) = do
      let some s ← initOf type (frame type body) | return invalid (frame type body)
      return s := by
  have hlen : readWord (frame type body) 0 = .ok (BitVec.ofNat 16 (2 + body.length)) := by
    simp [frame, wordBytes]
  have hword : (BitVec.ofNat 16 (2 + body.length)).toNat + 2 = (frame type body).length := by
    rw [BitVec.toNat_ofNat, length_frame]
    omega
  rw [fromArray, check_of (by rw [length_frame]; omega), Checked.ok_bind, hlen, Checked.ok_bind,
    check_of hword, Checked.ok_bind, readWord_frame_type]
  rfl

/-- What the class for a type answers, under the constructor of the class. -/
theorem map_of_init {α : Type} {init : CArray → Checked (Option α)} {c : CArray} {a : α}
    (f : α → STRStream) (h : init c = .ok (some a)) :
    (do return (← init c).map f) = (.ok (some (f a)) : Checked (Option STRStream)) := by
  rw [h]
  rfl

/-- A stream in range is a frame, and the class for its type reads it back. -/
theorem initOf_array {s : STRStream} (h : s.InRange) (hlen : s.array.length < 65538) :
    ∃ type body, s.array = frame type body ∧ initOf type s.array = .ok (some s) := by
  cases s with
  | invalid data => exact h.elim
  -- its type is none of those that are known
  | unknown s =>
      refine ⟨s.type, s.data, rfl, ?_⟩
      simp only [InRange, LoadControlType.known, List.mem_cons, List.not_mem_nil, or_false,
        not_or] at h
      rw [array, initOf]
      simp only [h, if_false]
      exact map_of_init unknown (STRUnknown.init_frame s.type s.data)
  | bcuType s => exact ⟨_, _, rfl, map_of_init bcuType (STRBCUType.init_body _ s)⟩
  | code s => exact ⟨_, _, rfl, map_of_init code (STRCode.init_frame _ s.code)⟩
  | stringParameter s =>
      exact ⟨_, _, rfl, map_of_init stringParameter (STRStringParameter.init_body _ s)⟩
  | intParameter s => exact ⟨_, _, rfl, map_of_init intParameter (STRIntParameter.init_body _ s)⟩
  | floatParameter s =>
      exact ⟨_, _, rfl, map_of_init floatParameter (STRFloatParameter.init_body _ s)⟩
  -- the number of elements has to fit the count field
  | listParameter s =>
      rw [array, length_frame] at hlen
      have hcount := STRListParameter.length_elements_lt hlen
      exact ⟨_, _, rfl, map_of_init listParameter (STRListParameter.init_body _ h hcount)⟩
  | groupObject s => exact ⟨_, _, rfl, map_of_init groupObject (STRGroupObject.init_body _ s)⟩
  | bcu1Size s => exact ⟨_, _, rfl, map_of_init bcu1Size (STRBCU1Size.init_body _ s)⟩
  | bcu2Size s => exact ⟨_, _, rfl, map_of_init bcu2Size (STRBCU2Size.init_body _ s)⟩
  | bcu2Start s => exact ⟨_, _, rfl, map_of_init bcu2Start (STRBCU2Start.init_body _ s)⟩
  | bcu2Key s => exact ⟨_, _, rfl, map_of_init bcu2Key (STRBCU2Key.init_body _ s)⟩

/-- A stream in range has a body unless it is bare. -/
theorem length_array {s : STRStream} (h : s.InRange) :
    4 ≤ s.array.length ∧ (s.array.length = 4 ↔ s.bare = true) := by
  cases s with
  | invalid data => exact h.elim
  | unknown s => simp [array, bare]
  | bcuType s => simp [array, bare, STRBCUType.body, wordBytes]
  | code s => simp [array, bare]
  | stringParameter s => simp [array, bare, STRStringParameter.body]
  | intParameter s => simp [array, bare, STRIntParameter.body]
  | floatParameter s => simp [array, bare, STRFloatParameter.body]
  | listParameter s => simp [array, bare, STRListParameter.body]
  | groupObject s => simp [array, bare, STRGroupObject.body]
  | bcu1Size s => simp [array, bare, STRBCU1Size.body, STRBCU1Size.words, wordBytes]
  | bcu2Size s => simp [array, bare, STRBCU2Size.body, STRBCU2Size.words, wordBytes]
  | bcu2Start s => simp [array, bare, STRBCU2Start.body]
  | bcu2Key s => simp [array, bare, STRBCU2Key.length_body]

theorem fromArray_array {s : STRStream} (h : s.InRange) (hlen : s.array.length < 65538) :
    fromArray s.array = .ok s := by
  obtain ⟨type, body, harray, hinit⟩ := initOf_array h hlen
  rw [harray] at hinit hlen ⊢
  rw [length_frame] at hlen
  rw [fromArray_frame type (by omega), hinit]
  rfl

/-- An array that passes the assertions. -/
theorem exists_frame_of_returns {c : CArray} (h : (fromArray c).Returns) :
    ∃ type body, c = frame type body ∧ 2 + body.length < 65536 := by
  rw [fromArray] at h
  obtain ⟨_, hlong, h⟩ := Checked.returns_bind.mp h
  obtain ⟨len, hlen, h⟩ := Checked.returns_bind.mp h
  obtain ⟨_, hmatch, h⟩ := Checked.returns_bind.mp h
  exact exists_frame (check_eq_ok.mp hlong) hlen (check_eq_ok.mp hmatch)

/-- A list stream whose count exceeds its strings is read past its end. -/
theorem fromArray_overrun {body : CArray} (hlen : 2 + body.length < 65536)
    (h : STRListParameter.Overruns (frame LoadControlType.listPar body)) :
    fromArray (frame LoadControlType.listPar body) = .error .outOfBounds := by
  have hinit : initOf LoadControlType.listPar (frame LoadControlType.listPar body) =
      .error .outOfBounds := by
    show (do return (← STRListParameter.init _).map listParameter) = _
    rw [STRListParameter.init_overrun h]
    rfl
  rw [fromArray_frame _ hlen, hinit]
  rfl

/-- Whatever stream an array is read as, the array is that stream's. -/
theorem array_of_fromArray {c : CArray} {s : STRStream} (h : fromArray c = .ok s) :
    s.array = c := by
  obtain ⟨type, body, rfl, hlen⟩ := exists_frame_of_returns ⟨s, h⟩
  have hover : type = LoadControlType.listPar →
      ¬ STRListParameter.Overruns (frame type body) := by
    rintro rfl hover
    rw [fromArray_overrun hlen hover] at h
    cases h
  obtain ⟨o, ho, hs⟩ := initOf_answers type hover
  rw [fromArray_frame type hlen, ho] at h
  cases o with
  | none => exact Except.ok.inj h ▸ rfl
  | some s' => exact Except.ok.inj h ▸ (hs s' rfl).2

end STRStream

end BcuSdk.Common
