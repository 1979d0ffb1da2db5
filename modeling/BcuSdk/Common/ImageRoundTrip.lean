/-
  BcuSdk.Common.ImageRoundTrip

  Decoding and encoding of images.

  One round of the loop of `Image::fromArray` takes one stream off the array.
  An image that is accepted is therefore the streams of its array one behind
  the other, and `toArray` puts the same bytes together again.  The way back
  fails where the last stream has nothing behind its type: the loop wants to
  see a fifth byte.
-/
import BcuSdk.Common.StreamRoundTrip

namespace BcuSdk.Common

open BcuSdk.Lib

namespace Image

/-! ## One round of the loop -/

/-- A stream is cut off the array at `pos`, and the position moves behind it. -/
theorem nextStream_eq_some {c stream : CArray} {pos pos' : Word16} (hc : c.length < 65536)
    (h : nextStream c pos = .ok (some (stream, pos'))) :
    4 ≤ stream.length ∧ pos'.toNat = pos.toNat + stream.length ∧ pos'.toNat ≤ c.length ∧
      c.drop pos.toNat = stream ++ c.drop pos'.toNat := by
  rw [nextStream] at h
  split at h
  · cases h
  obtain ⟨len, hlen, h⟩ := Checked.bind_eq_ok.mp h
  split at h
  · cases h
  next hfit =>
    rw [not_or, Nat.not_lt, Nat.not_lt] at hfit
    obtain ⟨hle, htwo⟩ := hfit
    rw [readSlice_of_le (by omega), Checked.ok_bind] at h
    obtain ⟨rfl, rfl⟩ := Prod.mk.inj (Option.some.inj (Except.ok.inj h))
    have hpos : (pos + (2#16 + len)).toNat = pos.toNat + (len.toNat + 2) := by
      simp only [BitVec.toNat_add, BitVec.toNat_ofNat]
      omega
    have hlength : ((c.drop pos.toNat).take (len.toNat + 2)).length = len.toNat + 2 := by
      rw [List.length_take, List.length_drop]
      omega
    refine ⟨by omega, by omega, by omega, ?_⟩
    rw [hpos, ← List.drop_drop, List.take_append_drop]

/-- The round in front of a frame.  It is refused if it is the end of the array and has no body. -/
theorem nextStream_frame {c rest body : CArray} {type pos : Word16} (hc : c.length < 65536)
    (hpos : pos.toNat ≤ c.length) (hdrop : c.drop pos.toNat = frame type body ++ rest) :
    nextStream c pos =
      if body = [] ∧ rest = [] then .ok none
      else .ok (some (frame type body, pos + (2#16 + BitVec.ofNat 16 (2 + body.length)))) := by
  have hlen := congrArg List.length hdrop
  rw [List.length_drop, List.length_append, length_frame] at hlen
  by_cases hend : body = [] ∧ rest = []
  · -- the four bytes up to the end of the array do not pass `pos + 4 >= c ()`
    obtain ⟨rfl, rfl⟩ := hend
    rw [List.length_nil] at hlen
    rw [nextStream, if_pos (by omega), if_pos ⟨rfl, rfl⟩]
    rfl
  · have hmore : 0 < body.length + rest.length := by
      rcases body with _ | ⟨b, body⟩
      · rcases rest with _ | ⟨b, rest⟩
        · exact absurd ⟨rfl, rfl⟩ hend
        · simp
      · simp
    -- the length word of the frame stands at `pos`
    have hhead : readWord c pos.toNat = .ok (BitVec.ofNat 16 (2 + body.length)) := by
      have hbytes : c = c.take pos.toNat ++ wordBytes (BitVec.ofNat 16 (2 + body.length)) ++
          (wordBytes type ++ body ++ rest) := by
        conv => lhs; rw [← List.take_append_drop pos.toNat c, hdrop]
        simp [frame]
      have hread := wordField.read_pack (BitVec.ofNat 16 (2 + body.length)) (c.take pos.toNat)
        (wordBytes type ++ body ++ rest)
      rw [List.length_take, Nat.min_eq_left hpos] at hread
      rw [hbytes]
      exact hread
    have hword : (BitVec.ofNat 16 (2 + body.length)).toNat = 2 + body.length := by
      rw [BitVec.toNat_ofNat]
      omega
    rw [nextStream, if_neg (by omega), hhead, Checked.ok_bind, hword, if_neg (by omega),
      readSlice_of_le (by omega), Checked.ok_bind, hdrop,
      show 2 + body.length + 2 = (frame type body).length by rw [length_frame]; omega,
      List.take_left, if_neg hend]
    rfl

/-! ## The loop -/

/-- More rounds do not change where the loop ends. -/
theorem loop_mono {decode : CArray → Checked STRStream} {c : CArray} {rounds : Nat} {pos : Word16}
    {r : Checked (Option (List STRStream))} (h : loop decode c rounds pos = some r) (more : Nat) :
    loop decode c (rounds + more) pos = some r := by
  induction rounds generalizing pos r with
  | zero => cases h
  | succ rounds ih =>
      rw [Nat.add_right_comm, loop]
      rw [loop] at h
      split
      · next hlt =>
          rw [if_pos hlt] at h
          cases hnext : nextStream c pos with
          | error e => rw [hnext] at h; exact h
          | ok next =>
              rw [hnext] at h
              cases next with
              | none => exact h
              | some step =>
                  obtain ⟨stream, pos'⟩ := step
                  dsimp only at h ⊢
                  cases hdecode : decode stream with
                  | error e => rw [hdecode] at h; exact h
                  | ok s =>
                      rw [hdecode] at h
                      obtain ⟨r', hr', rfl⟩ := Option.map_eq_some_iff.mp h
                      dsimp only
                      rw [ih hr']
                      rfl
      · next hge =>
          rw [if_neg hge] at h
          exact h

/-- `fromArray` has one result. -/
theorem FromArray.unique {c : CArray} {r r' : Checked (Option Image)} (h : FromArray c r)
    (h' : FromArray c r') : r = r' := by
  obtain ⟨rounds, h⟩ := h
  obtain ⟨rounds', h'⟩ := h'
  rw [fromArrayFuel] at h h'
  by_cases hheader : headerOk c = true
  · rw [if_pos hheader] at h h'
    obtain ⟨a, ha, rfl⟩ := Option.map_eq_some_iff.mp h
    obtain ⟨b, hb, rfl⟩ := Option.map_eq_some_iff.mp h'
    have hsame := loop_mono ha rounds'
    rw [Nat.add_comm, loop_mono hb rounds] at hsame
    rw [Option.some.inj hsame]
  · rw [if_neg hheader] at h h'
    exact Option.some.inj (h.symm.trans h')

/-- A round that ends in an accepted image. -/
theorem loop_succ_cases {decode : CArray → Checked STRStream} {c : CArray} {rounds : Nat}
    {pos : Word16} {strs : List STRStream}
    (h : loop decode c (rounds + 1) pos = some (.ok (some strs))) :
    (c.length ≤ pos.toNat ∧ strs = []) ∨
    ∃ stream pos' s rest, nextStream c pos = .ok (some (stream, pos')) ∧
      decode stream = .ok s ∧ loop decode c rounds pos' = some (.ok (some rest)) ∧
      strs = s :: rest := by
  rw [loop] at h
  split at h
  · cases hnext : nextStream c pos with
    | error e => rw [hnext] at h; cases h
    | ok next =>
        rw [hnext] at h
        cases next with
        | none => cases h
        | some step =>
            obtain ⟨stream, pos'⟩ := step
            dsimp only at h
            cases hdecode : decode stream with
            | error e => rw [hdecode] at h; cases h
            | ok s =>
                rw [hdecode] at h
                obtain ⟨r, hr, hmap⟩ := Option.map_eq_some_iff.mp h
                -- of the rest of the loop only an accepted one is left
                rcases r with e | _ | rest
                · cases hmap
                · cases hmap
                · cases hmap
                  exact .inr ⟨stream, pos', s, rest, rfl, hdecode, hr, rfl⟩
  · next hge =>
      cases h
      exact .inl ⟨by omega, rfl⟩

/-- The streams of an accepted image fill its array from `pos` on. -/
theorem flatten_of_loop {c : CArray} (hc : c.length < 65536) {rounds : Nat} {pos : Word16}
    {strs : List STRStream}
    (h : loop STRStream.fromArray c rounds pos = some (.ok (some strs))) :
    (strs.map STRStream.array).flatten = c.drop pos.toNat := by
  induction rounds generalizing pos strs with
  | zero => cases h
  | succ rounds ih =>
      obtain ⟨hend, rfl⟩ | ⟨stream, pos', s, rest, hnext, hdecode, hloop, rfl⟩ := loop_succ_cases h
      · rw [List.drop_eq_nil_of_le hend]
        rfl
      · obtain ⟨-, -, -, hdrop⟩ := nextStream_eq_some hc hnext
        rw [List.map_cons, List.flatten_cons, ih hloop, STRStream.array_of_fromArray hdecode, hdrop]

/-! ## Re-encoding an accepted image -/

/-- The bytes of an image. -/
def array (img : Image) : CArray :=
  magic ++ wordBytes (BitVec.ofNat 16 (10 + (img.str.map STRStream.array).flatten.length)) ++
    (img.str.map STRStream.array).flatten

theorem length_array (img : Image) :
    img.array.length = 10 + (img.str.map STRStream.array).flatten.length := by
  simp [array, magic, wordBytes]
  omega

/-- An image whose size fits its size word is encoded as that array. -/
theorem toArray_eq (fresh : Nat → Byte) {img : Image} (h : img.array.length < 65536) :
    img.toArray fresh = .ok img.array := by
  have harrays : ∀ strs : List STRStream, (strs.map STRStream.array).flatten.length < 65536 →
      strs.mapM (STRStream.toArray fresh) = .ok (strs.map STRStream.array) := by
    intro strs hlen
    induction strs with
    | nil => rfl
    | cons s strs ih =>
        rw [List.map_cons, List.flatten_cons, List.length_append] at hlen
        rw [List.mapM_cons, STRStream.toArray_eq fresh (by omega), Checked.ok_bind,
          ih (by omega)]
        rfl
  rw [length_array] at h
  rw [toArray, harrays img.str (by omega)]
  rfl

/-- The header that an accepted array begins with. -/
theorem take_of_headerOk {c : CArray} (h : headerOk c = true) :
    10 ≤ c.length ∧ c.take 10 = magic ++ wordBytes (BitVec.ofNat 16 c.length) := by
  simp only [headerOk, Bool.and_eq_true, decide_eq_true_eq, beq_iff_eq] at h
  obtain ⟨⟨hlong, hmagic⟩, hsize⟩ := h
  refine ⟨hlong, ?_⟩
  rw [show (10 : Nat) = 8 + 2 from rfl, List.take_add, hmagic, hsize]

/-- Every accepted array is the one its image is encoded as. -/
theorem toArray_of_fromArray (fresh : Nat → Byte) {c : CArray} (hc : c.length ≤ 65535)
    {img : Image} (h : FromArray c (.ok (some img))) : img.toArray fresh = .ok c := by
  obtain ⟨rounds, h⟩ := h
  rw [fromArrayFuel] at h
  split at h
  · next hheader =>
      obtain ⟨hlong, htake⟩ := take_of_headerOk hheader
      obtain ⟨r, hr, hmap⟩ := Option.map_eq_some_iff.mp h
      rcases r with e | _ | strs
      · cases hmap
      · cases hmap
      · cases hmap
        -- the streams fill the array behind the header
        have hflatten := flatten_of_loop (by omega) hr
        have hlen := congrArg List.length hflatten
        rw [List.length_drop] at hlen
        have harray : array { str := strs } = c := by
          rw [array, hflatten, List.length_drop]
          show magic ++ wordBytes (BitVec.ofNat 16 (10 + (c.length - 10))) ++ c.drop 10 = c
          rw [Nat.add_sub_cancel' hlong, ← htake, List.take_append_drop]
        rw [toArray_eq fresh (by rw [harray]; omega), harray]
  · cases h

/-- An unknown type, a body that `STR_BCUType::init` refuses, and a code stream. -/
theorem toArray_of_fromArray_fallbacks :
    Image.toArray (fun _ => 0#8) { str :=
        [.unknown { type := 0x0077#16, data := [1#8] },
          .invalid [0x00#8, 0x03#8, 0x00#8, 0x64#8, 0x12#8], .code { code := [2#8, 3#8] }] } =
      .ok (magic ++ [0x00#8, 0x1a#8, 0x00#8, 0x03#8, 0x00#8, 0x77#8, 0x01#8, 0x00#8, 0x03#8, 0x00#8,
        0x64#8, 0x12#8, 0x00#8, 0x04#8, 0x00#8, 0x01#8, 0x02#8, 0x03#8]) :=
  toArray_of_fromArray _ (by decide) ⟨4, by decide⟩

/-! ## Decoding an encoded image -/

/-- The last stream has nothing behind its type. -/
def endsBare (strs : List STRStream) : Bool := strs.getLast?.any STRStream.bare

theorem endsBare_cons {s : STRStream} {strs : List STRStream} (h : ¬ (s.bare = true ∧ strs = [])) :
    endsBare (s :: strs) = endsBare strs := by
  cases strs with
  | nil =>
      have hs : s.bare = false := by simpa using h
      simp [endsBare, hs]
  | cons t strs => rfl

theorem streams_eq_nil {strs : List STRStream} (hrange : ∀ s ∈ strs, s.InRange)
    (h : (strs.map STRStream.array).flatten = []) : strs = [] := by
  cases strs with
  | nil => rfl
  | cons s strs =>
      have hlong := (STRStream.length_array (hrange s List.mem_cons_self)).1
      rw [List.map_cons, List.flatten_cons, List.append_eq_nil_iff] at h
      rw [h.1, List.length_nil] at hlong
      omega

/-- The loop takes the streams apart again, up to a bare one at the end. -/
theorem loop_streams {strs : List STRStream} {c : CArray} {pos : Word16} {rounds : Nat}
    (hc : c.length < 65536) (hpos : pos.toNat ≤ c.length)
    (hdrop : c.drop pos.toNat = (strs.map STRStream.array).flatten)
    (hrange : ∀ s ∈ strs, s.InRange) (hrounds : strs.length < rounds) :
    loop STRStream.fromArray c rounds pos =
      some (.ok (if endsBare strs then none else some strs)) := by
  induction strs generalizing pos rounds with
  | nil =>
      obtain ⟨rounds, rfl⟩ := Nat.exists_eq_add_of_lt hrounds
      have hend := congrArg List.length hdrop
      rw [List.length_drop, List.map_nil, List.flatten_nil, List.length_nil] at hend
      rw [loop, if_neg (by omega)]
      rfl
  | cons s strs ih =>
      obtain ⟨rounds, rfl⟩ : ∃ n, rounds = n + 1 := ⟨rounds - 1, by omega⟩
      rw [List.map_cons, List.flatten_cons] at hdrop
      have hlen := congrArg List.length hdrop
      rw [List.length_drop, List.length_append] at hlen
      have hs := hrange s List.mem_cons_self
      have hstrs : ∀ t ∈ strs, t.InRange := fun t ht => hrange t (List.mem_cons_of_mem s ht)
      obtain ⟨hlong, hbare⟩ := STRStream.length_array hs
      obtain ⟨type, body, harray, -⟩ := STRStream.initOf_array hs (by omega)
      have hbody : body = [] ↔ s.bare = true := by
        rw [← hbare, harray, length_frame, ← List.length_eq_zero_iff]
        omega
      rw [loop, if_pos (by omega), nextStream_frame hc hpos (harray ▸ hdrop), ← harray]
      by_cases hend : s.bare = true ∧ strs = []
      · -- a bare stream at the end is refused
        obtain ⟨hlast, rfl⟩ := hend
        rw [if_pos ⟨hbody.mpr hlast, rfl⟩]
        simp [endsBare, hlast]
      · have hmore : ¬ (body = [] ∧ (strs.map STRStream.array).flatten = []) :=
          fun h => hend ⟨hbody.mp h.1, streams_eq_nil hstrs h.2⟩
        have hnext : nextStream c pos =
            .ok (some (s.array, pos + (2#16 + BitVec.ofNat 16 (2 + body.length)))) := by
          rw [nextStream_frame hc hpos (harray ▸ hdrop), if_neg hmore, harray]
        -- what is behind the stream are the arrays of the others
        obtain ⟨-, -, hpos', hrest⟩ := nextStream_eq_some hc hnext
        have htail := List.append_cancel_left (hrest.symm.trans hdrop)
        rw [if_neg hmore]
        dsimp only
        rw [STRStream.fromArray_array hs (by omega)]
        dsimp only
        rw [ih hpos' htail hstrs (by simpa using hrounds), endsBare_cons hend]
        cases endsBare strs <;> rfl

/-- The size of an image. -/
def size (img : Image) : Nat := 10 + (img.str.map fun s => s.array.length).sum

theorem length_array_eq_size (img : Image) : img.array.length = img.size := by
  rw [length_array, size, List.length_flatten, List.map_map]
  rfl

theorem headerOk_array {img : Image} : headerOk img.array = true := by
  have hlen := img.length_array
  rw [headerOk, hlen, array]
  simp [magic, wordBytes]

/-- What decoding an encoded image comes to. -/
theorem fromArray_array {img : Image} (hrange : ∀ s ∈ img.str, s.InRange)
    (hsize : img.size ≤ 65535) :
    FromArray img.array (.ok (if endsBare img.str then none else some img)) := by
  have hlen := img.length_array_eq_size
  have hpos : (10#16).toNat ≤ img.array.length := by
    rw [length_array]
    exact Nat.le_add_right 10 _
  have hdrop : img.array.drop (10#16).toNat = (img.str.map STRStream.array).flatten := by
    rw [array, List.drop_left' (by rfl)]
  refine ⟨img.str.length + 1, ?_⟩
  rw [fromArrayFuel, if_pos headerOk_array,
    loop_streams (by omega) hpos hdrop hrange (Nat.lt_succ_self _)]
  cases endsBare img.str <;> rfl

/-- An image is decoded from what it is encoded as, unless its last stream is bare. -/
theorem fromArray_toArray_iff (fresh : Nat → Byte) {img : Image}
    (hrange : ∀ s ∈ img.str, s.InRange) (hsize : img.size ≤ 65535) :
    (∃ c, img.toArray fresh = .ok c ∧ FromArray c (.ok (some img))) ↔
      endsBare img.str = false := by
  have harray : img.toArray fresh = .ok img.array :=
    toArray_eq fresh (by rw [length_array_eq_size]; omega)
  have hdecode := fromArray_array hrange hsize
  constructor
  · rintro ⟨c, hc, himg⟩
    rw [harray] at hc
    rw [← Except.ok.inj hc] at himg
    have hsame := hdecode.unique himg
    cases hbare : endsBare img.str with
    | false => rfl
    | true =>
        rw [hbare] at hsame
        cases hsame
  · intro hbare
    rw [hbare] at hdecode
    exact ⟨img.array, harray, hdecode⟩

/-- An empty code stream in front of a list parameter. -/
theorem fromArray_toArray_iff_list :
    (∃ c, Image.toArray (fun _ => 0#8) ⟨[.code ⟨[]⟩, .listParameter
        ⟨0x0116#16, ⟨[97#8], by decide⟩, [⟨[98#8, 99#8], by decide⟩, ⟨[], by decide⟩]⟩]⟩ = .ok c ∧
      FromArray c (.ok (some ⟨[.code ⟨[]⟩, .listParameter
        ⟨0x0116#16, ⟨[97#8], by decide⟩, [⟨[98#8, 99#8], by decide⟩, ⟨[], by decide⟩]⟩]⟩))) ↔
      endsBare [.code ⟨[]⟩, .listParameter
        ⟨0x0116#16, ⟨[97#8], by decide⟩, [⟨[98#8, 99#8], by decide⟩, ⟨[], by decide⟩]⟩] = false :=
  fromArray_toArray_iff _ (by simp [STRStream.InRange]) (by decide)

/-- A code stream of length zero at the end is written and then refused. -/
theorem not_fromArray_toArray :
    ¬ ∀ (fresh : Nat → Byte) (img : Image), (∀ s ∈ img.str, s.InRange) → img.size ≤ 65535 →
      ∃ c, img.toArray fresh = .ok c ∧ FromArray c (.ok (some img)) := by
  intro h
  obtain ⟨c, hc, himg⟩ := h (fun _ => 0#8) { str := [.code { code := [] }] }
    (by simp [STRStream.InRange]) (by decide)
  have harray : c = magic ++ [0x00#8, 0x0e#8, 0x00#8, 0x02#8, 0x00#8, 0x01#8] :=
    Except.ok.inj (hc.symm.trans (by decide))
  rw [harray] at himg
  have hnone : FromArray (magic ++ [0x00#8, 0x0e#8, 0x00#8, 0x02#8, 0x00#8, 0x01#8]) (.ok none) :=
    ⟨1, by decide⟩
  cases himg.unique hnone

end Image

end BcuSdk.Common
