/-
  BcuSdk.Eibd.ClientMessage

  `ClientConnection::sendmessage` and `readmessage` (eibd/libserver/client.cpp):
  messages on a byte stream, each behind its length in two bytes.

  `readmessage` reads the body in a loop and the length with a single read, so
  that a length which arrives byte by byte costs the client its connection.
-/
import BcuSdk.Eibd.Connection
import BcuSdk.Lib.Buffer
import BcuSdk.Lib.Stream

namespace BcuSdk.Eibd

open BcuSdk.Lib

/-! ## sendmessage -/

/-- The two bytes of `head`. -/
def head (size : Nat) : CArray := [hiByte (BitVec.ofNat 16 size), loByte (BitVec.ofNat 16 size)]

/-- A message on the stream. -/
def frame (msg : CArray) : CArray := head msg.length ++ msg

/-- Messages one after the other. -/
def frames (ms : List Message) : CArray := ms.flatMap fun m => frame m.bytes

/-- The loop `lp` of `sendmessage`: `taken` is how many bytes each `pth_write_ev` takes, 0 if it
    fails; the result is what has been written when the loop is left with 0. -/
def sendBody (msg : CArray) (start : Nat) : List Nat → Option CArray
  | [] => none
  | i :: taken =>
      let part := (msg.drop start).take i
      if part = [] then none
      else if start + part.length < msg.length then
        (sendBody msg (start + part.length) taken).map (part ++ ·)
      else some part

/-- `sendmessage`; `none` is a result of -1. -/
def sendmessage (msg : CArray) (taken : List Nat) : Checked (Option CArray) := do
  check (msg.length ≥ 2)
  match taken with
  | 2 :: taken => return (sendBody msg 0 taken).map (head msg.length ++ ·)
  | _ => return none

theorem sendBody_eq {msg written : CArray} {start : Nat} {taken : List Nat}
    (h : sendBody msg start taken = some written) : written = msg.drop start := by
  induction taken generalizing start written with
  | nil => cases h
  | cons i taken ih =>
      simp only [sendBody] at h
      have hsplit : (msg.drop start).take i ++ (msg.drop start).drop i = msg.drop start :=
        List.take_append_drop ..
      split at h
      · cases h
      · split at h
        case isTrue hmore =>
          obtain ⟨rest, hrest, rfl⟩ := Option.map_eq_some_iff.mp h
          rw [ih hrest]
          rw [List.length_take, List.length_drop] at hmore ⊢
          have hi : min i (msg.length - start) = i := by omega
          rw [hi, ← List.drop_drop, List.take_append_drop]
        case isFalse hlast =>
          rw [List.length_take, List.length_drop] at hlast
          rw [← Option.some.inj h, List.take_of_length_le (by rw [List.length_drop]; omega)]

/-- What `sendmessage` has written when it returns 0 is the message as one frame. -/
theorem sendmessage_writes_frame {msg written : CArray} {taken : List Nat}
    (h : sendmessage msg taken = .ok (some written)) : written = frame msg := by
  obtain ⟨-, -, h⟩ := Checked.bind_eq_ok.mp h
  split at h
  · obtain ⟨body, hbody, rfl⟩ := Option.map_eq_some_iff.mp (Except.ok.inj h)
    rw [sendBody_eq hbody, List.drop_zero, frame]
  · cases h

/-! ## readmessage -/

/-- The branch in which `readmessage` returns -1. -/
inductive GiveUp where
  | endOfFile
  | readError
  /-- `i != 2` with one byte read. -/
  | shortHeader
  /-- `size < 2`. -/
  | lengthBelow2
  deriving DecidableEq, Repr

/-- A read that returned nothing. -/
def GiveUp.ofEnding : Ending → GiveUp
  | .endOfFile => .endOfFile
  | .error => .readError

/-- A `ClientConnection`; `buflen` is the length of `buf`. -/
structure ClientConnection where
  fd : Stream Byte
  buf : CArray := []
  size : Nat := 0

namespace ClientConnection

/-- The message a caller finds after `readmessage` has returned 0. -/
def message (c : ClientConnection) : Nat × CArray := (c.size, c.buf.take c.size)

/-- The loop `lp` of `readmessage`. -/
def readBody (c : ClientConnection) (start : Nat) (hstart : start < c.size) :
    Except GiveUp ClientConnection :=
  match c.fd.read (c.size - start) (by omega) with
  | (.part part _, fd) =>
      let c' := { c with fd, buf := setpart c.buf part start }
      if hmore : start + part.length < c.size then readBody c' (start + part.length) hmore
      else .ok c'
  | (.ended how, _) => .error (.ofEnding how)
termination_by c.size - start
decreasing_by
  have := List.length_pos_iff.mpr (by assumption : part ≠ [])
  show c.size - (start + part.length) < c.size - start
  omega

/-- `readmessage`; `fresh` is what newly allocated memory happens to hold. -/
def readmessage (fresh : Nat → Byte) (c : ClientConnection) : Except GiveUp ClientConnection :=
  match c.fd.read 2 Nat.two_pos with
  | (.part head _, fd) =>
      match head with
      -- only a read of both bytes is taken for a length
      | [head0, head1] =>
          let size := (word16 head0 head1).toNat
          if hsize : size < 2 then .error .lengthBelow2
          else
            -- the buffer grows and never shrinks
            let buf := if size > c.buf.length then resize fresh size else c.buf
            readBody { fd, buf, size } 0 (by show 0 < size; omega)
      | _ => .error .shortHeader
  | (.ended how, _) => .error (.ofEnding how)

/-- `n` calls of `readmessage`, up to the first one that returns -1: the messages, and how the
    last call ended. -/
def readmessages (fresh : Nat → Byte) :
    Nat → ClientConnection → List (Nat × CArray) × Except GiveUp ClientConnection
  | 0, c => ([], .ok c)
  | n + 1, c =>
      match c.readmessage fresh with
      | .error g => ([], .error g)
      | .ok c' =>
          let (ms, last) := readmessages fresh n c'
          (c'.message :: ms, last)

/-! ## Reading a frame -/

/-- Of the first `size` elements the first `start` are as in `body`, and the stream brings the
    others: at the end the message is there, and the stream behind it is untouched. -/
theorem readBody_eq_ok {c : ClientConnection} {start : Nat} {hstart : start < c.size}
    {body rest : CArray} (hbody : body.length = c.size) (hbuf : c.size ≤ c.buf.length)
    (hread : c.buf.take start = body.take start) (hfd : c.fd.bytes = body.drop start ++ rest) :
    ∃ c', c.readBody start hstart = .ok c' ∧ c'.message = (c.size, body) ∧
      c'.fd.bytes = rest ∧ c'.fd.ending = c.fd.ending ∧
      ∀ k, 0 < k → (c'.fd.CutAt k ↔ c.fd.CutAt (c.size - start + k)) := by
  induction hn : c.size - start using Nat.strong_induction_on generalizing c start with
  | _ n ih =>
    -- part of the body is still to come, so that a read returns something
    have hne : c.fd.bytes ≠ [] := fun h => by
      have hlen := congrArg List.length (hfd.symm.trans h)
      simp only [List.length_append, List.length_drop, List.length_nil] at hlen
      omega
    obtain ⟨part, hpart, fd, hr⟩ := Stream.read_of_ne_nil (n := c.size - start) (by omega) hne
    obtain ⟨hsplit, hle, hend⟩ := Stream.read_part hr
    have hpos := List.length_pos_iff.mpr hpart
    -- the part is the next piece of the body
    have hprefix : part = (body.drop start).take part.length := by
      have htake := congrArg (List.take part.length) (hsplit.symm.trans hfd)
      rwa [List.take_left, List.take_append_of_le_length (by rw [List.length_drop]; omega)]
        at htake
    have hfd' : fd.bytes = body.drop (start + part.length) ++ rest := by
      have hdrop := congrArg (List.drop part.length) (hsplit.symm.trans hfd)
      rwa [List.drop_left, List.drop_append_of_le_length (by rw [List.length_drop]; omega),
        List.drop_drop] at hdrop
    have hbuf' : (setpart c.buf part start).length = c.buf.length :=
      length_setpart_inside (by omega)
    have hread' : (setpart c.buf part start).take (start + part.length) =
        body.take (start + part.length) := by
      have hlen : (c.buf.take start).length = start := by rw [List.length_take]; omega
      rw [setpart, List.take_append_of_le_length (by rw [List.length_append, hlen]),
        List.take_of_length_le (by rw [List.length_append, hlen]), hread, List.take_add,
        ← hprefix]
    rw [readBody, hr]
    by_cases hmore : start + part.length < c.size
    · obtain ⟨c', hok, hmsg, hbytes, hending, hcut⟩ :=
        @ih (c.size - (start + part.length)) (by omega)
          { c with fd, buf := setpart c.buf part start } (start + part.length) hmore hbody
          (hbuf'.symm ▸ hbuf) hread' hfd' rfl
      refine ⟨c', by simp only [dif_pos hmore, hok], hmsg, hbytes, hending.trans hend, ?_⟩
      intro k hk
      rw [hcut k hk, Stream.cutAt_of_part hr (by show 0 < c.size - _ + k; omega)]
      have hsum : part.length + (c.size - (start + part.length) + k) = n + k := by omega
      rw [hsum]
    · have hall : start + part.length = c.size := by omega
      refine ⟨{ c with fd, buf := setpart c.buf part start }, by simp only [dif_neg hmore],
        ?_, ?_, hend, ?_⟩
      · rw [hall] at hread'
        show (c.size, (setpart c.buf part start).take c.size) = _
        rw [hread', List.take_of_length_le (by omega)]
      · show fd.bytes = rest
        rw [hfd', hall, List.drop_of_length_le (by omega), List.nil_append]
      · intro k hk
        rw [Stream.cutAt_of_part hr hk]
        have hsum : part.length = n := by omega
        rw [hsum]

/-- The length of a message read back from `head`. -/
theorem toNat_word16_head (m : Message) :
    (word16 (hiByte (BitVec.ofNat 16 m.bytes.length))
      (loByte (BitVec.ofNat 16 m.bytes.length))).toNat = m.bytes.length := by
  have hmax := m.max
  rw [word16_hiByte_loByte, BitVec.toNat_ofNat, Nat.mod_eq_of_lt (by omega)]

/-- A header that arrives in one piece: the message is read. -/
theorem readmessage_of_whole {c : ClientConnection} {m : Message} {rest : CArray}
    (fresh : Nat → Byte) (hfd : c.fd.bytes = frame m.bytes ++ rest) (hcut : ¬ c.fd.CutAt 1) :
    ∃ c', c.readmessage fresh = .ok c' ∧ c'.message = (m.bytes.length, m.bytes) ∧
      c'.fd.bytes = rest ∧ c'.fd.ending = c.fd.ending ∧
      ∀ k, 0 < k → (c'.fd.CutAt k ↔ c.fd.CutAt ((frame m.bytes).length + k)) := by
  have hmin := m.min
  obtain ⟨part, hpart, fd, hr⟩ := Stream.read_of_ne_nil (n := 2) (by decide)
    (s := c.fd) (by rw [hfd]; exact List.cons_ne_nil _ _)
  obtain ⟨hsplit, hle, hend⟩ := Stream.read_part hr
  -- one byte alone would be a cut inside of the header
  have hlen : part.length = 2 := by
    by_contra hne
    have hpos := List.length_pos_iff.mpr hpart
    have hone : part.length = 1 := by omega
    have hmore : fd.bytes ≠ [] := fun h => by
      have := congrArg List.length (hsplit.symm.trans hfd)
      simp [h, frame, head] at this
      omega
    exact hcut (hone ▸ Stream.cutAt_of_short hr (by omega) hmore)
  have hboth : part ++ fd.bytes = head m.bytes.length ++ (m.bytes ++ rest) := by
    rw [← hsplit, hfd, frame, List.append_assoc]
  obtain ⟨rfl, hfd'⟩ := List.append_inj hboth hlen
  have hsize := toNat_word16_head m
  let buf := if m.bytes.length > c.buf.length then resize fresh m.bytes.length else c.buf
  have hbuf : m.bytes.length ≤ buf.length := by
    show m.bytes.length ≤ List.length (if _ then _ else _)
    split
    · rw [length_resize]
    · omega
  obtain ⟨c', hok, hmsg, hbytes, hending, hcuts⟩ :=
    @readBody_eq_ok { fd, buf, size := m.bytes.length } 0 (by show 0 < m.bytes.length; omega)
      m.bytes rest rfl hbuf rfl hfd'
  refine ⟨c', ?_, hmsg, hbytes, hending.trans hend, ?_⟩
  · rw [readmessage, hr]
    simp only [head, hsize]
    rw [dif_neg (by omega)]
    exact hok
  · intro k hk
    rw [hcuts k hk, Stream.cutAt_of_part hr (by show 0 < m.bytes.length - 0 + k; omega)]
    simp only [frame, List.length_append, hlen, Nat.sub_zero, Nat.add_assoc]

/-- A header that arrives in two pieces: the connection is given up. -/
theorem readmessage_of_cut {c : ClientConnection} (fresh : Nat → Byte) (hcut : c.fd.CutAt 1) :
    c.readmessage fresh = .error .shortHeader := by
  have hne : c.fd.bytes ≠ [] := fun h => by
    have := hcut.lt_length
    simp [h] at this
  obtain ⟨part, hpart, fd, hr⟩ := Stream.read_of_ne_nil (n := 2) (by decide) hne
  have hle := Stream.length_le_of_cutAt hr hcut
  obtain ⟨b, rest, rfl⟩ := List.exists_cons_of_ne_nil hpart
  obtain rfl : rest = [] := by simpa using hle
  rw [readmessage, hr]

/-- At the end of the stream the connection is given up for the stream's reason. -/
theorem readmessage_of_nil {c : ClientConnection} (fresh : Nat → Byte) (h : c.fd.bytes = []) :
    c.readmessage fresh = .error (.ofEnding c.fd.ending) := by
  rw [readmessage, Stream.read_of_nil _ h]

/-! ## Why a connection is given up -/

theorem readBody_error {c : ClientConnection} {start : Nat} {hstart : start < c.size}
    {g : GiveUp} (h : c.readBody start hstart = .error g) : g ≠ .shortHeader := by
  induction hn : c.size - start using Nat.strong_induction_on generalizing c start with
  | _ n ih =>
    rw [readBody] at h
    split at h
    case h_1 part hpart fd hr =>
      have hpos := List.length_pos_iff.mpr hpart
      dsimp only at h
      split at h
      · exact @ih (c.size - (start + part.length)) (by omega) _ _ _ h rfl
      · cases h
    case h_2 how _ hr =>
      obtain rfl := Except.error.inj h
      cases how <;> exact GiveUp.noConfusion

/-- `readmessage` returns -1 in front of the end of the stream and of a length below 2 only if
    its first read returned a single byte. -/
theorem readmessage_error_iff {fresh : Nat → Byte} {c : ClientConnection} {g : GiveUp}
    (h : c.readmessage fresh = .error g) :
    (g = .endOfFile ∨ g = .readError ∨ g = .lengthBelow2) ↔ ¬ c.fd.StartsSingle := by
  have hreasons : (g = .endOfFile ∨ g = .readError ∨ g = .lengthBelow2) ↔ g ≠ .shortHeader := by
    cases g <;> decide
  rw [hreasons, not_iff_not]
  constructor
  · rintro rfl
    rw [readmessage] at h
    split at h
    case h_1 part hpart fd hr =>
      split at h
      · dsimp only at h
        split at h
        · cases h
        · exact absurd rfl (readBody_error h)
      -- less than two bytes were read, which is one
      case h_2 hno =>
        have hlen : part.length ≠ 2 := fun hlen => by
          obtain ⟨a, b, rfl⟩ := List.length_eq_two.mp hlen
          exact hno a b hpart rfl HEq.rfl
        obtain ⟨rest, hchunks⟩ := Stream.chunks_of_short hr hlen
        have hle := (Stream.read_part hr).2.1
        have hpos := List.length_pos_iff.mpr hpart
        obtain ⟨b, rfl⟩ := List.length_eq_one_iff.mp (show part.length = 1 by omega)
        exact ⟨b, rest, hchunks⟩
    case h_2 how _ _ =>
      cases how <;> cases h
  · rintro ⟨b, rest, hchunks⟩
    obtain ⟨⟨chunks, hne, ending⟩, buf, size⟩ := c
    obtain rfl : chunks = [b] :: rest := hchunks
    exact (Except.error.inj h).symm

/-! ## Messages in order -/

/-- The messages are read as they were sent exactly when no cut falls between the two bytes of a
    length; apart from that case a connection is given up only for the reasons there are. -/
theorem readmessages_eq_iff_headers_whole (fresh : Nat → Byte) :
    (∀ (ms : List Message) (c : ClientConnection), c.fd.bytes = frames ms →
      (c.readmessages fresh (ms.length + 1) =
          (ms.map fun m => (m.bytes.length, m.bytes), .error (.ofEnding c.fd.ending)) ↔
        ∀ i < ms.length, ¬ c.fd.CutAt ((frames (ms.take i)).length + 1))) ∧
    ∀ (c : ClientConnection) (g : GiveUp), c.readmessage fresh = .error g →
      ((g = .endOfFile ∨ g = .readError ∨ g = .lengthBelow2) ↔ ¬ c.fd.StartsSingle) := by
  refine ⟨fun ms => ?_, fun c g h => readmessage_error_iff h⟩
  induction ms with
  | nil =>
      intro c hfd
      simp [readmessages, readmessage_of_nil fresh hfd]
  | cons m ms ih =>
      intro c hfd
      have hfd' : c.fd.bytes = frame m.bytes ++ frames ms := hfd
      -- the first header decides about the first message, the others about the rest
      by_cases hcut : c.fd.CutAt 1
      · have hzero : ¬ ∀ i < (m :: ms).length,
            ¬ c.fd.CutAt ((frames ((m :: ms).take i)).length + 1) :=
          fun h => h 0 (Nat.succ_pos _) hcut
        refine iff_of_false (fun h => ?_) hzero
        simp [readmessages, readmessage_of_cut fresh hcut] at h
      · obtain ⟨c', hok, hmsg, hbytes, hending, hcuts⟩ := readmessage_of_whole fresh hfd' hcut
        have hrest := ih c' hbytes
        rw [hending] at hrest
        have hstep : c.readmessages fresh ((m :: ms).length + 1) =
            (c'.message :: (c'.readmessages fresh (ms.length + 1)).1,
              (c'.readmessages fresh (ms.length + 1)).2) := by
          rw [List.length_cons, readmessages, hok]
        rw [hstep, hmsg, List.map_cons, Prod.mk.injEq, List.cons.injEq]
        -- behind the first message the cuts are where they were
        have hshift : ∀ i, c.fd.CutAt ((frames ((m :: ms).take (i + 1))).length + 1) ↔
            c'.fd.CutAt ((frames (ms.take i)).length + 1) := by
          intro i
          rw [hcuts _ (Nat.succ_pos _), List.take_succ_cons, frames, List.flatMap_cons,
            List.length_append, Nat.add_assoc]
          rfl
        constructor
        · rintro ⟨⟨-, hfst⟩, hsnd⟩ i hi
          rcases i with _ | i
          · exact hcut
          · rw [hshift]
            exact hrest.mp (Prod.ext hfst hsnd) i (Nat.lt_of_succ_lt_succ hi)
        · intro h
          have heq := hrest.mpr fun i hi => (hshift i).not.mp (h (i + 1) (Nat.succ_lt_succ hi))
          exact ⟨⟨rfl, congrArg Prod.fst heq⟩, congrArg Prod.snd heq⟩

/-- A reset of the connection, `EIB_RESET_CONNECTION`. -/
def resetMessage : Message := ⟨[0x00#8, 0x04#8], by decide, by decide⟩

/-- The reset arrives in two pieces, the first of them with half of the length. -/
def cutInHeader : ClientConnection where
  fd :=
    { chunks := [[0x00#8], [0x02#8, 0x00#8, 0x04#8]]
      nonempty := by decide
      ending := .endOfFile }

/-- The message is on the stream and is not read. -/
theorem cutInHeader_given_up :
    cutInHeader.fd.bytes = frames [resetMessage] ∧
      cutInHeader.readmessages (fun _ => 0#8) 2 = ([], .error .shortHeader) :=
  ⟨rfl, rfl⟩

theorem readmessages_cutInHeader :
    cutInHeader.readmessages (fun _ => 0#8) 2 = ([(2, [0x00#8, 0x04#8])], .error .endOfFile) ↔
      ∀ i < 1, ¬ cutInHeader.fd.CutAt ((frames ([resetMessage].take i)).length + 1) :=
  (readmessages_eq_iff_headers_whole fun _ => 0#8).1 [resetMessage] cutInHeader rfl

end ClientConnection

end BcuSdk.Eibd
