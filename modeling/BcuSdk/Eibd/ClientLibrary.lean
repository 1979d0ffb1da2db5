/-
  BcuSdk.Eibd.ClientLibrary

  `_EIB_CheckRequest` and `_EIB_GetRequest` (eibd/client/c/io.c): the client
  library receives the replies of the daemon, each behind its length in two
  bytes.

  A check makes one read, and what is missing is left to the next one; so
  `readlen`, `size` and `buf` live across the calls.  Of the header nothing lives
  but `size`, and the second half of a header is stored at `&head + con->readlen`,
  which counts in arrays of two bytes.
-/
import BcuSdk.Eibd.ClientMessage
import BcuSdk.Lib.Run

namespace BcuSdk.Eibd

open BcuSdk.Lib

/-! ## The connection -/

/-- The members of `EIBConnection` that receive; `buflen` is the length of `buf`. -/
structure EIBConnection where
  fd : Stream Byte
  readlen : Nat := 0
  buf : CArray := []
  size : Nat

/-- What `select` finds. -/
inductive Selected where
  | ready
  | idle
  | failed
  deriving DecidableEq, Repr

/-- What a check meets besides the bytes of the daemon. -/
structure CheckInput where
  /-- The result of `select`; a check that blocks does not ask. -/
  select : Selected := .ready
  /-- The read ends with `EINTR`. -/
  interrupted : Bool := false
  /-- What the second byte of `head` happens to hold. -/
  stack : Byte := 0#8
  deriving DecidableEq, Repr

/-- Where a call returns -1. -/
inductive CheckFailure where
  | select
  | read
  /-- `ECONNRESET`: the stream is at its end, or `size < 2`. -/
  | connReset
  deriving DecidableEq, Repr

/-- A read that returned nothing. -/
def CheckFailure.ofEnding : Ending → CheckFailure
  | .endOfFile => .connReset
  | .error => .read

namespace EIBConnection

variable {fresh : Nat → Byte} {con con' : EIBConnection}

/-- `EIBSocketLocal` and `EIBSocketRemote`; `size` is not set. -/
def opened (fd : Stream Byte) (size : Nat) : EIBConnection := { fd, size }

/-- The message a caller finds after `_EIB_GetRequest` has returned 0. -/
def message (con : EIBConnection) : Nat × CArray := (con.size, con.buf.take con.size)

/-- `i` bytes are stored from index `start` on. -/
def store (data part : CArray) (start : Nat) : Checked CArray :=
  if start + part.length ≤ data.length then .ok (setpart data part start)
  else .error .outOfBounds

/-- The branch of `_EIB_CheckRequest` for the header. -/
def checkHeader (fresh : Nat → Byte) (con : EIBConnection) (stack : Byte) (part : CArray)
    (fd : Stream Byte) : Checked (Option CheckFailure × EIBConnection) := do
  -- `&head` points to the array, not to its first byte
  let head ← store [BitVec.ofNat 8 (con.size / 256), stack] part (2 * con.readlen)
  let size := (word16 (← readByte head 0) (← readByte head 1)).toNat
  let con := { con with fd, readlen := con.readlen + part.length, size }
  if size < 2 then
    return (some .connReset, con)
  else if size > con.buf.length then
    return (none, { con with buf := regrow fresh con.buf size })
  else
    return (none, con)

/-- The branch for the body. -/
def checkBody (con : EIBConnection) (part : CArray) (fd : Stream Byte) :
    Checked (Option CheckFailure × EIBConnection) := do
  let buf ← store con.buf part (con.readlen - 2)
  return (none, { con with fd, buf, readlen := con.readlen + part.length })

theorem missing_pos {readlen size : Nat} (h2 : ¬ readlen < 2) (h : readlen < size + 2) :
    0 < size - (readlen - 2) := by
  omega

/-- `_EIB_CheckRequest`; `none` is a result of 0. -/
def checkRequest (fresh : Nat → Byte) (con : EIBConnection) (block : Bool) (i : CheckInput) :
    Checked (Option CheckFailure × EIBConnection) :=
  if block = false ∧ i.select = .failed then .ok (some .select, con)
  else if block = false ∧ i.select = .idle then .ok (none, con)
  else if hhead : con.readlen < 2 then
    if i.interrupted then .ok (none, con)
    else
      match con.fd.read (2 - con.readlen) (Nat.sub_pos_of_lt hhead) with
      | (.part part _, fd) => con.checkHeader fresh i.stack part fd
      | (.ended how, fd) => .ok (some (.ofEnding how), { con with fd })
  else if hbody : con.readlen < con.size + 2 then
    if i.interrupted then .ok (none, con)
    else
      match con.fd.read (con.size - (con.readlen - 2)) (missing_pos hhead hbody) with
      | (.part part _, fd) => con.checkBody part fd
      | (.ended how, fd) => .ok (some (.ofEnding how), { con with fd })
  else .ok (none, con)

/-- A message is not complete. -/
def Incomplete (con : EIBConnection) : Prop := con.readlen < 2 ∨ con.readlen < con.size + 2

instance (con : EIBConnection) : Decidable con.Incomplete :=
  inferInstanceAs (Decidable (_ ∨ _))

/-! ### What a check leaves of the stream -/

theorem checkHeader_fd {stack : Byte} {part : CArray} {fd : Stream Byte}
    {r : Option CheckFailure} (h : con.checkHeader fresh stack part fd = .ok (r, con')) :
    con'.fd = fd := by
  obtain ⟨head, -, h⟩ := Checked.bind_eq_ok.mp h
  obtain ⟨b0, -, h⟩ := Checked.bind_eq_ok.mp h
  obtain ⟨b1, -, h⟩ := Checked.bind_eq_ok.mp h
  dsimp only at h
  split at h
  · cases h
    rfl
  · split at h
    · cases h
      rfl
    · cases h
      rfl

theorem checkBody_fd {part : CArray} {fd : Stream Byte} {r : Option CheckFailure}
    (h : con.checkBody part fd = .ok (r, con')) : con'.fd = fd := by
  obtain ⟨buf, -, h⟩ := Checked.bind_eq_ok.mp h
  cases h
  rfl

/-- A blocking check that returns 0 with the message still incomplete has taken bytes, or was
    interrupted. -/
theorem checkRequest_progress {i : CheckInput}
    (h : con.checkRequest fresh true i = .ok (none, con')) (hinc : con'.Incomplete) :
    con'.fd.bytes.length < con.fd.bytes.length ∨ i.interrupted = true ∧ con' = con := by
  -- whatever is read is gone from the socket
  have hshrink : ∀ {n : Nat} {hn : 0 < n} {part : CArray} {hp : part ≠ []} {fd : Stream Byte},
      con.fd.read n hn = (.part part hp, fd) → con'.fd = fd →
        con'.fd.bytes.length < con.fd.bytes.length := by
    rintro n hn part hp fd hr rfl
    have hpos := List.length_pos_iff.mpr hp
    rw [(Stream.read_part hr).1, List.length_append]
    omega
  rw [checkRequest, if_neg (by simp), if_neg (by simp)] at h
  split at h
  · split at h
    case isTrue hintr =>
      cases h
      exact .inr ⟨hintr, rfl⟩
    case isFalse =>
      split at h
      case h_1 hr => exact .inl (hshrink hr (checkHeader_fd h))
      case h_2 => cases h
  -- the header is there: the body
  case isFalse hhead =>
    split at h
    · split at h
      case isTrue hintr =>
        cases h
        exact .inr ⟨hintr, rfl⟩
      case isFalse =>
        split at h
        case h_1 hr => exact .inl (hshrink hr (checkBody_fd h))
        case h_2 => cases h
    case isFalse hbody =>
      cases h
      rcases hinc with hinc | hinc <;> omega

set_option linter.unusedVariables false in
/-- `_EIB_GetRequest`, with what each of its checks meets. -/
def getRequest (fresh : Nat → Byte) (con : EIBConnection) (is : List CheckInput) :
    Checked (Option CheckFailure × EIBConnection) :=
  match hcheck : con.checkRequest fresh true (is.headD {}) with
  | .error f => .error f
  | .ok (some failure, con') => .ok (some failure, con')
  | .ok (none, con') =>
      if hinc : con'.Incomplete then getRequest fresh con' is.tail
      else .ok (none, { con' with readlen := 0 })
termination_by con.fd.bytes.length + is.length
decreasing_by
  rcases checkRequest_progress hcheck hinc with hlt | ⟨hintr, rfl⟩
  · have := is.length_tail
    omega
  · rcases is with _ | ⟨i, is⟩
    · exact absurd hintr Bool.false_ne_true
    · exact Nat.add_lt_add_left (Nat.lt_succ_self _) _

/-! ### The loop of `_EIB_GetRequest`, by the result of its first check -/

section Loop

variable {is : List CheckInput}

theorem getRequest_of_error {f : Fault}
    (h : con.checkRequest fresh true (is.headD {}) = .error f) :
    con.getRequest fresh is = .error f := by
  rw [getRequest]
  split
  case h_1 hf => exact hf.symm.trans h
  case h_2 hf => exact absurd (hf.symm.trans h) nofun
  case h_3 hf => exact absurd (hf.symm.trans h) nofun

theorem getRequest_of_failure {failure : CheckFailure}
    (h : con.checkRequest fresh true (is.headD {}) = .ok (some failure, con')) :
    con.getRequest fresh is = .ok (some failure, con') := by
  rw [getRequest]
  split
  case h_1 hf => exact absurd (hf.symm.trans h) nofun
  case h_2 hf => exact hf.symm.trans h
  case h_3 hf => exact absurd (hf.symm.trans h) nofun

theorem getRequest_of_incomplete
    (h : con.checkRequest fresh true (is.headD {}) = .ok (none, con')) (hinc : con'.Incomplete) :
    con.getRequest fresh is = con'.getRequest fresh is.tail := by
  rw [getRequest]
  split
  case h_1 hf => exact absurd (hf.symm.trans h) nofun
  case h_2 hf => exact absurd (hf.symm.trans h) nofun
  case h_3 hf =>
    cases hf.symm.trans h
    rw [dif_pos hinc]

theorem getRequest_of_complete
    (h : con.checkRequest fresh true (is.headD {}) = .ok (none, con'))
    (hcomplete : ¬ con'.Incomplete) :
    con.getRequest fresh is = .ok (none, { con' with readlen := 0 }) := by
  rw [getRequest]
  split
  case h_1 hf => exact absurd (hf.symm.trans h) nofun
  case h_2 hf => exact absurd (hf.symm.trans h) nofun
  case h_3 hf =>
    cases hf.symm.trans h
    rw [dif_neg hcomplete]

end Loop

end EIBConnection

/-! ## Sequences of calls -/

/-- A call of the library. -/
inductive LibraryCall where
  | check (block : Bool) (i : CheckInput)
  | get (is : List CheckInput)
  deriving DecidableEq, Repr

/-- A connection, how often `_EIB_GetRequest` was called and the messages it delivered. -/
structure LibraryRun where
  con : EIBConnection
  asked : Nat := 0
  got : List (Nat × CArray) := []
  /-- A call has returned -1 with bytes left to read, for a reason other than `select`. -/
  refused : Bool := false
  /-- A call has stored outside of an array. -/
  broken : Bool := false

namespace LibraryRun

/-- The result of a call is noted. -/
def record (s : LibraryRun) (got : Bool) : Checked (Option CheckFailure × EIBConnection) →
    LibraryRun
  | .ok (none, con) => { s with con, got := if got then s.got ++ [con.message] else s.got }
  | .ok (some failure, con) =>
      { s with con, refused := s.refused || (failure ≠ .select && con.fd.bytes ≠ []) }
  | .error _ => { s with broken := true }

def step (fresh : Nat → Byte) (s : LibraryRun) : LibraryCall → Checked LibraryRun
  | .check block i => .ok (s.record false (s.con.checkRequest fresh block i))
  | .get is => .ok { s.record true (s.con.getRequest fresh is) with asked := s.asked + 1 }

end LibraryRun

/-! ## One check -/

/-- The check comes to its read, and is not interrupted there. -/
def CheckInput.Reads (i : CheckInput) (block : Bool) : Prop :=
  (block = true ∨ i.select = .ready) ∧ i.interrupted = false

instance (i : CheckInput) (block : Bool) : Decidable (i.Reads block) :=
  inferInstanceAs (Decidable (_ ∧ _))

theorem CheckInput.Reads.not_select {block : Bool} {i : CheckInput} (h : i.Reads block)
    {x : Selected} (hx : Selected.ready ≠ x) : ¬ (block = false ∧ i.select = x) := by
  rintro ⟨hb, hs⟩
  rcases h.1 with ht | hr
  · exact Bool.false_ne_true (hb.symm.trans ht)
  · exact hx (hr.symm.trans hs)

namespace EIBConnection

variable {fresh : Nat → Byte} {con con' : EIBConnection} {block : Bool} {i : CheckInput}

theorem checkRequest_of_not_reads (fresh : Nat → Byte) (con : EIBConnection)
    (h : ¬ i.Reads block) :
    ∃ r, con.checkRequest fresh block i = .ok (r, con) ∧
      ∀ failure ∈ r, failure = .select ∧ block = false := by
  rw [checkRequest]
  by_cases hfailed : block = false ∧ i.select = .failed
  · rw [if_pos hfailed]
    exact ⟨some .select, rfl, fun failure hf => ⟨(Option.some.inj hf).symm, hfailed.1⟩⟩
  rw [if_neg hfailed]
  by_cases hidle : block = false ∧ i.select = .idle
  · rw [if_pos hidle]
    exact ⟨none, rfl, nofun⟩
  rw [if_neg hidle]
  -- neither `select` is to blame, so that the read was interrupted
  have hintr : i.interrupted = true := by
    rcases hb : i.interrupted
    · refine absurd ⟨?_, hb⟩ h
      rcases block
      · rcases hs : i.select with _ | _ | _
        · exact .inr rfl
        · exact absurd ⟨rfl, hs⟩ hidle
        · exact absurd ⟨rfl, hs⟩ hfailed
      · exact .inl rfl
    · rfl
  refine ⟨none, ?_, nofun⟩
  split
  · rfl
  · split
    · rfl
    · rfl

theorem checkRequest_of_header (h : i.Reads block) (hhead : con.readlen < 2) :
    con.checkRequest fresh block i =
      match con.fd.read (2 - con.readlen) (Nat.sub_pos_of_lt hhead) with
      | (.part part _, fd) => con.checkHeader fresh i.stack part fd
      | (.ended how, fd) => .ok (some (.ofEnding how), { con with fd }) := by
  rw [checkRequest, if_neg (h.not_select (x := .failed) nofun),
    if_neg (h.not_select (x := .idle) nofun), dif_pos hhead,
    if_neg (by rw [h.2]; exact Bool.false_ne_true)]

theorem checkRequest_of_body (h : i.Reads block) (hhead : ¬ con.readlen < 2)
    (hbody : con.readlen < con.size + 2) :
    con.checkRequest fresh block i =
      match con.fd.read (con.size - (con.readlen - 2)) (missing_pos hhead hbody) with
      | (.part part _, fd) => con.checkBody part fd
      | (.ended how, fd) => .ok (some (.ofEnding how), { con with fd }) := by
  rw [checkRequest, if_neg (h.not_select (x := .failed) nofun),
    if_neg (h.not_select (x := .idle) nofun), dif_neg hhead, dif_pos hbody,
    if_neg (by rw [h.2]; exact Bool.false_ne_true)]

theorem checkRequest_of_complete (h : i.Reads block) (hcomplete : ¬ con.Incomplete) :
    con.checkRequest fresh block i = .ok (none, con) := by
  rw [checkRequest, if_neg (h.not_select (x := .failed) nofun),
    if_neg (h.not_select (x := .idle) nofun), dif_neg (mt .inl hcomplete),
    dif_neg (mt .inr hcomplete)]

/-! ## Where a connection stands -/

/-- What the connection holds of the first of the messages still to come. -/
inductive At (ms : List Message) (con : EIBConnection) : Prop
  | header (readlen : con.readlen = 0) (fd : con.fd.bytes = frames ms)
  | half {b : Byte} (readlen : con.readlen = 1) (size : con.size / 256 = b.toNat)
      (fd : frames ms = b :: con.fd.bytes)
  | body {m : Message} {rest : List Message} (messages : ms = m :: rest)
      (header : 2 ≤ con.readlen) (inside : con.readlen ≤ con.size + 2)
      (size : con.size = m.bytes.length) (buf : con.size ≤ con.buf.length)
      (filled : con.buf.take (con.readlen - 2) = m.bytes.take (con.readlen - 2))
      (fd : con.fd.bytes = m.bytes.drop (con.readlen - 2) ++ frames rest)

theorem At.bytes_nil (h : At [] con) : con.fd.bytes = [] := by
  cases h with
  | header _ hfd => exact hfd
  | half _ _ hfd => cases hfd
  | body messages => cases messages

theorem store_of_le {data part : CArray} {start : Nat} (h : start + part.length ≤ data.length) :
    store data part start = .ok (setpart data part start) := if_pos h

/-- A header that is read at once. -/
theorem checkHeader_of_whole {m : Message} {rest : List Message} {fd : Stream Byte}
    (fresh : Nat → Byte) (stack : Byte)
    (hreadlen : con.readlen = 0) (hfd : fd.bytes = m.bytes ++ frames rest) :
    ∃ con', con.checkHeader fresh stack (head m.bytes.length) fd = .ok (none, con') ∧
      con'.readlen = 2 ∧ At (m :: rest) con' := by
  have hmin := m.min
  have hhead : store [BitVec.ofNat 8 (con.size / 256), stack] (head m.bytes.length)
      (2 * con.readlen) = .ok (head m.bytes.length) := by
    rw [hreadlen]
    rfl
  have hsize := ClientConnection.toNat_word16_head m
  rw [checkHeader, hhead]
  simp only [Checked.ok_bind, head, readByte_cons_zero, readByte_cons_succ, hsize]
  rw [if_neg (by omega), hreadlen]
  by_cases hgrow : m.bytes.length > con.buf.length
  · rw [if_pos hgrow]
    refine ⟨_, rfl, rfl, .body rfl (Nat.le_refl 2) (Nat.le_add_left 2 _) rfl ?_ rfl hfd⟩
    rw [length_regrow]
  · rw [if_neg hgrow]
    exact ⟨_, rfl, rfl, .body rfl (Nat.le_refl 2) (Nat.le_add_left 2 _) rfl (by
      show m.bytes.length ≤ con.buf.length
      omega) rfl hfd⟩

/-- Half of a header. -/
theorem checkHeader_of_half (fresh : Nat → Byte) (b stack : Byte) (fd : Stream Byte)
    (hreadlen : con.readlen = 0) :
    ∃ r con', con.checkHeader fresh stack [b] fd = .ok (r, con') ∧ con'.readlen = 1 ∧
      con'.fd = fd := by
  have hhead : store [BitVec.ofNat 8 (con.size / 256), stack] [b] (2 * con.readlen) =
      .ok [b, stack] := by
    rw [hreadlen]
    rfl
  rw [checkHeader, hhead]
  simp only [Checked.ok_bind, readByte_cons_zero, readByte_cons_succ, hreadlen]
  split
  · exact ⟨_, _, rfl, rfl, rfl⟩
  · split
    · exact ⟨_, _, rfl, rfl, rfl⟩
    · exact ⟨_, _, rfl, rfl, rfl⟩

/-- The second half is stored behind the array. -/
theorem checkHeader_of_rest {stack : Byte} {part : CArray} {fd : Stream Byte} (hpart : part ≠ [])
    (hreadlen : con.readlen = 1) :
    con.checkHeader fresh stack part fd = .error .outOfBounds := by
  have hpos := List.length_pos_iff.mpr hpart
  rw [checkHeader, store, if_neg]
  · rfl
  · rw [hreadlen]
    simp only [List.length_cons, List.length_nil]
    omega

/-- The next part of a body. -/
theorem checkBody_of_part {m : Message} {rest : List Message} {part : CArray} {fd : Stream Byte}
    (hheader : 2 ≤ con.readlen) (hsize : con.size = m.bytes.length)
    (hbuf : con.size ≤ con.buf.length)
    (hfilled : con.buf.take (con.readlen - 2) = m.bytes.take (con.readlen - 2))
    (hfd : part ++ fd.bytes = m.bytes.drop (con.readlen - 2) ++ frames rest)
    (hlen : part.length ≤ con.size - (con.readlen - 2)) (hbody : con.readlen < con.size + 2) :
    ∃ con', con.checkBody part fd = .ok (none, con') ∧
      con'.readlen = con.readlen + part.length ∧ At (m :: rest) con' := by
  have hinside : con.readlen - 2 + part.length ≤ con.buf.length := by omega
  have hdrop : (m.bytes.drop (con.readlen - 2)).length = con.size - (con.readlen - 2) := by
    rw [List.length_drop, hsize]
  have hkeep : (con.buf.take (con.readlen - 2)).length = con.readlen - 2 := by
    rw [List.length_take]
    omega
  have hnext : con.readlen + part.length - 2 = con.readlen - 2 + part.length := by omega
  -- the part is the next piece of the message
  have hpart : part = (m.bytes.drop (con.readlen - 2)).take part.length := by
    have htake := congrArg (List.take part.length) hfd
    rwa [List.take_left, List.take_append_of_le_length (hdrop ▸ hlen)] at htake
  have hrest : fd.bytes = m.bytes.drop (con.readlen - 2 + part.length) ++ frames rest := by
    have hdrop' := congrArg (List.drop part.length) hfd
    rwa [List.drop_left, List.drop_append_of_le_length (hdrop ▸ hlen), List.drop_drop] at hdrop'
  rw [checkBody, store_of_le hinside, Checked.ok_bind]
  refine ⟨_, rfl, rfl, .body rfl (Nat.le_add_right_of_le hheader) ?_ hsize ?_ ?_ ?_⟩
  · show con.readlen + part.length ≤ con.size + 2
    omega
  · show con.size ≤ (setpart con.buf part (con.readlen - 2)).length
    rw [length_setpart_inside hinside]
    exact hbuf
  · show (setpart con.buf part (con.readlen - 2)).take (con.readlen + part.length - 2) =
      m.bytes.take (con.readlen + part.length - 2)
    rw [hnext, setpart, List.take_append_of_le_length (by rw [List.length_append, hkeep]),
      List.take_of_length_le (by rw [List.length_append, hkeep]), hfilled, List.take_add, ← hpart]
  · show fd.bytes = m.bytes.drop (con.readlen + part.length - 2) ++ frames rest
    rw [hnext, hrest]

/-- A check goes on from where the connection stands, unless the header comes in two parts. -/
theorem checkRequest_at {ms : List Message} (fresh : Nat → Byte) (h : At ms con)
    (hone : con.readlen ≠ 1)
    (hcut : i.Reads block → con.readlen = 0 → ¬ con.fd.CutAt 1) :
    ∃ r con', con.checkRequest fresh block i = .ok (r, con') ∧ At ms con' ∧ con'.readlen ≠ 1 ∧
      (con'.readlen = 0 → con.readlen = 0 ∧ con'.fd = con.fd) ∧
      ∀ failure ∈ r, failure = .select ∧ block = false ∨ ms = [] := by
  have hnone : ∀ failure ∈ (none : Option CheckFailure),
      failure = .select ∧ block = false ∨ ms = [] :=
    fun failure hf => absurd hf (Option.not_mem_none failure)
  by_cases hreads : i.Reads block
  swap
  · obtain ⟨r, hr, hselect⟩ := checkRequest_of_not_reads fresh con hreads
    exact ⟨r, con, hr, h, hone, fun h0 => ⟨h0, rfl⟩, fun f hf => .inl (hselect f hf)⟩
  cases h with
  | header readlen hfd =>
      rw [checkRequest_of_header hreads (by omega)]
      rcases ms with _ | ⟨m, rest⟩
      · -- nothing is left
        rw [Stream.read_of_nil _ hfd]
        exact ⟨_, _, rfl, .header readlen hfd, hone, fun h0 => ⟨h0, rfl⟩, fun _ _ => .inr rfl⟩
      · have hbytes : con.fd.bytes = head m.bytes.length ++ (m.bytes ++ frames rest) := by
          rw [hfd, frames, List.flatMap_cons, frame, List.append_assoc]
          rfl
        obtain ⟨part, hpart, fd, hr⟩ := Stream.read_of_ne_nil (n := 2 - con.readlen) (s := con.fd)
          (by omega) (by rw [hbytes]; exact List.cons_ne_nil _ _)
        obtain ⟨hsplit, hle, -⟩ := Stream.read_part hr
        have hpos := List.length_pos_iff.mpr hpart
        -- a single byte would be a cut inside of the header
        have hlen : part.length = 2 := by
          by_contra hne
          have hshort : part.length = 1 := by omega
          have hmore : fd.bytes ≠ [] := by
            intro hnil
            have hlength := congrArg List.length (hsplit.symm.trans hbytes)
            rw [hnil, List.append_nil, List.length_append] at hlength
            have : (head m.bytes.length).length = 2 := rfl
            omega
          exact hcut hreads readlen (hshort ▸ Stream.cutAt_of_short hr (by omega) hmore)
        obtain ⟨rfl, hrest⟩ := List.append_inj (hsplit.symm.trans hbytes) hlen
        rw [hr]
        obtain ⟨con', hok, htwo, hat⟩ := checkHeader_of_whole fresh i.stack readlen hrest
        exact ⟨none, con', hok, hat, by omega, fun h0 => by omega, hnone⟩
  | half readlen => exact absurd readlen hone
  | @body m rest messages header inside size buf filled hfd =>
      by_cases hbody : con.readlen < con.size + 2
      · rw [checkRequest_of_body hreads (by omega) hbody]
        have hne : con.fd.bytes ≠ [] := by
          intro hnil
          have hlength := congrArg List.length (hfd.symm.trans hnil)
          rw [List.length_append, List.length_drop, List.length_nil] at hlength
          omega
        obtain ⟨part, hpart, fd, hr⟩ := Stream.read_of_ne_nil
          (n := con.size - (con.readlen - 2)) (by omega) hne
        obtain ⟨hsplit, hle, -⟩ := Stream.read_part hr
        rw [hr]
        obtain ⟨con', hok, hreadlen, hat⟩ := checkBody_of_part header size buf filled
          (hsplit.symm.trans hfd) hle hbody
        exact ⟨none, con', hok, messages ▸ hat, by omega, fun h0 => by omega, hnone⟩
      · -- the message is complete already
        have hcomplete : ¬ con.Incomplete := by
          rintro (h2 | hsize)
          · omega
          · exact hbody hsize
        rw [checkRequest_of_complete hreads hcomplete]
        exact ⟨none, con, rfl, .body messages header inside size buf filled hfd, hone,
          fun h0 => ⟨h0, rfl⟩, hnone⟩

/-- `_EIB_GetRequest` delivers the next message, or finds the stream at its end. -/
theorem getRequest_at {ms : List Message} (fresh : Nat → Byte) (is : List CheckInput)
    (h : At ms con)
    (hone : con.readlen ≠ 1) (hcut : con.readlen = 0 → ¬ con.fd.CutAt 1) :
    (∃ m rest con', con.getRequest fresh is = .ok (none, con') ∧ ms = m :: rest ∧
        con'.message = (m.bytes.length, m.bytes) ∧ At rest con' ∧ con'.readlen ≠ 1) ∨
      ∃ failure con', con.getRequest fresh is = .ok (some failure, con') ∧ At ms con' ∧
        con'.readlen ≠ 1 ∧ ms = [] := by
  induction hn : con.fd.bytes.length + is.length using Nat.strong_induction_on
    generalizing con is with
  | _ n ih =>
    have hcut' : (is.headD {}).Reads true → con.readlen = 0 → ¬ con.fd.CutAt 1 := fun _ => hcut
    obtain ⟨r, con₁, hok, hat, hone₁, hheader, hfail⟩ := checkRequest_at fresh h hone hcut'
    rcases r with _ | failure
    · by_cases hinc : con₁.Incomplete
      · rw [getRequest_of_incomplete hok hinc]
        have hcut₁ : con₁.readlen = 0 → ¬ con₁.fd.CutAt 1 := by
          intro h0
          obtain ⟨h0', hfd⟩ := hheader h0
          rw [hfd]
          exact hcut h0'
        refine ih _ ?_ is.tail hat hone₁ hcut₁ rfl
        -- bytes were taken, or an interruption was met
        rcases checkRequest_progress hok hinc with hlt | ⟨hintr, rfl⟩
        · have := is.length_tail
          omega
        · rcases is with _ | ⟨i, is⟩
          · exact absurd hintr Bool.false_ne_true
          · rw [← hn]
            exact Nat.add_lt_add_left (Nat.lt_succ_self _) _
      · rw [getRequest_of_complete hok hinc]
        cases hat with
        | header readlen => exact absurd (.inl (by omega)) hinc
        | half readlen => exact absurd readlen hone₁
        | @body m rest messages header inside size buf filled hfd =>
            have hall : con₁.readlen - 2 = m.bytes.length := by
              by_contra hne
              exact hinc (.inr (by omega))
            refine .inl ⟨m, rest, _, rfl, messages, ?_, .header rfl ?_, Nat.zero_ne_one⟩
            · rw [hall, List.take_length] at filled
              show (con₁.size, con₁.buf.take con₁.size) = _
              rw [size, filled]
            · show con₁.fd.bytes = frames rest
              rw [hfd, hall, List.drop_length, List.nil_append]
    · rw [getRequest_of_failure hok]
      refine .inr ⟨failure, con₁, rfl, hat, hone₁, ?_⟩
      rcases hfail failure rfl with ⟨-, hblock⟩ | hnil
      · exact absurd hblock.symm Bool.false_ne_true
      · exact hnil

/-! ## A header in two parts -/

/-- The first half of a header is taken. -/
theorem checkRequest_of_cut (fresh : Nat → Byte) (hreads : i.Reads block)
    (hreadlen : con.readlen = 0)
    (hcut : con.fd.CutAt 1) :
    ∃ r con', con.checkRequest fresh block i = .ok (r, con') ∧ con'.readlen = 1 ∧
      con'.fd.bytes ≠ [] := by
  have hlong := hcut.lt_length
  have hne : con.fd.bytes ≠ [] := List.ne_nil_of_length_pos (by omega)
  rw [checkRequest_of_header hreads (by omega)]
  obtain ⟨part, hpart, fd, hr⟩ := Stream.read_of_ne_nil (n := 2 - con.readlen) (by omega) hne
  have hpos := List.length_pos_iff.mpr hpart
  obtain ⟨b, rfl⟩ := List.length_eq_one_iff.mp
    (show part.length = 1 by have := Stream.length_le_of_cutAt hr hcut; omega)
  rw [hr]
  obtain ⟨r, con', hok, hone, rfl⟩ := checkHeader_of_half fresh b i.stack fd hreadlen
  refine ⟨r, con', hok, hone, fun hnil => ?_⟩
  rw [(Stream.read_part hr).1, hnil] at hlong
  exact Nat.lt_irrefl _ hlong

/-- The second half is never taken. -/
theorem checkRequest_of_half (hreads : i.Reads block) (hreadlen : con.readlen = 1)
    (hne : con.fd.bytes ≠ []) : con.checkRequest fresh block i = .error .outOfBounds := by
  rw [checkRequest_of_header hreads (by omega)]
  obtain ⟨part, hpart, fd, hr⟩ := Stream.read_of_ne_nil (n := 2 - con.readlen) (by omega) hne
  rw [hr]
  exact checkHeader_of_rest hpart hreadlen

/-- An interrupted check that blocks. -/
theorem checkRequest_of_interrupted (hintr : i.interrupted = true) :
    con.checkRequest fresh true i = .ok (none, con) := by
  have hreads : ¬ i.Reads true := fun hreads => Bool.false_ne_true (hreads.2.symm.trans hintr)
  obtain ⟨r, hr, hselect⟩ := checkRequest_of_not_reads fresh con hreads
  rcases r with _ | failure
  · exact hr
  · exact absurd (hselect failure rfl).2.symm Bool.false_ne_true

theorem reads_of_not_interrupted (hintr : i.interrupted = false) : i.Reads true :=
  ⟨.inl rfl, hintr⟩

theorem getRequest_of_half (is : List CheckInput) (hreadlen : con.readlen = 1)
    (hne : con.fd.bytes ≠ []) : con.getRequest fresh is = .error .outOfBounds := by
  have hinc : con.Incomplete := .inl (by omega)
  induction is with
  | nil => exact getRequest_of_error (checkRequest_of_half ⟨.inl rfl, rfl⟩ hreadlen hne)
  | cons i is ih =>
      by_cases hintr : i.interrupted = true
      · have hcheck : con.checkRequest fresh true ((i :: is).headD {}) = .ok (none, con) :=
          checkRequest_of_interrupted hintr
        rw [getRequest_of_incomplete hcheck hinc]
        exact ih
      · exact getRequest_of_error (checkRequest_of_half
          (reads_of_not_interrupted (Bool.eq_false_iff.mpr hintr)) hreadlen hne)

/-- With the header in two parts the loop stores outside of `head`, or gives up behind its first
    half. -/
theorem getRequest_of_cut (fresh : Nat → Byte) (is : List CheckInput) (hreadlen : con.readlen = 0)
    (hcut : con.fd.CutAt 1) :
    con.getRequest fresh is = .error .outOfBounds ∨
      ∃ failure con', con.getRequest fresh is = .ok (some failure, con') ∧ con'.readlen = 1 ∧
        con'.fd.bytes ≠ [] := by
  have hinc : con.Incomplete := .inl (by omega)
  -- behind the list the calls go on without an interruption
  induction is with
  | nil =>
      have hreads : CheckInput.Reads {} true := ⟨.inl rfl, rfl⟩
      obtain ⟨r, con', hok, hone, hne⟩ := checkRequest_of_cut fresh hreads hreadlen hcut
      rcases r with _ | failure
      · rw [getRequest_of_incomplete hok (.inl (by omega))]
        exact .inl (getRequest_of_half _ hone hne)
      · exact .inr ⟨failure, con', getRequest_of_failure hok, hone, hne⟩
  | cons i is ih =>
      by_cases hintr : i.interrupted = true
      · have hcheck : con.checkRequest fresh true ((i :: is).headD {}) = .ok (none, con) :=
          checkRequest_of_interrupted hintr
        rw [getRequest_of_incomplete hcheck hinc]
        exact ih
      · obtain ⟨r, con', hok, hone, hne⟩ := checkRequest_of_cut fresh
          (reads_of_not_interrupted (Bool.eq_false_iff.mpr hintr)) hreadlen hcut
        rcases r with _ | failure
        · rw [getRequest_of_incomplete hok (.inl (by omega))]
          exact .inl (getRequest_of_half _ hone hne)
        · exact .inr ⟨failure, con', getRequest_of_failure hok, hone, hne⟩

end EIBConnection

/-! ## Runs -/

namespace LibraryRun

variable {fresh : Nat → Byte} {ms : List Message} {s s' : LibraryRun}

/-- What has been delivered are the first messages, one for each call until there are no more; the
    connection stands behind them, no call has failed with bytes left to read, and another check
    can be made. -/
structure Framed (fresh : Nat → Byte) (ms : List Message) (s : LibraryRun) : Prop where
  got : ∃ done rest, ms = done ++ rest ∧
    s.got = done.map (fun m => (m.bytes.length, m.bytes)) ∧ EIBConnection.At rest s.con
  delivered : s.got.length = min s.asked ms.length
  refused : s.refused = false
  broken : s.broken = false
  resumable : ∀ i, (s.con.checkRequest fresh true i).Returns

/-- If the call reads a header, then its first read does not return half of it. -/
def HeaderWhole (s : LibraryRun) : LibraryCall → Prop
  | .check block i => i.Reads block → s.con.readlen = 0 → ¬ s.con.fd.CutAt 1
  | .get _ => s.con.readlen = 0 → ¬ s.con.fd.CutAt 1

/-- With half of a header taken, the other half cannot be. -/
theorem Framed.readlen_ne_one (h : Framed fresh ms s) : s.con.readlen ≠ 1 := by
  intro hone
  obtain ⟨done, rest, -, -, hat⟩ := h.got
  cases hat with
  | header readlen => omega
  | @half b readlen size hfd =>
      have hne : s.con.fd.bytes ≠ [] := by
        intro hnil
        rcases rest with _ | ⟨m, rest⟩
        · cases hfd
        · rw [hnil, frames, List.flatMap_cons, frame] at hfd
          have hlength := congrArg List.length hfd
          simp only [List.length_append, head, List.length_cons, List.length_nil] at hlength
          omega
      obtain ⟨o, ho⟩ := h.resumable {}
      rw [EIBConnection.checkRequest_of_half ⟨.inl rfl, rfl⟩ hone hne] at ho
      cases ho
  | body messages header => omega

theorem resumable_of_at {rest : List Message} (hat : EIBConnection.At rest s.con)
    (hone : s.con.readlen ≠ 1) (i : CheckInput) : (s.con.checkRequest fresh true i).Returns := by
  by_cases hcut : i.Reads true ∧ s.con.readlen = 0 ∧ s.con.fd.CutAt 1
  · obtain ⟨r, con', hok, -⟩ :=
      EIBConnection.checkRequest_of_cut fresh hcut.1 hcut.2.1 hcut.2.2
    exact ⟨_, hok⟩
  · obtain ⟨r, con', hok, -⟩ := EIBConnection.checkRequest_at fresh hat hone
      fun hreads h0 hc => hcut ⟨hreads, h0, hc⟩
    exact ⟨_, hok⟩

/-- What a call that fails without need leaves behind is not resumable. -/
theorem not_framed_of_readlen {con : EIBConnection} (h : s.con = con) (hone : con.readlen = 1) :
    ¬ Framed fresh ms s := fun hframed => hframed.readlen_ne_one (h ▸ hone)

theorem framed_check_iff {block : Bool} {i : CheckInput} (h : Framed fresh ms s) :
    Framed fresh ms (s.record false (s.con.checkRequest fresh block i)) ↔
      s.HeaderWhole (.check block i) := by
  have hone := h.readlen_ne_one
  constructor
  · intro h' hreads h0 hcut
    obtain ⟨r, con', hok, hhalf, -⟩ :=
      EIBConnection.checkRequest_of_cut fresh hreads h0 hcut
    rw [hok] at h'
    rcases r with _ | failure
    · exact not_framed_of_readlen rfl hhalf h'
    · exact not_framed_of_readlen rfl hhalf h'
  -- with a whole header the reader stands inside of the same message
  · intro hwhole
    obtain ⟨done, rest, hms, hgot, hat⟩ := h.got
    obtain ⟨r, con', hok, hat', hone', -, hfail⟩ :=
      EIBConnection.checkRequest_at fresh hat hone hwhole
    rw [hok]
    rcases r with _ | failure
    · exact ⟨⟨done, rest, hms, hgot, hat'⟩, h.delivered, h.refused, h.broken,
        resumable_of_at hat' hone'⟩
    · refine ⟨⟨done, rest, hms, hgot, hat'⟩, h.delivered, ?_, h.broken,
        resumable_of_at hat' hone'⟩
      show (s.refused || (failure ≠ .select && con'.fd.bytes ≠ [])) = false
      rcases hfail failure rfl with ⟨rfl, -⟩ | rfl
      · rw [h.refused]
        rfl
      · rw [h.refused, hat'.bytes_nil]
        simp

theorem framed_get_iff {is : List CheckInput} (h : Framed fresh ms s) :
    Framed fresh ms { s.record true (s.con.getRequest fresh is) with asked := s.asked + 1 } ↔
      s.HeaderWhole (.get is) := by
  have hone := h.readlen_ne_one
  constructor
  · intro h' h0 hcut
    rcases EIBConnection.getRequest_of_cut fresh is h0 hcut with
      hfault | ⟨failure, con', hok, hhalf, -⟩
    · rw [hfault] at h'
      exact Bool.noConfusion (h'.broken.symm.trans (show _ = true from rfl))
    · rw [hok] at h'
      exact not_framed_of_readlen rfl hhalf h'
  · intro hwhole
    obtain ⟨done, rest, hms, hgot, hat⟩ := h.got
    rcases EIBConnection.getRequest_at fresh is hat hone hwhole with
      ⟨m, rest', con', hok, hrest, hmessage, hat', hone'⟩ | ⟨failure, con', hok, hat', hone', hnil⟩
    · -- one message more has been taken
      rw [hok]
      have hgot' : s.got ++ [con'.message] =
          (done ++ [m]).map fun m => (m.bytes.length, m.bytes) := by
        rw [hgot, hmessage, List.map_append]
        rfl
      refine ⟨⟨done ++ [m], rest', ?_, hgot', hat'⟩, ?_, h.refused, h.broken,
        resumable_of_at hat' hone'⟩
      · rw [hms, hrest, List.append_assoc]
        rfl
      · have hdelivered := h.delivered
        have hlength := congrArg List.length hms
        rw [hgot, List.length_map] at hdelivered
        rw [hrest, List.length_append, List.length_cons] at hlength
        show (s.got ++ [con'.message]).length = min (s.asked + 1) ms.length
        rw [hgot', List.length_map, List.length_append, List.length_singleton]
        omega
    · rw [hok]
      subst hnil
      refine ⟨⟨done, [], hms, hgot, hat'⟩, ?_, ?_, h.broken, resumable_of_at hat' hone'⟩
      · have hdelivered := h.delivered
        have hlength := congrArg List.length hms
        rw [hgot, List.length_map] at hdelivered
        rw [List.append_nil] at hlength
        show s.got.length = min (s.asked + 1) ms.length
        rw [hgot, List.length_map]
        omega
      · show (s.refused || (failure ≠ .select && con'.fd.bytes ≠ [])) = false
        rw [h.refused, hat'.bytes_nil]
        simp

/-- A daemon's stream and a connection to it: in every state of every sequence of calls the
    replies taken are the first ones that were sent, with their lengths, nothing between them and
    the stream is lost or misplaced, and the calls can go on, if and only if no read of a header
    returns its first byte alone. -/
theorem framed_iff_headers_whole (fresh : Nat → Byte) (ms : List Message) (fd : Stream Byte)
    (size : Nat) (hfd : fd.bytes = frames ms) (calls : List LibraryCall) :
    HoldsAlong (step fresh) (Framed fresh ms) { con := .opened fd size } calls ↔
      StepsMeet (step fresh) HeaderWhole { con := .opened fd size } calls := by
  have hinv : ∀ s c s', True → True → step fresh s c = .ok s' → True := fun _ _ _ _ _ _ => trivial
  refine holdsAlong_iff hinv ?_ ?_ (fun _ _ => trivial) trivial ?_
  · -- every step returns
    intro s c _ _ _ hfault
    rcases c with ⟨block, i⟩ | is
    · exact absurd rfl (hfault _)
    · exact absurd rfl (hfault _)
  · intro s c s' _ h _ hstep
    rcases c with ⟨block, i⟩ | is
    · cases hstep
      exact framed_check_iff h
    · cases hstep
      exact framed_get_iff h
  · have hat : EIBConnection.At ms (.opened fd size) := .header rfl hfd
    exact ⟨⟨[], ms, rfl, rfl, hat⟩, (Nat.zero_min _).symm, rfl, rfl,
      resumable_of_at hat Nat.zero_ne_one⟩

/-- The stream of `cutInHeader`, as the library sees it. -/
def halfHeader : LibraryRun where
  con := .opened ClientConnection.cutInHeader.fd 0

/-- The reply is on the stream, and the first call does not deliver it. -/
theorem halfHeader_not_framed :
    ClientConnection.cutInHeader.fd.bytes = frames [ClientConnection.resetMessage] ∧
      ¬ HoldsAlong (step fun _ => 0#8) (Framed (fun _ => 0#8) [ClientConnection.resetMessage])
        halfHeader [.get []] := by
  refine ⟨rfl, fun h => ?_⟩
  have hstart := h [] [.get []] halfHeader rfl rfl
  have hend := h [.get []] [] _ rfl rfl
  exact (framed_get_iff hstart).mp hend rfl
    ⟨[[0x00#8]], [[0x02#8, 0x00#8, 0x04#8]], rfl, List.cons_ne_nil _ _, List.cons_ne_nil _ _, rfl⟩

theorem framed_iff_headers_whole_halfHeader :
    HoldsAlong (step fun _ => 0#8) (Framed (fun _ => 0#8) [ClientConnection.resetMessage])
        halfHeader [.get []] ↔
      StepsMeet (step fun _ => 0#8) HeaderWhole halfHeader [.get []] :=
  framed_iff_headers_whole (fun _ => 0#8) [ClientConnection.resetMessage]
    ClientConnection.cutInHeader.fd 0 rfl [.get []]

end LibraryRun

end BcuSdk.Eibd
