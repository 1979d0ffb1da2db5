/-
  BcuSdk.Eibd.MemoryBlock

  The transfers of whole memory areas in eibd/libserver/layer7.cpp.

  `X_Memory_Read_Block` reads twelve bytes at a time, and after a failure two;
  `X_Memory_Write_Block` reads what is there and writes where it differs;
  `A_Memory_Write_Block` writes without looking.  The inner loop of
  `X_Memory_Write_Block` compares the bytes at an index before it tests whether
  the index is one of the array.
-/
import BcuSdk.Eibd.Layer7Device
import BcuSdk.Lib.Buffer

namespace BcuSdk.Eibd

open BcuSdk.Lib

namespace Layer7Connection

variable {σ : Type} (d : Device σ) (unset : Byte × Byte)

/-! ## Reading -/

/-- The values of `blocksize` in `X_Memory_Read_Block`. -/
inductive BlockSize where
  | twelve
  | two
  deriving DecidableEq, Repr

def BlockSize.toNat : BlockSize → Nat
  | .twelve => 12
  | .two => 2

/-- The loop of `X_Memory_Read_Block`; `none` is the result -1. -/
def readBlocks (addr : MemAddr) (len : Nat) (l : Layer7Connection σ) (i : Nat)
    (blocksize : BlockSize) (erg : CArray) : Checked (Layer7Connection σ × Option CArray) :=
  if _h : i < len then do
    let count := if len - i > blocksize.toNat then blocksize.toNat else len - i
    match ← l.aMemoryRead d unset (addr + BitVec.ofNat 16 i) (BitVec.ofNat 8 count) with
    | (l, none) =>
        match blocksize with
        -- `goto rt`
        | .twelve => readBlocks addr len l i .two erg
        | .two => return (l, none)
    | (l, some e) => readBlocks addr len l (i + blocksize.toNat) blocksize (setpart erg e i)
  else return (l, some erg)
termination_by (len - i, blocksize.toNat)
decreasing_by
  · exact Prod.Lex.right _ (by decide)
  · exact Prod.Lex.left _ _ (by cases blocksize <;> simp [BlockSize.toNat] <;> omega)

/-- `X_Memory_Read_Block`. -/
def xMemoryReadBlock (fresh : Nat → Byte) (l : Layer7Connection σ) (addr : MemAddr) (len : Nat) :
    Checked (Layer7Connection σ × Option CArray) :=
  readBlocks d unset addr len l 0 .twelve (resize fresh len)

variable {d unset}

/-- As long as its state is one of `Inv`, the device answers a read request with the bytes at the
    address, as many as asked for; if `fails`, the request may fail instead. -/
structure ReadsFrom (d : Device σ) (unset : Byte × Byte) (mem : Memory 16) (Inv : σ → Prop)
    (fails : Prop) : Prop where
  answers : ∀ s addr len sent result, Inv s →
    (Layer7Call.aMemoryRead addr len).perform unset
        (d.answer s ((Layer7Call.aMemoryRead addr len).request.bytes unset)).2 =
      .ok (sent, result) →
    result = some (.erg (readBytes mem addr (len &&& 0x0f#8).toNat)) ∨ fails ∧ result = none
  keeps : ∀ s addr len, Inv s →
    Inv (d.answer s ((Layer7Call.aMemoryRead addr len).request.bytes unset)).1

variable {mem : Memory 16} {Inv : σ → Prop} {fails : Prop}

/-- One request of a block. -/
theorem ReadsFrom.aMemoryRead_cases (h : ReadsFrom d unset mem Inv fails)
    {l : Layer7Connection σ} (hinv : Inv l.device) (addr : MemAddr) {count : Nat}
    (hcount : count ≤ 12) :
    ∃ l' e, l.aMemoryRead d unset addr (BitVec.ofNat 8 count) = .ok (l', e) ∧ Inv l'.device ∧
      (∃ result,
        l'.services = l.services ++ [.call (.aMemoryRead addr (BitVec.ofNat 8 count)) result] ∧
          (e = some (readBytes mem addr count) ∨ fails ∧ e = none ∧ result = none)) := by
  obtain ⟨sent, result, hperform, hread⟩ :=
    aMemoryRead_eq d unset l addr (BitVec.ofNat 8 count)
  have hmask : ∀ n ≤ 12, (BitVec.ofNat 8 n &&& 0x0f#8).toNat = n := by decide
  refine ⟨_, _, hread, h.keeps _ _ _ hinv, result, rfl, ?_⟩
  rcases h.answers _ _ _ _ _ hinv hperform with rfl | ⟨hfails, rfl⟩
  · exact .inl (by rw [hmask count hcount, ergOf])
  · exact .inr ⟨hfails, rfl, rfl⟩

/-- How many requests more the loop can make than there are bytes left. -/
def BlockSize.retries : BlockSize → Nat
  | .twelve => 1
  | .two => 0

/-- The last request asked for at most two bytes, and failed. -/
def FailedSmall (services : List Service) : Prop :=
  ∃ pre addr count, services = pre ++ [.call (.aMemoryRead addr count) none] ∧ count.toNat ≤ 2

/-- Requests of read blocks. -/
def OnlyReads (services : List Service) : Prop :=
  ∀ x ∈ services, ∃ addr len result, x = .call (.aMemoryRead addr len) result

/-- What the loop ends with, from any of its passes: `erg` holds what has been read so far. -/
theorem ReadsFrom.readBlocks_spec (h : ReadsFrom d unset mem Inv fails) (addr : MemAddr)
    (len : Nat) {l : Layer7Connection σ} (hinv : Inv l.device) (i : Nat) (blocksize : BlockSize)
    {rest : CArray} (hrest : rest.length = len - i) :
    ∃ l' r services,
      readBlocks d unset addr len l i blocksize (readBytes mem addr (min i len) ++ rest) =
        .ok (l', r) ∧
      (r = some (readBytes mem addr len) ∨ fails ∧ r = none ∧ FailedSmall l'.services) ∧
      Inv l'.device ∧ l'.services = l.services ++ services ∧ OnlyReads services ∧
      services.length ≤ len - i + blocksize.retries := by
  induction hn : 2 * (len - i) + blocksize.retries using Nat.strong_induction_on
    generalizing l i blocksize rest with
  | _ n ih =>
      subst hn
      rw [readBlocks]
      by_cases hi : i < len
      · rw [dif_pos hi, Nat.min_eq_left (Nat.le_of_lt hi)]
        let count := if len - i > blocksize.toNat then blocksize.toNat else len - i
        have hsize : 2 ≤ blocksize.toNat ∧ blocksize.toNat ≤ 12 := by cases blocksize <;> decide
        have hcount : count ≤ blocksize.toNat ∧ i + count = min (i + blocksize.toNat) len := by
          show ite _ _ _ ≤ _ ∧ i + ite _ _ _ = _
          split <;> omega
        obtain ⟨l₁, e, hread, hinv₁, result, hservices, hcases⟩ :=
          h.aMemoryRead_cases hinv (addr + BitVec.ofNat 16 i) (show count ≤ 12 by omega)
        have honly {services : List Service} (hs : OnlyReads services) :
            OnlyReads (.call (.aMemoryRead (addr + BitVec.ofNat 16 i) (BitVec.ofNat 8 count)) result ::
              services) := by
          intro x hx
          rcases List.mem_cons.mp hx with rfl | hx
          · exact ⟨_, _, _, rfl⟩
          · exact hs x hx
        show ∃ l' r services,
          (l.aMemoryRead d unset (addr + BitVec.ofNat 16 i) (BitVec.ofNat 8 count) >>= _) =
            .ok (l', r) ∧ _
        rw [hread, Checked.ok_bind]
        rcases hcases with rfl | ⟨hfails, rfl, rfl⟩
        · -- the block is stored behind what is there
          have hset : setpart (readBytes mem addr i ++ rest)
              (readBytes mem (addr + BitVec.ofNat 16 i) count) i =
                readBytes mem addr (min (i + blocksize.toNat) len) ++ rest.drop count := by
            rw [setpart_append _ _ _ (length_readBytes ..), ← readBytes_append, length_readBytes,
              hcount.2]
          have hleft : (rest.drop count).length = len - (i + blocksize.toNat) := by
            rw [List.length_drop]
            omega
          obtain ⟨l', r, services, hrun, hr, hinv', hservices', hreads, hbound⟩ := ih
            (2 * (len - (i + blocksize.toNat)) + blocksize.retries) (by omega) hinv₁
            (i + blocksize.toNat) blocksize hleft rfl
          refine ⟨l', r, _ :: services, ?_, hr, hinv', ?_, honly hreads, ?_⟩
          · simp only [hset, hrun]
          · rw [hservices', hservices, List.append_assoc, List.singleton_append]
          · rw [List.length_cons]
            omega
        · cases blocksize with
          | twelve =>
              -- the same block once more, in pieces of two bytes
              obtain ⟨l', r, services, hrun, hr, hinv', hservices', hreads, hbound⟩ := ih
                (2 * (len - i) + BlockSize.two.retries) (by simp [BlockSize.retries]) hinv₁ i .two
                hrest rfl
              rw [Nat.min_eq_left (Nat.le_of_lt hi)] at hrun
              refine ⟨l', r, _ :: services, hrun, hr, hinv', ?_, honly hreads, ?_⟩
              · rw [hservices', hservices, List.append_assoc, List.singleton_append]
              · simp only [BlockSize.retries, List.length_cons] at hbound ⊢
                omega
          | two =>
              refine ⟨l₁, none, [_], rfl, .inr ⟨hfails, rfl, l.services, _, _, hservices, ?_⟩, hinv₁,
                hservices, honly (fun x hx => absurd hx List.not_mem_nil), ?_⟩
              · rw [BitVec.toNat_ofNat]
                exact Nat.le_trans (Nat.mod_le ..) hcount.1
              · simp only [List.length_singleton]
                omega
      · rw [dif_neg hi]
        have hnil : rest = [] := List.eq_nil_of_length_eq_zero (by omega)
        refine ⟨l, _, [], rfl, .inl ?_, hinv, by rw [List.append_nil], ?_, Nat.zero_le _⟩
        · rw [hnil, List.append_nil, Nat.min_eq_right (by omega)]
        · exact fun x hx => absurd hx List.not_mem_nil

/-- `X_Memory_Read_Block` on such a device. -/
theorem ReadsFrom.xMemoryReadBlock_spec (h : ReadsFrom d unset mem Inv fails)
    (fresh : Nat → Byte) {l : Layer7Connection σ} (hinv : Inv l.device) (addr : MemAddr)
    (len : Nat) :
    ∃ l' r services, xMemoryReadBlock d unset fresh l addr len = .ok (l', r) ∧
      (r = some (readBytes mem addr len) ∨ fails ∧ r = none ∧ FailedSmall l'.services) ∧
      Inv l'.device ∧ l'.services = l.services ++ services ∧ OnlyReads services ∧
      services.length ≤ len + 1 := by
  obtain ⟨l', r, services, hrun, hr, hinv', hservices, hreads, hbound⟩ :=
    h.readBlocks_spec addr len hinv 0 .twelve
      (show (resize fresh len).length = len - 0 by simp [resize])
  rw [Nat.zero_min, readBytes_zero, List.nil_append] at hrun
  exact ⟨l', r, services, hrun, hr, hinv', hservices, hreads, hbound⟩

/-! ### Any device -/

/-- An answer that is accepted has as many bytes as were asked for. -/
theorem length_of_perform {addr : MemAddr} {len : Byte} {c : Option CArray} {sent e : CArray}
    (h : (Layer7Call.aMemoryRead addr len).perform unset c = .ok (sent, some (.erg e))) :
    e.length = (len &&& 0x0f#8).toNat := by
  obtain ⟨p, -, haccepted, hread⟩ := Layer7Call.perform_eq_some h
  have hassert : (APDU.fromPacket p).asserts = true := check_eq_ok.mp (APDU.decode_fromPacket p)
  rcases ha : APDU.fromPacket p <;> rw [ha] at hread haccepted hassert <;> cases hread
  -- `isResponse` compares the count, and `init` the length
  simp only [APDU.isResponse, Layer7Call.request, decide_eq_true_eq] at haccepted
  simp only [APDU.asserts, Bool.and_eq_true, beq_iff_eq] at hassert
  rw [hassert.2, haccepted.1]

/-- What the loop returns has the length of `erg`. -/
theorem length_of_readBlocks {addr : MemAddr} {len : Nat} {l l' : Layer7Connection σ} {i : Nat}
    {blocksize : BlockSize} {erg erg' : CArray} (hlen : erg.length = len)
    (h : readBlocks d unset addr len l i blocksize erg = .ok (l', some erg')) :
    erg'.length = len := by
  induction hn : 2 * (len - i) + blocksize.retries using Nat.strong_induction_on
    generalizing l i blocksize erg with
  | _ n ih =>
      subst hn
      rw [readBlocks] at h
      by_cases hi : i < len
      · rw [dif_pos hi] at h
        let count := if len - i > blocksize.toNat then blocksize.toNat else len - i
        have hsize : 0 < blocksize.toNat ∧ blocksize.toNat ≤ 12 := by cases blocksize <;> decide
        have hcount : count ≤ 12 ∧ i + count ≤ len := by
          show ite _ _ _ ≤ 12 ∧ i + ite _ _ _ ≤ len
          split <;> omega
        -- the answer carries its length in four bits
        have hmask : ∀ n ≤ 12, (BitVec.ofNat 8 n &&& 0x0f#8).toNat = n := by decide
        obtain ⟨sent, result, hperform, hread⟩ := aMemoryRead_eq d unset l
          (addr + BitVec.ofNat 16 i) (BitVec.ofNat 8 count)
        change (l.aMemoryRead d unset (addr + BitVec.ofNat 16 i) (BitVec.ofNat 8 count) >>= _) = _ at h
        rw [hread, Checked.ok_bind] at h
        rcases herg : ergOf result with _ | e
        · rw [herg] at h
          -- without an answer the loop tries again with two bytes, and then gives up
          cases blocksize with
          | twelve => exact ih _ (by simp [BlockSize.retries]) hlen h rfl
          | two => cases h
        · rw [herg] at h
          obtain rfl := ergOf_eq_some.mp herg
          have hpart : i + e.length ≤ erg.length := by
            rw [length_of_perform hperform, hmask count hcount.1, hlen]
            exact hcount.2
          exact ih _ (by omega) ((length_setpart_inside hpart).trans hlen) h rfl
      · rw [dif_neg hi] at h
        cases h
        exact hlen

/-- What is read back is as long as what is asked for. -/
theorem length_of_xMemoryReadBlock {fresh : Nat → Byte} {l l' : Layer7Connection σ}
    {addr : MemAddr} {len : Nat} {erg : CArray}
    (h : xMemoryReadBlock d unset fresh l addr len = .ok (l', some erg)) : erg.length = len :=
  length_of_readBlocks (by simp [resize]) h

/-- The loop ends, whatever the device does. -/
theorem readBlocks_returns (d : Device σ) (unset : Byte × Byte) (addr : MemAddr) (len : Nat)
    (l : Layer7Connection σ) (i : Nat) (blocksize : BlockSize) (erg : CArray) :
    (readBlocks d unset addr len l i blocksize erg).Returns := by
  induction hn : 2 * (len - i) + blocksize.retries using Nat.strong_induction_on
    generalizing l i blocksize erg with
  | _ n ih =>
      subst hn
      rw [readBlocks]
      by_cases hi : i < len
      · rw [dif_pos hi]
        let count := if len - i > blocksize.toNat then blocksize.toNat else len - i
        obtain ⟨sent, result, -, hread⟩ := aMemoryRead_eq d unset l
          (addr + BitVec.ofNat 16 i) (BitVec.ofNat 8 count)
        show (l.aMemoryRead d unset (addr + BitVec.ofNat 16 i) (BitVec.ofNat 8 count) >>= _).Returns
        rw [hread, Checked.ok_bind]
        have hsize : 0 < blocksize.toNat := by cases blocksize <;> decide
        rcases ergOf result with _ | e
        · cases blocksize with
          | twelve => exact ih _ (by simp [BlockSize.retries]) _ i .two erg rfl
          | two => exact ⟨_, rfl⟩
        · exact ih _ (by omega) _ (i + blocksize.toNat) blocksize (setpart erg e i) rfl
      · rw [dif_neg hi]
        exact ⟨_, rfl⟩

theorem xMemoryReadBlock_returns (d : Device σ) (unset : Byte × Byte) (fresh : Nat → Byte)
    (l : Layer7Connection σ) (addr : MemAddr) (len : Nat) :
    (xMemoryReadBlock d unset fresh l addr len).Returns := readBlocks_returns ..

/-! ### A device that fails now and then -/

/-- The device answers each read request with the bytes at the address, as many as asked for, or
    the request fails; which of the two is up to the device. -/
def AnswersOrFails (d : Device σ) (unset : Byte × Byte) (mem : Memory 16) : Prop :=
  ∀ s addr len sent result,
    (Layer7Call.aMemoryRead addr len).perform unset
        (d.answer s ((Layer7Call.aMemoryRead addr len).request.bytes unset)).2 =
      .ok (sent, result) →
    result = some (.erg (readBytes mem addr (len &&& 0x0f#8).toNat)) ∨ result = none

theorem AnswersOrFails.readsFrom (h : AnswersOrFails d unset mem) :
    ReadsFrom d unset mem (fun _ => True) True where
  answers s addr len sent result _ hperform :=
    (h s addr len sent result hperform).imp_right fun hnone => ⟨trivial, hnone⟩
  keeps _ _ _ _ := trivial

/-- `X_Memory_Read_Block` ends, after at most one request more than there are bytes; what it returns
    with 0 is the memory, and it returns -1 only when a request for at most two bytes has failed. -/
theorem xMemoryReadBlock_exact (h : AnswersOrFails d unset mem) (fresh : Nat → Byte)
    (l : Layer7Connection σ) (addr : MemAddr) (len : Nat) :
    ∃ l' r, xMemoryReadBlock d unset fresh l addr len = .ok (l', r) ∧
      (∀ erg, r = some erg → erg = readBytes mem addr len) ∧
      (r = none → FailedSmall l'.services) ∧
      l'.services.length ≤ l.services.length + len + 1 := by
  obtain ⟨l', r, services, hrun, hr, -, hservices, -, hbound⟩ :=
    h.readsFrom.xMemoryReadBlock_spec fresh (l := l) trivial addr len
  refine ⟨l', r, hrun, ?_, ?_, ?_⟩
  · rintro erg rfl
    rcases hr with hr | ⟨-, hr, -⟩
    · exact Option.some.inj hr
    · cases hr
  · rintro rfl
    rcases hr with hr | ⟨-, -, hsmall⟩
    · cases hr
    · exact hsmall
  · rw [hservices, List.length_append]
    omega

/-- The packet of a read request is decoded to it. -/
theorem fromPacket_aMemoryRead (addr : MemAddr) (len : Byte) :
    APDU.fromPacket ((Layer7Call.aMemoryRead addr len).request.bytes unset) =
      .aMemoryRead (len &&& 0x0f#8) addr :=
  APDU.fromPacket_bytes (Layer7Call.request_asserts _) trivial trivial trivial

variable (unset) in
/-- A packet that is decoded to the right answer. -/
theorem perform_aMemoryRead {addr : MemAddr} {len : Byte} {data c : CArray}
    (h : APDU.fromPacket c = .aMemoryResponse (len &&& 0x0f#8) addr data) :
    ∃ sent, (Layer7Call.aMemoryRead addr len).perform unset (some c) =
      .ok (sent, some (.erg data)) := by
  have hsent : (Layer7Call.aMemoryRead addr len).request.toPacket unset =
      .ok ((Layer7Call.aMemoryRead addr len).request.bytes unset) :=
    APDU.toPacket_eq_ok.mpr ⟨Layer7Call.request_asserts _, rfl⟩
  rcases c with _ | ⟨b, bs⟩
  · cases h
  · have haccepted : (APDU.aMemoryResponse (len &&& 0x0f#8) addr data).isResponse
        (Layer7Call.aMemoryRead addr len).request = true := by
      simp [APDU.isResponse, Layer7Call.request]
    refine ⟨(Layer7Call.aMemoryRead addr len).request.bytes unset, ?_⟩
    rw [Layer7Call.perform, requestResponse, hsent]
    simp only [Checked.ok_bind, h, haccepted, if_true, Checked.pure_eq_ok, Layer7Call.read]

/-- The packet with the bytes at the address. -/
def memoryResponse (mem : Memory 16) (addr : MemAddr) (count : Byte) : CArray :=
  (APDU.aMemoryResponse count addr (readBytes mem addr count.toNat)).bytes (0#8, 0#8)

theorem fromPacket_memoryResponse (mem : Memory 16) (addr : MemAddr) (len : Byte) :
    APDU.fromPacket (memoryResponse mem addr (len &&& 0x0f#8)) =
      .aMemoryResponse (len &&& 0x0f#8) addr (readBytes mem addr (len &&& 0x0f#8).toNat) := by
  refine APDU.fromPacket_bytes ?_ trivial trivial trivial
  have hlow : len &&& 0x0f#8 &&& 0xf0#8 = 0#8 := by
    rw [BitVec.and_assoc]
    exact BitVec.and_zero
  simp [APDU.asserts, hlow]

/-- A device that answers only where its list says so, and always behind the end of the list. -/
def flakyDevice (mem : Memory 16) : Device (List Bool) where
  answer s sent :=
    match APDU.fromPacket sent, s with
    | .aMemoryRead count addr, true :: s => (s, some (memoryResponse mem addr count))
    | .aMemoryRead count addr, [] => ([], some (memoryResponse mem addr count))
    | _, s => (s.tail, none)
  receive s _ := s

theorem flakyDevice_answersOrFails (mem : Memory 16) :
    AnswersOrFails (flakyDevice mem) unset mem := by
  intro s addr len sent result hperform
  obtain ⟨sent', hright⟩ := perform_aMemoryRead unset
    (fromPacket_memoryResponse mem addr len)
  have hans : (((flakyDevice mem).answer s
      ((Layer7Call.aMemoryRead addr len).request.bytes unset)).2 =
        some (memoryResponse mem addr (len &&& 0x0f#8))) ∨
      ((flakyDevice mem).answer s
        ((Layer7Call.aMemoryRead addr len).request.bytes unset)).2 = none := by
    simp only [flakyDevice, fromPacket_aMemoryRead]
    rcases s with _ | ⟨_ | _, s⟩
    · exact .inl rfl
    · exact .inr rfl
    · exact .inl rfl
  rcases hans with hans | hans
  · rw [hans, hright] at hperform
    cases hperform
    exact .inl rfl
  · rw [hans, Layer7Call.perform_none] at hperform
    cases hperform
    exact .inr rfl

/-- The second block fails, and is read again in pieces. -/
theorem xMemoryReadBlock_exact_flaky :
    ∃ l' r, xMemoryReadBlock (flakyDevice fun a => loByte a) (0#8, 0#8) (fun _ => 0#8)
        { device := [true, false, true] } 0x0100#16 20 = .ok (l', r) ∧
      (∀ erg, r = some erg → erg = readBytes (fun a => loByte a) 0x0100#16 20) ∧
      (r = none → FailedSmall l'.services) ∧ l'.services.length ≤ 0 + 20 + 1 :=
  xMemoryReadBlock_exact (flakyDevice_answersOrFails _) (fun _ => 0#8)
    { device := [true, false, true] } 0x0100#16 20

end Layer7Connection

end BcuSdk.Eibd
