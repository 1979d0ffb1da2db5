/-
  BcuSdk.Eibd.RemoteCallsSafety

  The library and the daemon agree: a call through the socket is the call of
  its operation.

  Every message of a client gets exactly one reply, so that a call finds its own
  reply at the head of the socket (`Served`), and the reply has the type and
  the layout that the call looks for.
-/
import BcuSdk.Eibd.RemoteCalls

namespace BcuSdk.Eibd

open BcuSdk.Lib BcuSdk.Common
open ManagementCalls (answer reject wordReply infoBytes)

/-! ## Requests -/

namespace EIBCall

variable (k : EIBCall)

theorem valid_iff : k.Valid ↔ 0 ≤ k.request.maxlen ∧ k.request.bytes.length ≤ 65535 := by
  cases k <;> simp only [Valid, request, Request.bytes, typed, typeBytes, uint16Bytes, lenBytes,
    keyBytes, List.length_append, List.length_cons, List.length_nil, true_iff] <;> omega

theorem send_of_valid (h : k.Valid) :
    ∃ msg : Message, k.request.send = .ok msg ∧ msg.bytes = k.request.bytes := by
  obtain ⟨hmaxlen, hmax⟩ := k.valid_iff.mp h
  have hmin : 2 ≤ k.request.bytes.length := by
    rw [Request.bytes, typed, List.length_append]
    exact Nat.le_add_right 2 _
  refine ⟨⟨k.request.bytes, hmin, hmax⟩, ?_, rfl⟩
  rw [Request.send, if_neg (by omega), dif_pos ⟨hmin, hmax⟩]

theorem send_of_not_valid (h : ¬ k.Valid) : k.request.send = .error .einval := by
  rw [valid_iff] at h
  rw [Request.send]
  split
  · rfl
  case isFalse hmaxlen =>
    rw [dif_neg]
    rintro ⟨-, hmax⟩
    exact h ⟨by omega, hmax⟩

/-- The request among those of `Run`. -/
def runRequest : EIBCall → Option RunRequest
  | .mReadIndividualAddresses _ => some .individualAddressRead
  | .mProgmode _ _ => some .progMode
  | .mProgmodeStatus _ => some .progMode
  | .mGetMaskVersion _ => some .maskVersion
  | .mWriteIndividualAddress _ => some .individualAddressWrite
  | .loadImage _ => some .loadImage
  | .cacheEnable => some (.cache .enable)
  | .cacheDisable => some (.cache .disable)
  | .cacheClear => some (.cache .clear)
  | .cacheRemove _ => some (.cache .remove)
  | .cacheRead _ _ => some (.cache .readNowait)
  | .cacheReadSync _ _ _ => some (.cache .read)
  | .cacheLastUpdates _ _ _ => some (.cache .lastUpdates)
  | .reset => some .resetConnection
  | .mcConnect _ => some .connection
  | .mcIndividualOpen _ => some .individual
  | _ => none

/-- The request among those of the sessions. -/
def mcRequest : EIBCall → Option MCRequest
  | .mcProgmode _ => some .progMode
  | .mcProgmodeStatus => some .progMode
  | .mcGetMaskVersion => some .maskVersion
  | .mcGetPEIType => some .peiType
  | .mcReadADC _ _ => some .adcRead
  | .mcRead _ _ => some .read
  | .mcWrite _ _ => some .write
  | .mcWritePlain _ _ => some .writeNoVerify
  | .mcPropertyRead _ _ _ _ _ => some .propRead
  | .mcPropertyWrite _ _ _ _ _ _ => some .propWrite
  | .mcAuthorize _ => some .authorize
  | .mcSetKey _ _ => some .keyWrite
  | .mcPropertyDesc _ _ => some .propDesc
  | .mcPropertyScan _ => some .propScan
  | .mcRestart => some .restart
  | .reset => some .resetConnection
  | _ => none

theorem type_bytes : reqWord k.request.bytes 0 = k.request.type :=
  word16_hiByte_loByte k.request.type

theorem ofType_run : RunRequest.ofType (reqWord k.request.bytes 0) = k.runRequest := by
  rw [type_bytes]
  cases k <;> rfl

theorem ofType_session : MCRequest.ofType (reqWord k.request.bytes 0) = k.mcRequest := by
  rw [type_bytes]
  cases k <;> rfl

theorem not_opens : eibOpens.any (· = reqWord k.request.bytes 0) = false := by
  rw [type_bytes]
  cases k <;> rfl

theorem type_eq_reset_iff : reqWord k.request.bytes 0 = eibResetConnection ↔ k = .reset := by
  rw [type_bytes]
  cases k <;> simp [request, eibMIndividualAddressRead, eibProgMode, eibMaskVersion,
    eibMIndividualAddressWrite, eibLoadImage, eibCacheEnable, eibCacheDisable, eibCacheClear,
    eibCacheRemove, eibCacheRead, eibCacheReadNowait, eibCacheLastUpdates, eibResetConnection,
    eibMCConnection, eibMCIndividual, MCRequest.type]

end EIBCall

/-! ## Replies -/

/-- The replies are one, and the call makes `o` of it. -/
def EIBCall.Gets (k : EIBCall) (replies : List CArray) (o : CallOutcome) : Prop :=
  ∃ reply, replies = [reply] ∧ reply.length ≤ 65535 ∧ k.completion.complete reply = .ok o

/-- The daemon has served the call. -/
def EIBCall.Served {σ : Type} (k : EIBCall) (r : List CArray × σ) (o : CallOutcome × σ) : Prop :=
  k.Gets r.1 o.1 ∧ r.2 = o.2

namespace EIBCall

variable {σ α : Type} (k : EIBCall)

theorem gets_of_complete {reply : CArray} {o : CallOutcome} (hlen : reply.length ≤ 65535)
    (h : k.completion.complete reply = .ok o) : k.Gets [reply] o := ⟨reply, rfl, hlen, h⟩

/-- No call takes a rejection for an answer. -/
theorem gets_invalid : k.Gets [typed eibInvalidRequest []] (.error .econnreset) :=
  k.gets_of_complete (by decide) (by cases k <;> rfl)

/-- A call that has no name for a processing error takes it for a broken connection. -/
theorem gets_processing (h : k.completion.errors.find? (·.1 = eibProcessingError) = none) :
    k.Gets [typed eibProcessingError []] (.error .econnreset) := by
  have htype : eibProcessingError ≠ k.completion.type := by
    cases k <;> (dsimp only [completion]; decide)
  have hreply : reqWord (typed eibProcessingError []) 0 = eibProcessingError := rfl
  refine k.gets_of_complete (by decide) ?_
  rw [Completion.complete, hreply, h]
  exact if_pos (.inl htype)

/-! ### The layout of the replies -/

theorem completion_errors : k.completion.errors.find? (·.1 = k.completion.type) = none := by
  cases k <;> rfl

theorem gets_typed (rest : CArray) {o : CallOutcome} (hlen : rest.length ≤ 65533)
    (hsize : k.completion.size ≤ 2 + rest.length)
    (hfinish : k.completion.finish (typed k.completion.type rest) = .ok o) :
    k.Gets [typed k.completion.type rest] o := by
  have htype : reqWord (typed k.completion.type rest) 0 = k.completion.type :=
    word16_hiByte_loByte _
  have hlength : (typed k.completion.type rest).length = 2 + rest.length := by
    rw [typed, List.length_append]
    rfl
  refine k.gets_of_complete (by omega) ?_
  rw [Completion.complete, htype, completion_errors]
  dsimp only
  rw [if_neg, hfinish]
  rintro (htype | hshort)
  · exact htype rfl
  · omega

end EIBCall

theorem readWord_append (head : CArray) (w : Word16) (rest : CArray) :
    readWord (head ++ (uint16Bytes w ++ rest)) head.length = .ok w := by
  have hhi : readByte (head ++ (uint16Bytes w ++ rest)) head.length = .ok (hiByte w) := by
    simp [readByte, uint16Bytes]
  have hlo : readByte (head ++ (uint16Bytes w ++ rest)) (head.length + 1) = .ok (loByte w) := by
    simp [readByte, uint16Bytes]
  rw [readWord, hhi, Checked.ok_bind, hlo, Checked.ok_bind, word16_hiByte_loByte]
  rfl

theorem returnBuf_append (maxlen : Int) (head data : CArray) (a : Answer) :
    returnBuf maxlen head.length a (head ++ data) = .ok (.ok (.filled maxlen data a)) := by
  have hle : head.length ≤ (head ++ data).length := by simp
  have hrest : (head ++ data).length - head.length = data.length := by simp
  have htake : data.take (min data.length maxlen.toNat) = data.take maxlen.toNat := by
    rw [← List.take_take, List.take_of_length_le (by simp)]
  rw [returnBuf, check, if_pos hle, Checked.ok_bind, hrest, List.drop_left]
  dsimp only
  rw [htake, Answer.filled, List.length_take, Nat.min_comm]
  rfl

theorem Answer.filled_nil (maxlen : Int) : filled maxlen [] {} = {} := by
  simp [filled]

/-- A buffer of the length of the data is filled with them, whatever follows. -/
theorem Answer.filled_append {maxlen : Int} {data : CArray} (h : data.length = maxlen.toNat)
    (rest : CArray) (a : Answer) : filled maxlen (data ++ rest) a = filled maxlen data a := by
  have hsame : (data ++ rest).take maxlen.toNat = data.take maxlen.toNat := by
    rw [List.take_append_of_le_length (by omega)]
  rw [filled, filled, hsame]

/-! ## Sessions -/

/-- The caller's buffer is short enough for a reply that fills it. -/
def EIBCall.Fits : EIBCall → Prop
  | .mcRead _ maxlen => maxlen ≤ 65533
  | _ => True

/-- What is read of a property fits into a reply. -/
def ManagementCalls.ShortProperties {σ : Type} (m : ManagementCalls σ) : Prop :=
  ∀ obj property start count s data,
    (m.propertyRead obj property start count s).1 = some data → data.length ≤ 65533

/-- The replies of a device fit into messages, and a read returns what it was asked for. -/
structure ManagementCalls.Bounded {σ : Type} (m : ManagementCalls σ) : Prop where
  properties : m.ShortProperties
  read : ∀ addr len s data, (m.memoryReadBlock addr len s).1 = some data → data.length = len.toNat
  scan : ∀ s ps, (m.propertyScan s).1 = some ps → ps.length ≤ 10922

/-- A pass of the loop answers the call as `r` says, and leaves the loop when `r` says so. -/
structure EIBCall.Passes {σ : Type} (k : EIBCall) (u : Turn σ) (r : CallOutcome × Bool × σ) :
    Prop where
  gets : k.Gets u.sent r.1
  device : u.device = r.2.2
  goes : r.2.1 = decide (u.i ≠ -1)

namespace EIBCall

variable {σ α : Type} {k : EIBCall}

theorem passes_answer {reply : α → CArray} {r : Option α × σ} {f : α → Answer}
    (h : ∀ a, r.1 = some a → k.Gets [reply a] (.ok (f a))) :
    k.Passes (answer reply r) ((EibdCalls.lift f r).1, true, (EibdCalls.lift f r).2) := by
  obtain ⟨_ | a, s⟩ := r
  · exact ⟨k.gets_invalid, rfl, rfl⟩
  · exact ⟨h a rfl, rfl, rfl⟩

/-- A reply without a value. -/
theorem passes_answer_ok {reply : α → CArray} {r : Option α × σ}
    (h : ∀ a, k.Gets [reply a] (.ok {})) :
    k.Passes (answer reply r)
      ((EibdCalls.lift (fun _ => {}) r).1, true, (EibdCalls.lift (fun _ => {}) r).2) :=
  passes_answer fun a _ => h a

theorem passes_invalid (k : EIBCall) (s : σ) :
    k.Passes (reject eibInvalidRequest s) (.error .econnreset, true, s) :=
  ⟨k.gets_invalid, rfl, rfl⟩

end EIBCall

section PropertyCommands

variable {σ : Type} {m : ManagementCalls σ} (fresh : Nat → Byte) (obj propertyno nrOfElem : Byte)
  (start : Word16) (maxlen : Int) (s : σ)

theorem passes_propRead (hm : m.ShortProperties) :
    let k := EIBCall.mcPropertyRead obj propertyno start nrOfElem maxlen
    let r := EibdCalls.localProperty m k s
    k.Passes (m.propRead fresh k.request.bytes s) (r.1, true, r.2) := by
  intro k
  have hstart : reqWord k.request.bytes 4 = start := word16_hiByte_loByte start
  show k.Passes (answer (fun data => built fresh [] 2 MCRequest.propRead.type data)
    (m.propertyRead obj propertyno (reqWord k.request.bytes 4) nrOfElem s)) _
  rw [hstart]
  refine EIBCall.passes_answer fun data hdata => ?_
  rw [(built_eq_typed_iff fresh [] 2 _ data).mpr (by omega)]
  exact k.gets_typed data (hm _ _ _ _ _ _ hdata) (Nat.le_add_right 2 _)
    (returnBuf_append maxlen (typeBytes MCRequest.propRead.type) data {})

theorem passes_propWrite (buf : CArray) :
    let k := EIBCall.mcPropertyWrite obj propertyno start nrOfElem buf maxlen
    let r := EibdCalls.localProperty m k s
    k.Passes (m.propWrite fresh k.request.bytes s) (r.1, true, r.2) := by
  intro k
  have hstart : reqWord k.request.bytes 4 = start := word16_hiByte_loByte start
  have hlong : ¬ k.request.bytes.length < 7 := by
    show ¬ buf.length + 7 < 7
    omega
  rw [ManagementCalls.propWrite, if_neg hlong, hstart]
  refine EIBCall.passes_answer_ok fun erg => ?_
  rw [(built_eq_typed_iff fresh erg 2 _ []).mpr (by decide)]
  refine k.gets_typed [] (by decide) (Nat.le_refl 2) ?_
  rw [← Answer.filled_nil maxlen]
  exact returnBuf_append maxlen (typeBytes MCRequest.propWrite.type) [] {}

end PropertyCommands

section MemoryCommands

variable {σ : Type} {m : ManagementCalls σ} (fresh : Nat → Byte) (addr : Word16) (s : σ)

theorem passes_memRead (hm : m.Bounded) {maxlen : Int} (hvalid : 0 ≤ maxlen)
    (hfits : maxlen ≤ 65533) :
    let k := EIBCall.mcRead addr maxlen
    k.Passes (m.memRead fresh k.request.bytes s) (EibdCalls.localSession m k s) := by
  intro k
  have haddr : reqWord k.request.bytes 2 = addr := word16_hiByte_loByte addr
  have hlen : reqWord k.request.bytes 4 = BitVec.ofInt 16 maxlen := word16_hiByte_loByte _
  have hlenNat : (BitVec.ofInt 16 maxlen).toNat = maxlen.toNat := by
    rw [BitVec.toNat_ofInt, Int.emod_eq_of_lt hvalid (by omega)]
  show k.Passes (answer (fun data => built fresh [] 6 MCRequest.read.type data)
    (m.memoryReadBlock (reqWord k.request.bytes 2) (reqWord k.request.bytes 4) s)) _
  rw [haddr, hlen]
  refine EIBCall.passes_answer fun data hdata => ?_
  have hexact : data.length = maxlen.toNat := by rw [hm.read _ _ _ _ hdata, hlenNat]
  -- what the array has behind the data does not fit into the buffer of the caller
  rw [built_eq, typed, List.append_assoc, ← typed, ← Answer.filled_append hexact]
  refine k.gets_typed _ ?_ (Nat.le_add_right 2 _)
    (returnBuf_append maxlen (typeBytes MCRequest.read.type) _ {})
  rw [List.length_append, List.length_drop, length_regrow]
  omega

/-- The fields of a write. -/
theorem write_fields {type : Word16} {buf : CArray} (hvalid : buf.length ≤ 65529) :
    let c := typed type (uint16Bytes addr ++ lenBytes buf.length ++ buf)
    reqWord c 2 = addr ∧ (reqWord c 4).toNat + 6 = c.length ∧ reqData c = buf := by
  intro c
  have haddr : reqWord c 2 = addr := word16_hiByte_loByte addr
  have hlen : reqWord c 4 = BitVec.ofInt 16 buf.length := word16_hiByte_loByte _
  have hlenNat : (BitVec.ofInt 16 buf.length).toNat = buf.length := by
    rw [BitVec.toNat_ofInt, Int.emod_eq_of_lt (by omega) (by omega)]
    omega
  have hdata : c.drop 6 = buf := rfl
  refine ⟨haddr, ?_, ?_⟩
  · rw [hlen, hlenNat]
    rfl
  · rw [reqData, hdata, hlen, hlenNat, List.take_length]

theorem passes_memWrite {buf : CArray} (hvalid : buf.length ≤ 65529) :
    let k := EIBCall.mcWrite addr buf
    k.Passes (m.memWrite k.request.bytes s) (EibdCalls.localSession m k s) := by
  intro k
  obtain ⟨haddr, hlen, hdata⟩ : reqWord k.request.bytes 2 = addr ∧
      (reqWord k.request.bytes 4).toNat + 6 = k.request.bytes.length ∧
        reqData k.request.bytes = buf := write_fields addr hvalid
  rw [ManagementCalls.memWrite, if_neg (by omega), if_neg (by omega), haddr, hdata]
  show k.Passes _ (EibdCalls.written buf.length (m.memoryWriteBlock addr buf s).1,
    decide ((m.memoryWriteBlock addr buf s).1 ≠ -1), (m.memoryWriteBlock addr buf s).2)
  obtain ⟨i, s'⟩ := m.memoryWriteBlock addr buf s
  dsimp only
  rw [EibdCalls.written]
  split
  · exact ⟨k.gets_of_complete (by decide) rfl, rfl, rfl⟩
  · split
    · exact ⟨k.gets_processing rfl, rfl, rfl⟩
    · exact ⟨k.gets_typed [] (by decide) (Nat.le_refl 2) rfl, rfl, rfl⟩

theorem passes_memWriteNoVerify {buf : CArray} (hvalid : buf.length ≤ 65529) :
    let k := EIBCall.mcWritePlain addr buf
    k.Passes (m.memWriteNoVerify k.request.bytes s) (EibdCalls.localSession m k s) := by
  intro k
  obtain ⟨haddr, hlen, hdata⟩ : reqWord k.request.bytes 2 = addr ∧
      (reqWord k.request.bytes 4).toNat + 6 = k.request.bytes.length ∧
        reqData k.request.bytes = buf := write_fields addr hvalid
  rw [ManagementCalls.memWriteNoVerify, if_neg (by omega), if_neg (by omega), haddr, hdata]
  show k.Passes _ (if (m.memoryWriteBlockNoVerify addr buf s).1 = 0 then _ else _,
    decide ((m.memoryWriteBlockNoVerify addr buf s).1 ≠ -1),
    (m.memoryWriteBlockNoVerify addr buf s).2)
  obtain ⟨i, s'⟩ := m.memoryWriteBlockNoVerify addr buf s
  dsimp only
  by_cases hi : i = 0
  · rw [if_neg (not_not_intro hi), if_pos hi]
    exact ⟨k.gets_typed [] (by decide) (Nat.le_refl 2) rfl, rfl, rfl⟩
  · rw [if_pos hi, if_neg hi]
    exact ⟨k.gets_processing rfl, rfl, rfl⟩

end MemoryCommands

section OtherCommands

variable {σ : Type} {m : ManagementCalls σ} (s : σ)

theorem passes_progMode (change : ProgmodeChange) :
    let k := EIBCall.mcProgmode change
    k.Passes (m.progMode k.request.bytes s) (EibdCalls.localSession m k s) := by
  intro k
  have hdone : ∀ u : Unit, k.Gets [typed MCRequest.progMode.type [0#8]] (.ok {}) := fun _ =>
    k.gets_typed [0#8] (by decide) (Nat.le_succ 2) rfl
  cases change with
  | off => exact EIBCall.passes_answer_ok hdone
  | on => exact EIBCall.passes_answer_ok hdone
  | toggle => exact EIBCall.passes_answer_ok hdone

theorem passes_progModeStatus :
    let k := EIBCall.mcProgmodeStatus
    k.Passes (m.progMode k.request.bytes s) (EibdCalls.localSession m k s) := by
  intro k
  have hbranch : ∀ r : Int × σ, k.Passes
      (if r.1 = -1 then
        { i := r.1, sent := [typed eibInvalidRequest []], device := r.2, failed := true }
      else { i := r.1, sent := [typed MCRequest.progMode.type [BitVec.ofInt 8 r.1]], device := r.2 })
      (EibdCalls.status r.1, decide (r.1 ≠ -1), r.2) := by
    intro r
    rw [EibdCalls.status]
    split
    · exact ⟨k.gets_invalid, rfl, rfl⟩
    · exact ⟨k.gets_typed [BitVec.ofInt 8 r.1] (by simp) (Nat.le_refl 3) rfl, rfl, rfl⟩
  exact hbranch (m.progmodeStatus s)

end OtherCommands

/-- A reply that is a word, to a call that returns one. -/
theorem EIBCall.gets_word (k : EIBCall) (hsize : k.completion.size = 4)
    (hfinish : k.completion.finish = returnUInt16 2) (w : Word16) :
    k.Gets [wordReply k.completion.type w] (.ok { value := w.toNat }) := by
  have hword : readWord (typed k.completion.type (uint16Bytes w ++ [])) 2 = .ok w :=
    readWord_append (typeBytes k.completion.type) w []
  refine k.gets_typed [hiByte w, loByte w] (by simp) hsize.le ?_
  rw [hfinish, returnUInt16]
  exact congrArg (· >>= _) hword

theorem length_flatMap_infoBytes (ps : List PropertyInfo) :
    (ps.flatMap infoBytes).length = 6 * ps.length := by
  simp [infoBytes, List.length_flatMap, Nat.mul_comm]

/-- Each call of a session gets the outcome of its operation, and the session ends as it should. -/
theorem passes_session {σ : Type} {m : ManagementCalls σ} (fresh : Nat → Byte) (hm : m.Bounded)
    (k : EIBCall) (s : σ) (hvalid : k.Valid) (hfits : k.Fits) (hreset : k ≠ .reset) :
    k.Passes (m.handle fresh k.request.bytes s) (EibdCalls.localSession m k s) := by
  rw [ManagementCalls.handle, k.ofType_session]
  cases k with
  | reset => exact absurd rfl hreset
  | mcProgmode change => exact passes_progMode s change
  | mcProgmodeStatus => exact passes_progModeStatus s
  | mcGetMaskVersion =>
      exact EIBCall.passes_answer fun v _ => EIBCall.mcGetMaskVersion.gets_word rfl rfl v
  | mcGetPEIType =>
      exact EIBCall.passes_answer fun v _ => EIBCall.mcGetPEIType.gets_word rfl rfl v
  | mcReadADC channel count =>
      refine EIBCall.passes_answer fun v _ => ?_
      refine EIBCall.gets_typed _ [hiByte v, loByte v] (by simp) (Nat.le_refl 4) ?_
      exact congrArg (· >>= _) (readWord_append (typeBytes MCRequest.adcRead.type) v [])
  | mcRead addr maxlen => exact passes_memRead fresh addr s hm hvalid hfits
  | mcWrite addr buf => exact passes_memWrite addr s hvalid
  | mcWritePlain addr buf => exact passes_memWriteNoVerify addr s hvalid
  | mcPropertyRead obj propertyno start nrOfElem maxlen =>
      exact passes_propRead fresh obj propertyno nrOfElem start maxlen s hm.properties
  | mcPropertyWrite obj propertyno start nrOfElem buf maxlen =>
      exact passes_propWrite fresh obj propertyno nrOfElem start maxlen s buf
  | mcAuthorize key =>
      have hkey : reqKey (EIBCall.mcAuthorize key).request.bytes = key := word32_byteOf key
      show EIBCall.Passes _ (answer _ (m.authorize (reqKey (EIBCall.mcAuthorize key).request.bytes) s))
        _
      rw [hkey]
      exact EIBCall.passes_answer fun level _ =>
        EIBCall.gets_typed _ [level] (by simp) (Nat.le_refl 3) rfl
  | mcSetKey key level =>
      have hkey : reqKey (EIBCall.mcSetKey key level).request.bytes = key := word32_byteOf key
      show EIBCall.Passes _ (answer _ (m.keyWrite
        (reqKey (EIBCall.mcSetKey key level).request.bytes) level s)) _
      rw [hkey]
      exact EIBCall.passes_answer_ok fun _ => EIBCall.gets_typed _ [] (by simp) (Nat.le_refl 2) rfl
  | mcPropertyDesc obj propertyno =>
      refine EIBCall.passes_answer fun d _ => ?_
      refine EIBCall.gets_typed _ [d.1, hiByte d.2.1, loByte d.2.1, d.2.2] (by simp)
        (Nat.le_refl 6) ?_
      have hcount := readWord_append (typeBytes MCRequest.propDesc.type ++ [d.1]) d.2.1 [d.2.2]
      exact congrArg (fun x : Checked Word16 => x >>= fun count => (Except.ok (Except.ok
        { ptr2 := some d.1, ptr4 := some count, ptr3 := some d.2.2 }) : Checked CallOutcome)) hcount
  | mcPropertyScan maxlen =>
      refine EIBCall.passes_answer fun ps hps => ?_
      refine EIBCall.gets_typed _ (ps.flatMap infoBytes) ?_ (Nat.le_add_right 2 _)
        (returnBuf_append maxlen (typeBytes MCRequest.propScan.type) _ {})
      have hshort := hm.scan _ _ hps
      rw [length_flatMap_infoBytes]
      omega
  | mcRestart =>
      exact ⟨EIBCall.mcRestart.gets_typed [] (by decide) (by decide) rfl, rfl, rfl⟩
  | _ => exact EIBCall.passes_invalid _ s

/-! ## Requests to `Run` -/

/-- What the operations return fits into messages. -/
structure EibdCalls.Bounded {σ : Type} (w : EibdCalls σ) : Prop where
  connection : ∀ dest, (w.connection dest).Bounded
  individual : ∀ dest, (w.individual dest).ShortProperties
  addresses : ∀ s, (w.individualAddressRead s).1.length ≤ 32766
  cacheRead : ∀ g ∈ w.cache, ∀ dst timeout age s, (g.read dst timeout age s).1.data.length ≤ 65529
  lastUpdates : ∀ g ∈ w.cache, ∀ start timeout s, (g.lastUpdates start timeout s).1.1.length ≤ 32765

namespace EibdCalls

variable {σ : Type} {w : EibdCalls σ} {k : EIBCall}

theorem served_connected {f : ManagementCalls σ → σ → Turn σ}
    {g : ManagementCalls σ → σ → CallOutcome × σ}
    (hk : k.completion.errors.find? (·.1 = eibProcessingError) = none)
    (h : ∀ m s, k.Passes (f m s) ((g m s).1, true, (g m s).2)) (dest : EibAddr) (s : σ) :
    k.Served (w.connected dest s f) (w.withDevice dest s g) := by
  rw [connected, withDevice]
  obtain ⟨_ | _, s'⟩ := w.connect dest s
  · exact ⟨k.gets_processing hk, rfl⟩
  · obtain ⟨hgets, hdevice, -⟩ := h (w.connection dest) s'
    exact ⟨hgets, congrArg (w.disconnect dest) hdevice⟩

theorem length_flatMap_uint16Bytes (ws : List Word16) :
    (ws.flatMap uint16Bytes).length = 2 * ws.length := by
  simp [uint16Bytes, List.length_flatMap, Nat.mul_comm]

variable (s : σ)

theorem served_readIndividualAddresses (hw : w.Bounded) (maxlen : Int) :
    let k := EIBCall.mReadIndividualAddresses maxlen
    k.Served (w.readIndividualAddresses s) (w.localRun k s) := by
  intro k
  show k.Served _ (w.localReadAddresses maxlen s)
  rw [readIndividualAddresses, localReadAddresses]
  obtain ⟨_ | _, s'⟩ := w.openBroadcast s
  · exact ⟨k.gets_processing rfl, rfl⟩
  · have hshort : ((w.individualAddressRead s').1.flatMap uint16Bytes).length ≤ 65533 := by
      have := hw.addresses s'
      rw [length_flatMap_uint16Bytes]
      omega
    exact ⟨k.gets_typed _ hshort (Nat.le_add_right 2 _)
      (returnBuf_append maxlen (typeBytes eibMIndividualAddressRead) _ {}), rfl⟩

theorem served_changeProgMode (change : ProgmodeChange) (dest : EibAddr) :
    let k := EIBCall.mProgmode change dest
    k.Served (w.changeProgMode k.request.bytes s) (w.localRun k s) := by
  intro k
  have hdest : reqWord k.request.bytes 2 = dest := word16_hiByte_loByte dest
  have hlong : ¬ k.request.bytes.length < 5 := Nat.lt_irrefl 5
  have hdone : ∀ u : Unit, k.Gets [typed eibProgMode [0#8]] (.ok {}) := fun _ =>
    k.gets_typed [0#8] (by decide) (Nat.le_succ 2) rfl
  rw [changeProgMode, if_neg hlong, hdest]
  refine served_connected rfl (fun m s => ?_) dest s
  cases change with
  | off => exact EIBCall.passes_answer_ok hdone
  | on => exact EIBCall.passes_answer_ok hdone
  | toggle => exact EIBCall.passes_answer_ok hdone

theorem served_progModeStatus (dest : EibAddr) :
    let k := EIBCall.mProgmodeStatus dest
    k.Served (w.changeProgMode k.request.bytes s) (w.localRun k s) := by
  intro k
  have hdest : reqWord k.request.bytes 2 = dest := word16_hiByte_loByte dest
  have hlong : ¬ k.request.bytes.length < 5 := Nat.lt_irrefl 5
  have hbranch : ∀ r : Int × σ, k.Passes
      (if r.1 = -1 then reject eibInvalidRequest r.2
      else { sent := [typed eibProgMode [BitVec.ofInt 8 r.1]], device := r.2 })
      (status r.1, true, r.2) := by
    intro r
    rw [status]
    split
    · exact k.passes_invalid r.2
    · exact ⟨k.gets_typed [BitVec.ofInt 8 r.1] (by simp) (Nat.le_refl 3) rfl, rfl, rfl⟩
  rw [changeProgMode, if_neg hlong, hdest]
  exact served_connected rfl (fun m s => hbranch (m.progmodeStatus s)) dest s

theorem served_getMaskVersion (dest : EibAddr) :
    let k := EIBCall.mGetMaskVersion dest
    k.Served (w.getMaskVersion k.request.bytes s) (w.localRun k s) := by
  intro k
  have hdest : reqWord k.request.bytes 2 = dest := word16_hiByte_loByte dest
  have hlong : ¬ k.request.bytes.length < 4 := Nat.lt_irrefl 4
  rw [getMaskVersion, if_neg hlong, hdest]
  exact served_connected rfl
    (fun m s => EIBCall.passes_answer fun v _ => k.gets_word rfl rfl v) dest s

/-- The outcomes of an assignment. -/
theorem served_assign (dest : EibAddr) :
    let k := EIBCall.mWriteIndividualAddress dest
    k.Served (w.assignIndividualAddress dest s) (w.assign dest s) := by
  intro k
  rw [assignIndividualAddress, assign]
  obtain ⟨addr, s'⟩ := w.individualAddressRead s
  dsimp only
  split
  · exact ⟨k.gets_of_complete (by decide) rfl, rfl⟩
  · split
    · exact ⟨k.gets_of_complete (by decide) rfl, rfl⟩
    · refine served_connected rfl (fun m1 s => ?_) dest _
      obtain ⟨_ | v, s⟩ := m1.deviceDescriptorRead s
      · exact ⟨k.gets_processing rfl, rfl, rfl⟩
      · dsimp only
        obtain ⟨_ | u, s⟩ := m1.progmodeOff s
        · exact ⟨k.gets_processing rfl, rfl, rfl⟩
        · exact ⟨k.gets_typed [] (by decide) (Nat.le_refl 2) rfl, rfl, rfl⟩

theorem served_writeIndividualAddress (dest : EibAddr) :
    let k := EIBCall.mWriteIndividualAddress dest
    k.Served (w.writeIndividualAddress k.request.bytes s) (w.localRun k s) := by
  intro k
  have hdest : reqWord k.request.bytes 2 = dest := word16_hiByte_loByte dest
  have hfailed := k.gets_processing rfl
  have hlong : ¬ k.request.bytes.length < 4 := Nat.lt_irrefl 4
  show k.Served _ (w.localWriteAddress dest s)
  rw [writeIndividualAddress, if_neg hlong, hdest, localWriteAddress]
  dsimp only
  obtain ⟨_ | _, s'⟩ := w.openBroadcast s
  · exact ⟨hfailed, rfl⟩
  · dsimp only
    obtain ⟨_ | _, s'⟩ := w.connect dest s'
    · exact ⟨hfailed, rfl⟩
    · dsimp only
      obtain ⟨_ | v, s'⟩ := (w.connection dest).deviceDescriptorRead s'
      · obtain ⟨hgets, hstate⟩ := served_assign (w := w) (w.disconnect dest s') dest
        exact ⟨hgets, congrArg w.closeBroadcast hstate⟩
      · exact ⟨k.gets_of_complete (by decide) rfl, rfl⟩

theorem served_loadImage (image : CArray) :
    let k := EIBCall.loadImage image
    k.Served (w.loadImageRequest k.request.bytes s) (w.localRun k s) := by
  intro k
  have hcode : ∀ r : BCULoadResult, r.ctorIdx < 2 ^ 16 := by
    intro r
    cases r <;> decide
  have hreply : ∀ r : BCULoadResult, k.Gets
      [typed eibLoadImage (uint16Bytes (BitVec.ofNat 16 r.ctorIdx))] (.ok { value := r.ctorIdx }) := by
    intro r
    have h := k.gets_word rfl rfl (BitVec.ofNat 16 r.ctorIdx)
    rwa [BitVec.toNat_ofNat, Nat.mod_eq_of_lt (hcode r)] at h
  exact ⟨hreply _, rfl⟩

/-! ### The group cache -/

theorem served_cache {r : CacheRequest} {c : CArray} {f : GroupCacheCalls σ → CallOutcome × σ}
    (h : ∀ g, w.cache = some g → k.Served (w.groupCacheRequest r c s) (f g)) :
    k.Served (w.groupCacheRequest r c s) (w.withCache s f) := by
  rw [withCache]
  cases hcache : w.cache with
  | none =>
      rw [groupCacheRequest, hcache]
      exact ⟨k.gets_invalid, rfl⟩
  | some g => exact h g hcache

/-- What a reading call makes of an entry. -/
theorem finishCacheRead_typed (maxlen : Int) (type : Word16) (gc : GroupCacheEntry) :
    finishCacheRead maxlen (typed type (uint16Bytes gc.src ++ uint16Bytes gc.dst ++ gc.data)) =
      .ok (cached maxlen gc) := by
  have hdst := readWord_append (typeBytes type ++ uint16Bytes gc.src) gc.dst gc.data
  have hsrc := readWord_append (typeBytes type) gc.src (uint16Bytes gc.dst ++ gc.data)
  have hbuf := returnBuf_append maxlen (typeBytes type ++ uint16Bytes gc.src ++ uint16Bytes gc.dst)
    gc.data { ptr5 := some gc.src }
  have hlen : (typed type (uint16Bytes gc.src ++ uint16Bytes gc.dst ++ gc.data)).length =
      gc.data.length + 6 := rfl
  rw [finishCacheRead, cached, hlen]
  refine (congrArg (· >>= _) hdst).trans ?_
  rw [Checked.ok_bind]
  split
  · rfl
  · by_cases hnil : gc.data = []
    · rw [if_pos hnil, hnil]
      rfl
    · have hpos := List.length_pos_iff.mpr hnil
      rw [if_neg hnil, if_neg (by omega)]
      refine (congrArg (· >>= _) hsrc).trans ?_
      rw [Checked.ok_bind]
      exact hbuf

theorem served_cacheReply {g : GroupCacheCalls σ} {maxlen : Int} {dst : EibAddr} {timeout : Nat}
    {age : Word16} (hsize : k.completion.size = 2)
    (hfinish : k.completion.finish = finishCacheRead maxlen)
    (hshort : (g.read dst timeout age s).1.data.length ≤ 65529) :
    k.Served (cacheReply g k.completion.type dst timeout age s)
      (cached maxlen (g.read dst timeout age s).1, (g.read dst timeout age s).2) := by
  refine ⟨k.gets_typed _ ?_ ?_ ?_, rfl⟩
  · show (g.read dst timeout age s).1.data.length + 4 ≤ 65533
    omega
  · omega
  · rw [hfinish, finishCacheRead_typed]

theorem served_cacheRead (hw : w.Bounded) (dst : EibAddr) (maxlen : Int) :
    let k := EIBCall.cacheRead dst maxlen
    k.Served (w.groupCacheRequest .readNowait k.request.bytes s) (w.localRun k s) := by
  intro k
  have hdst : reqWord k.request.bytes 2 = dst := word16_hiByte_loByte dst
  have hlong : ¬ k.request.bytes.length < 4 := Nat.lt_irrefl 4
  refine served_cache s fun g hg => ?_
  rw [groupCacheRequest, hg]
  dsimp only
  rw [if_neg hlong, hdst]
  exact served_cacheReply s rfl rfl (hw.cacheRead g hg _ _ _ _)

theorem served_cacheReadSync (hw : w.Bounded) (dst : EibAddr) (maxlen : Int) (age : Word16) :
    let k := EIBCall.cacheReadSync dst maxlen age
    k.Served (w.groupCacheRequest .read k.request.bytes s) (w.localRun k s) := by
  intro k
  have hdst : reqWord k.request.bytes 2 = dst := word16_hiByte_loByte dst
  have hage : reqWord k.request.bytes 4 = age := word16_hiByte_loByte age
  have hlong : ¬ k.request.bytes.length < 6 := Nat.lt_irrefl 6
  refine served_cache s fun g hg => ?_
  rw [groupCacheRequest, hg]
  dsimp only
  rw [if_neg (by omega), if_neg hlong, hdst, hage]
  exact served_cacheReply s rfl rfl (hw.cacheRead g hg _ _ _ _)

theorem served_cacheLastUpdates (hw : w.Bounded) (start : Word16) (timeout : Byte) (maxlen : Int) :
    let k := EIBCall.cacheLastUpdates start timeout maxlen
    k.Served (w.groupCacheRequest .lastUpdates k.request.bytes s) (w.localRun k s) := by
  intro k
  have hstart : reqWord k.request.bytes 2 = start := word16_hiByte_loByte start
  have htimeout : reqByte k.request.bytes 4 = timeout := rfl
  have hlong : ¬ k.request.bytes.length < 5 := Nat.lt_irrefl 5
  have hreply : ∀ r : (List EibAddr × Word16) × σ, r.1.1.length ≤ 32765 →
      k.Served ([typed eibCacheLastUpdates (uint16Bytes r.1.2 ++ r.1.1.flatMap uint16Bytes)], r.2)
        (.ok (.filled maxlen (r.1.1.flatMap uint16Bytes) { ptr4 := some r.1.2 }), r.2) := by
    rintro ⟨⟨addrs, ende⟩, s'⟩ hshort
    have hende := readWord_append (typeBytes eibCacheLastUpdates) ende (addrs.flatMap uint16Bytes)
    have hbuf := returnBuf_append maxlen (typeBytes eibCacheLastUpdates ++ uint16Bytes ende)
      (addrs.flatMap uint16Bytes) { ptr4 := some ende }
    refine ⟨k.gets_typed _ ?_ (Nat.le_add_right 2 _) ?_, rfl⟩
    · rw [List.length_append, length_flatMap_uint16Bytes]
      show 2 + 2 * addrs.length ≤ 65533
      dsimp only at hshort
      omega
    · refine (congrArg (· >>= _) hende).trans ?_
      rw [Checked.ok_bind]
      exact hbuf
  refine served_cache s fun g hg => ?_
  rw [groupCacheRequest, hg]
  dsimp only
  rw [if_neg hlong, hstart, htimeout]
  exact hreply _ (hw.lastUpdates g hg start timeout s)

theorem served_cacheRemove (dest : EibAddr) :
    let k := EIBCall.cacheRemove dest
    k.Served (w.groupCacheRequest .remove k.request.bytes s) (w.localRun k s) := by
  intro k
  have hdest : reqWord k.request.bytes 2 = dest := word16_hiByte_loByte dest
  have hlong : ¬ k.request.bytes.length < 4 := Nat.lt_irrefl 4
  refine served_cache s fun g hg => ?_
  rw [groupCacheRequest, hg]
  dsimp only
  rw [if_neg hlong, hdest]
  exact ⟨k.gets_typed [] (by decide) (Nat.le_refl 2) rfl, rfl⟩

theorem served_cacheEnable (c : CArray) :
    EIBCall.cacheEnable.Served (w.groupCacheRequest .enable c s) (w.localRun .cacheEnable s) := by
  have hlocal : w.localRun .cacheEnable s = w.withCache s fun g =>
      (if (g.start s).1 then .ok {} else .error .ebusy, (g.start s).2) := rfl
  rw [hlocal]
  refine served_cache s fun g hg => ?_
  rw [groupCacheRequest, hg]
  dsimp only
  obtain ⟨_ | _, s'⟩ := g.start s
  · exact ⟨EIBCall.gets_of_complete _ (by decide) rfl, rfl⟩
  · exact ⟨EIBCall.gets_of_complete _ (by decide) rfl, rfl⟩

/-- `EIB_Cache_Disable` and `EIB_Cache_Clear`. -/
theorem served_cacheChange (c : CArray) :
    EIBCall.cacheDisable.Served (w.groupCacheRequest .disable c s) (w.localRun .cacheDisable s) ∧
      EIBCall.cacheClear.Served (w.groupCacheRequest .clear c s) (w.localRun .cacheClear s) := by
  refine ⟨served_cache s fun g hg => ?_, served_cache s fun g hg => ?_⟩
  · rw [groupCacheRequest, hg]
    exact ⟨EIBCall.gets_of_complete _ (by decide) rfl, rfl⟩
  · rw [groupCacheRequest, hg]
    exact ⟨EIBCall.gets_of_complete _ (by decide) rfl, rfl⟩

/-! ## Calls -/

theorem served_handled {r : List CArray × σ} {o : CallOutcome × σ} (h : k.Served r o) :
    k.Served (handled r) (o.1, ⟨.run, o.2⟩) :=
  ⟨h.1, congrArg (ClientSession.mk .run) h.2⟩

/-- `EIB_MC_Connect`. -/
theorem served_managementConnection (dest : EibAddr) :
    let k := EIBCall.mcConnect dest
    k.Served (w.managementConnection k.request.bytes s) (w.localConnect dest s) := by
  intro k
  have hdest : reqWord k.request.bytes 2 = dest := word16_hiByte_loByte dest
  have hlong : ¬ k.request.bytes.length < 4 := Nat.lt_irrefl 4
  rw [managementConnection, if_neg hlong, hdest, localConnect]
  dsimp only
  obtain ⟨_ | _, s'⟩ := w.connect dest s
  · exact ⟨k.gets_processing rfl, rfl⟩
  · dsimp only
    obtain ⟨_ | v, s'⟩ := (w.connection dest).deviceDescriptorRead s'
    · exact ⟨k.gets_invalid, rfl⟩
    · exact ⟨k.gets_typed [] (by decide) (Nat.le_refl 2) rfl, rfl⟩

/-- `EIB_MC_Individual_Open`. -/
theorem served_managementIndividual (dest : EibAddr) :
    let k := EIBCall.mcIndividualOpen dest
    k.Served (w.managementIndividual k.request.bytes s) (w.localOpenIndividual dest s) := by
  intro k
  have hdest : reqWord k.request.bytes 2 = dest := word16_hiByte_loByte dest
  have hlong : ¬ k.request.bytes.length < 4 := Nat.lt_irrefl 4
  rw [managementIndividual, if_neg hlong, hdest, localOpenIndividual]
  dsimp only
  obtain ⟨_ | _, s'⟩ := w.openIndividual dest s
  · exact ⟨k.gets_processing rfl, rfl⟩
  · exact ⟨k.gets_typed [] (by decide) (Nat.le_refl 2) rfl, rfl⟩

/-- `Run` serves every call. -/
theorem served_run (hw : w.Bounded) (fresh : Nat → Byte) (k : EIBCall) :
    ∃ r, w.serve fresh ⟨.run, s⟩ k.request.bytes = some r ∧
      k.Served r (w.localServed ⟨.run, s⟩ k) := by
  have hserve : w.serve fresh ⟨.run, s⟩ k.request.bytes = w.runPass k.request.bytes s := rfl
  rw [hserve, runPass, if_neg (by rw [k.not_opens]; decide), k.ofType_run]
  refine ⟨_, rfl, ?_⟩
  cases k with
  | mReadIndividualAddresses maxlen =>
      exact served_handled (served_readIndividualAddresses s hw maxlen)
  | mProgmode change dest => exact served_handled (served_changeProgMode s change dest)
  | mProgmodeStatus dest => exact served_handled (served_progModeStatus s dest)
  | mGetMaskVersion dest => exact served_handled (served_getMaskVersion s dest)
  | mWriteIndividualAddress dest => exact served_handled (served_writeIndividualAddress s dest)
  | loadImage image => exact served_handled (served_loadImage s image)
  | cacheEnable => exact served_handled (served_cacheEnable s _)
  | cacheDisable => exact served_handled (served_cacheChange s _).1
  | cacheClear => exact served_handled (served_cacheChange s _).2
  | cacheRemove dest => exact served_handled (served_cacheRemove s dest)
  | cacheRead dst maxlen => exact served_handled (served_cacheRead s hw dst maxlen)
  | cacheReadSync dst maxlen age => exact served_handled (served_cacheReadSync s hw dst maxlen age)
  | cacheLastUpdates start timeout maxlen =>
      exact served_handled (served_cacheLastUpdates s hw start timeout maxlen)
  | reset => exact ⟨EIBCall.gets_typed _ [] (by decide) (Nat.le_refl 2) rfl, rfl⟩
  | mcConnect dest => exact served_managementConnection s dest
  | mcIndividualOpen dest => exact served_managementIndividual s dest
  | _ => exact ⟨EIBCall.gets_invalid _, rfl⟩

theorem served_sessionPass {serving : Serving} {close : σ → σ} {u : Turn σ}
    {r : CallOutcome × Bool × σ} (hreset : k ≠ .reset) (h : k.Passes u r) :
    k.Served (sessionPass u k.request.bytes serving close)
      (r.1, if r.2.1 then ⟨serving, r.2.2⟩ else ⟨.run, close r.2.2⟩) := by
  obtain ⟨hgets, hdevice, hgoes⟩ := h
  rw [sessionPass, hgoes, ← hdevice]
  by_cases hi : u.i = -1
  · rw [if_pos hi, if_neg (mt k.type_eq_reset_iff.mp hreset)]
    dsimp only
    rw [List.append_nil]
    exact ⟨hgets, (if_neg (by simpa using hi)).symm⟩
  · rw [if_neg hi]
    exact ⟨hgets, (if_pos (by simpa using hi)).symm⟩

/-- The session is over, and `Run` answers. -/
theorem served_reset (serving : Serving) (close : σ → σ) (s : σ) :
    EIBCall.reset.Served
      (sessionPass { i := -1, sent := [], device := s } EIBCall.reset.request.bytes serving close)
      (.ok {}, ⟨.run, close s⟩) := by
  rw [sessionPass, if_pos rfl, if_pos ((EIBCall.type_eq_reset_iff _).mpr rfl)]
  exact ⟨EIBCall.gets_typed _ [] (by decide) (Nat.le_refl 2) rfl, rfl⟩

/-- The loop of `ManagementIndividual` serves every call. -/
theorem passes_individual {m : ManagementCalls σ} (fresh : Nat → Byte) (hm : m.ShortProperties)
    (k : EIBCall) (s : σ) (hreset : k ≠ .reset) :
    k.Passes (m.handleIndividual fresh k.request.bytes s)
      ((localProperty m k s).1, true, (localProperty m k s).2) := by
  rw [ManagementCalls.handleIndividual, k.ofType_session]
  cases k with
  | reset => exact absurd rfl hreset
  | mcPropertyRead obj propertyno start nrOfElem maxlen =>
      exact passes_propRead fresh obj propertyno nrOfElem start maxlen s hm
  | mcPropertyWrite obj propertyno start nrOfElem buf maxlen =>
      exact passes_propWrite fresh obj propertyno nrOfElem start maxlen s buf
  | _ => exact EIBCall.passes_invalid _ s

/-- Wherever the client is, the daemon serves its call with one reply. -/
theorem served (hw : w.Bounded) (fresh : Nat → Byte) (t : ClientSession σ) (k : EIBCall)
    (hvalid : k.Valid) (hfits : k.Fits) :
    ∃ r, w.serve fresh t k.request.bytes = some r ∧ k.Served r (w.localServed t k) := by
  obtain ⟨serving, s⟩ := t
  cases serving with
  | run => exact served_run s hw fresh k
  | connection dest =>
      refine ⟨_, rfl, ?_⟩
      by_cases hreset : k = .reset
      · subst hreset
        exact served_reset (.connection dest) (w.disconnect dest) s
      · exact served_sessionPass hreset
          (passes_session fresh (hw.connection dest) k s hvalid hfits hreset)
  | individual dest =>
      refine ⟨_, rfl, ?_⟩
      by_cases hreset : k = .reset
      · subst hreset
        exact served_reset (.individual dest) (w.closeIndividual dest) s
      · have hlocal : w.localServed ⟨.individual dest, s⟩ k =
            ((localProperty (w.individual dest) k s).1,
              ⟨.individual dest, (localProperty (w.individual dest) k s).2⟩) := by
          cases k with
          | reset => exact absurd rfl hreset
          | _ => rfl
        rw [hlocal]
        exact served_sessionPass hreset
          (passes_individual fresh (hw.individual dest) k s hreset)

/-- A call through the socket is the call of its operation, and leaves no reply behind. -/
theorem remoteCall_eq (hw : w.Bounded) (fresh : Nat → Byte) (t : ClientSession σ) (k : EIBCall)
    (hfits : k.Fits) :
    w.remoteCall fresh ⟨t, []⟩ k =
      .ok (some (w.localCall t k).1, ⟨(w.localCall t k).2, []⟩) := by
  rw [remoteCall, localCall]
  by_cases hvalid : k.Valid
  · obtain ⟨msg, hsend, hmsg⟩ := k.send_of_valid hvalid
    obtain ⟨⟨sent, t'⟩, hserve, ⟨reply, hsent, hlen, hcomplete⟩, hstate⟩ :=
      served hw fresh t k hvalid hfits
    dsimp only at hsent hstate
    subst hsent hstate
    rw [hsend, if_pos hvalid]
    dsimp only
    rw [hmsg, hserve]
    dsimp only [List.nil_append]
    rw [takeReply]
    dsimp only
    rw [if_pos hlen, hcomplete, Checked.ok_bind]
    rfl
  · rw [k.send_of_not_valid hvalid, if_neg hvalid]

/-- A device whose memory is full of one byte, behind an eibd without a group cache. -/
def plainEibd : EibdCalls Unit where
  connect _ s := (true, s)
  connection _ := { ManagementSession.smallDevice with
    memoryReadBlock := fun _ len s => (some (List.replicate len.toNat 0x42#8), s) }
  disconnect _ s := s
  openIndividual _ s := (false, s)
  individual _ := ManagementSession.smallDevice
  closeIndividual _ s := s
  openBroadcast s := (false, s)
  individualAddressRead s := ([], s)
  individualAddressWrite _ s := s
  closeBroadcast s := s
  loadImage _ s := (.noDeviceConnection, s)
  cache := none

theorem plainEibd_bounded : plainEibd.Bounded where
  connection _ :=
    { properties := by
        rintro obj property start count s data h
        cases h
        decide
      read := by
        rintro addr len s data h
        cases h
        exact List.length_replicate
      scan := by
        rintro s ps h
        cases h }
  individual _ := by
    rintro obj property start count s data h
    cases h
    decide
  addresses _ := Nat.zero_le _
  cacheRead g h := by cases h
  lastUpdates g h := by cases h

end EibdCalls

end BcuSdk.Eibd
