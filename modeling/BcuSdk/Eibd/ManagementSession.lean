/-
  BcuSdk.Eibd.ManagementSession

  `ManagementConnection` and `ManagementIndividual`
  (eibd/libserver/managementclient.cpp): a client works on a device, one request
  after the other.

  The device operations behind the requests are arbitrary, and so is what they
  return.  The loop goes on while `i` is not -1; `i` is the result of reading the
  request, and three of the branches store the result of an operation in it.
-/
import BcuSdk.Eibd.Connection
import BcuSdk.Lib.Buffer
import BcuSdk.Lib.Run

namespace BcuSdk.Eibd

open BcuSdk.Lib

/-! ## Requests -/

/-- The requests the loops know. -/
inductive MCRequest where
  | progMode
  | maskVersion
  | peiType
  | adcRead
  | read
  | write
  | propRead
  | propWrite
  | authorize
  | keyWrite
  | propDesc
  | propScan
  | resetConnection
  | restart
  | writeNoVerify
  deriving DecidableEq, Repr

/-- `EIB_MC_PROG_MODE` and the others. -/
def MCRequest.type : MCRequest → Word16
  | .progMode => 0x0060#16
  | .maskVersion => 0x0059#16
  | .peiType => 0x0055#16
  | .adcRead => 0x0056#16
  | .read => 0x0051#16
  | .write => 0x0052#16
  | .propRead => 0x0053#16
  | .propWrite => 0x0054#16
  | .authorize => 0x0057#16
  | .keyWrite => 0x0058#16
  | .propDesc => 0x0061#16
  | .propScan => 0x0062#16
  | .resetConnection => eibResetConnection
  | .restart => 0x005a#16
  | .writeNoVerify => 0x005b#16

/-- The request with a type. -/
def MCRequest.ofType (type : Word16) : Option MCRequest :=
  [.progMode, .maskVersion, .peiType, .adcRead, .read, .write, .propRead, .propWrite, .authorize,
    .keyWrite, .propDesc, .propScan, .resetConnection, .restart, .writeNoVerify].find?
      fun r => r.type = type

theorem MCRequest.ofType_eq_reset_iff {type : Word16} :
    MCRequest.ofType type = some .resetConnection ↔ type = eibResetConnection := by
  constructor
  · intro h
    have htype := List.find?_some h
    exact (of_decide_eq_true htype).symm
  · rintro rfl
    decide

/-- `EIB_INVALID_REQUEST`. -/
def eibInvalidRequest : Word16 := 0x0000#16

/-- `EIB_PROCESSING_ERROR`. -/
def eibProcessingError : Word16 := 0x0002#16

/-- `EIB_ERROR_VERIFY`. -/
def eibErrorVerify : Word16 := 0x0044#16

/-- `EIB_MC_CONNECTION`. -/
def eibMCConnection : Word16 := 0x0050#16

/-- The two bytes `EIBSETTYPE` writes. -/
def typeBytes (type : Word16) : CArray := [hiByte type, loByte type]

/-- A reply: its type, and what follows. -/
def typed (type : Word16) (rest : CArray) : CArray := typeBytes type ++ rest

/-- A reply that is built in an array: `erg.resize (n)`, `EIBSETTYPE (erg, type)` and
    `erg.setpart (data, 2)`. -/
def built (fresh : Nat → Byte) (erg : CArray) (n : Nat) (type : Word16) (data : CArray) : CArray :=
  setpart (setpart (regrow fresh erg n) (typeBytes type) 0) data 2

/-- What is left of the array behind the data stays in the reply. -/
theorem built_eq (fresh : Nat → Byte) (erg : CArray) (n : Nat) (type : Word16) (data : CArray) :
    built fresh erg n type data =
      typed type data ++ (regrow fresh erg n).drop (2 + data.length) := by
  have htype : setpart (regrow fresh erg n) (typeBytes type) 0 =
      typeBytes type ++ (regrow fresh erg n).drop 2 := rfl
  have hlen : (typeBytes type).length = 2 := rfl
  rw [built, htype, setpart, List.take_append_of_le_length (by rw [hlen]),
    List.take_of_length_le (by rw [hlen]), typed, List.drop_append, hlen,
    List.drop_of_length_le (by rw [hlen]; omega), List.nil_append, List.drop_drop]
  congr 2
  omega

/-- The reply is as it should be exactly if the data fills the array. -/
theorem built_eq_typed_iff (fresh : Nat → Byte) (erg : CArray) (n : Nat) (type : Word16)
    (data : CArray) : built fresh erg n type data = typed type data ↔ n ≤ 2 + data.length := by
  rw [built_eq, List.append_right_eq_self, List.drop_eq_nil_iff, length_regrow]

/-! ### The fields of a request -/

section Fields

variable (c : CArray)

/-- `c->buf[k]`; each branch has compared `size` before it looks. -/
def reqByte (k : Nat) : Byte := c.getD k 0#8

/-- `(c->buf[k] << 8) | (c->buf[k + 1])`. -/
def reqWord (k : Nat) : Word16 := word16 (reqByte c k) (reqByte c (k + 1))

/-- `key`. -/
def reqKey : Word32 := word32 (reqByte c 2) (reqByte c 3) (reqByte c 4) (reqByte c 5)

/-- `CArray (c->buf + 6, len)`. -/
def reqData : CArray := (c.drop 6).take (reqWord c 4).toNat

end Fields

/-! ## The device -/

/-- `PropertyInfo`. -/
structure PropertyInfo where
  obj : Byte
  property : Byte
  type : Byte
  count : Word16
  access : Byte
  deriving DecidableEq, Repr

/-- The operations of `Management_Connection` the loops call, on a device with states `σ`.  Where
    the only failure is a result of -1, `none` stands for it. -/
structure ManagementCalls (σ : Type) where
  deviceDescriptorRead : σ → Option Word16 × σ
  progmodeOff : σ → Option Unit × σ
  progmodeOn : σ → Option Unit × σ
  progmodeToggle : σ → Option Unit × σ
  progmodeStatus : σ → Int × σ
  getPEIType : σ → Option Word16 × σ
  adcRead : Byte → Byte → σ → Option Word16 × σ
  memoryReadBlock : Word16 → Word16 → σ → Option CArray × σ
  /-- `X_Memory_Write_Block`. -/
  memoryWriteBlock : Word16 → CArray → σ → Int × σ
  /-- `A_Memory_Write_Block`. -/
  memoryWriteBlockNoVerify : Word16 → CArray → σ → Int × σ
  propertyRead : Byte → Byte → Word16 → Byte → σ → Option CArray × σ
  propertyWrite : Byte → Byte → Word16 → Byte → CArray → σ → Option CArray × σ
  authorize : Word32 → σ → Option Byte × σ
  keyWrite : Word32 → Byte → σ → Option Byte × σ
  /-- The type, the number of elements and the access rights. -/
  propertyDesc : Byte → Byte → σ → Option (Byte × Word16 × Byte) × σ
  propertyScan : σ → Option (List PropertyInfo) × σ
  restart : σ → σ

/-- What a pass of the loop leaves: the variable `i`, the replies and the device, and whether an
    operation has reported a failure. -/
structure Turn (σ : Type) where
  i : Int := 0
  sent : List CArray
  device : σ
  failed : Bool := false
  deriving DecidableEq, Repr

namespace ManagementCalls

variable {σ α : Type}

/-- `c->sendreject (stop, type)`. -/
def reject (type : Word16) (s : σ) : Turn σ := { sent := [typed type []], device := s }

/-- `if (m.… == -1) c->sendreject (stop); else c->sendmessage (…);` -/
def answer (reply : α → CArray) : Option α × σ → Turn σ
  | (some a, s) => { sent := [reply a], device := s }
  | (none, s) => { sent := [typed eibInvalidRequest []], device := s, failed := true }

variable (m : ManagementCalls σ)

/-- `EIB_MC_PROG_MODE`. -/
def progMode (c : CArray) (s : σ) : Turn σ :=
  if c.length < 3 then reject eibInvalidRequest s
  else
    let done (_ : Unit) : CArray := typed MCRequest.progMode.type [0#8]
    match reqByte c 2 with
    | 0#8 => answer done (m.progmodeOff s)
    | 1#8 => answer done (m.progmodeOn s)
    | 2#8 => answer done (m.progmodeToggle s)
    | 3#8 =>
        -- the status is stored in `i`
        let (i, s) := m.progmodeStatus s
        if i = -1 then { i, sent := [typed eibInvalidRequest []], device := s, failed := true }
        else { i, sent := [typed MCRequest.progMode.type [BitVec.ofInt 8 i]], device := s }
    | _ => reject eibInvalidRequest s

/-- `EIB_MC_READ`. -/
def memRead (fresh : Nat → Byte) (c : CArray) (s : σ) : Turn σ :=
  if c.length < 6 then reject eibInvalidRequest s
  else
    answer (fun data => built fresh [] 6 MCRequest.read.type data)
      (m.memoryReadBlock (reqWord c 2) (reqWord c 4) s)

/-- `EIB_MC_WRITE`; the result of the operation is stored in `i`. -/
def memWrite (c : CArray) (s : σ) : Turn σ :=
  if c.length < 6 then reject eibInvalidRequest s
  else if c.length < (reqWord c 4).toNat + 6 then reject eibInvalidRequest s
  else
    let (i, s) := m.memoryWriteBlock (reqWord c 2) (reqData c) s
    if i = -2 then { i, sent := [typed eibErrorVerify []], device := s, failed := true }
    else if i ≠ 0 then { i, sent := [typed eibProcessingError []], device := s, failed := true }
    else { i, sent := [typed MCRequest.write.type []], device := s }

/-- `EIB_MC_WRITE_NOVERIFY`; the result of the operation is stored in `i`. -/
def memWriteNoVerify (c : CArray) (s : σ) : Turn σ :=
  if c.length < 6 then reject eibInvalidRequest s
  else if c.length < (reqWord c 4).toNat + 6 then reject eibInvalidRequest s
  else
    let (i, s) := m.memoryWriteBlockNoVerify (reqWord c 2) (reqData c) s
    if i ≠ 0 then { i, sent := [typed eibProcessingError []], device := s, failed := true }
    else { i, sent := [typed MCRequest.writeNoVerify.type []], device := s }

/-- `EIB_MC_PROP_READ`. -/
def propRead (fresh : Nat → Byte) (c : CArray) (s : σ) : Turn σ :=
  if c.length < 7 then reject eibInvalidRequest s
  else
    answer (fun data => built fresh [] 2 MCRequest.propRead.type data)
      (m.propertyRead (reqByte c 2) (reqByte c 3) (reqWord c 4) (reqByte c 6) s)

/-- `EIB_MC_PROP_WRITE`.  The answer of the device is `erg`, and `data` stays empty. -/
def propWrite (fresh : Nat → Byte) (c : CArray) (s : σ) : Turn σ :=
  if c.length < 7 then reject eibInvalidRequest s
  else
    answer (fun erg => built fresh erg 2 MCRequest.propWrite.type [])
      (m.propertyWrite (reqByte c 2) (reqByte c 3) (reqWord c 4) (reqByte c 6) (c.drop 7) s)

/-- The six bytes of a property in the reply to `EIB_MC_PROP_SCAN`. -/
def infoBytes (p : PropertyInfo) : CArray :=
  [p.obj, p.property, p.type, hiByte p.count, loByte p.count, p.access]

/-- A word as a reply. -/
def wordReply (type : Word16) (val : Word16) : CArray := typed type [hiByte val, loByte val]

/-- The switch of `ManagementConnection` over the request. -/
def handle (fresh : Nat → Byte) (c : CArray) (s : σ) : Turn σ :=
  match MCRequest.ofType (reqWord c 0) with
  | some .progMode => m.progMode c s
  | some .maskVersion => answer (wordReply MCRequest.maskVersion.type) (m.deviceDescriptorRead s)
  | some .peiType => answer (wordReply MCRequest.peiType.type) (m.getPEIType s)
  | some .adcRead =>
      if c.length < 4 then reject eibInvalidRequest s
      else answer (wordReply MCRequest.adcRead.type) (m.adcRead (reqByte c 2) (reqByte c 3) s)
  | some .read => m.memRead fresh c s
  | some .write => m.memWrite c s
  | some .propRead => m.propRead fresh c s
  | some .propWrite => m.propWrite fresh c s
  | some .authorize =>
      if c.length < 6 then reject eibInvalidRequest s
      else answer (fun level => typed MCRequest.authorize.type [level]) (m.authorize (reqKey c) s)
  | some .keyWrite =>
      if c.length < 7 then reject eibInvalidRequest s
      else
        answer (fun _ => typed MCRequest.keyWrite.type []) (m.keyWrite (reqKey c) (reqByte c 6) s)
  | some .propDesc =>
      if c.length < 4 then reject eibInvalidRequest s
      else
        answer (fun d => typed MCRequest.propDesc.type [d.1, hiByte d.2.1, loByte d.2.1, d.2.2])
          (m.propertyDesc (reqByte c 2) (reqByte c 3) s)
  | some .propScan =>
      answer (fun ps => typed MCRequest.propScan.type (ps.flatMap infoBytes)) (m.propertyScan s)
  | some .resetConnection => { i := -1, sent := [], device := s }
  | some .restart => reject MCRequest.restart.type (m.restart s)
  | some .writeNoVerify => m.memWriteNoVerify c s
  | none => reject eibInvalidRequest s

/-- The switch of `ManagementIndividual`. -/
def handleIndividual (fresh : Nat → Byte) (c : CArray) (s : σ) : Turn σ :=
  match MCRequest.ofType (reqWord c 0) with
  | some .propRead => m.propRead fresh c s
  | some .propWrite => m.propWrite fresh c s
  | some .resetConnection => { i := -1, sent := [], device := s }
  | _ => reject eibInvalidRequest s

/-! ## One request -/

/-- A reply that reports an error. -/
def ErrorReply (reply : CArray) : Prop :=
  reply = typed eibInvalidRequest [] ∨ reply = typed eibProcessingError [] ∨
    reply = typed eibErrorVerify []

/-- One reply is sent, and it reports an error if an operation has failed. -/
def RepliesOnce (u : Turn σ) : Prop :=
  ∃ reply, u.sent = [reply] ∧ (u.failed = true → ErrorReply reply)

/-- The operation whose result goes into `i` returns -1. -/
def StoresFailure (c : CArray) (s : σ) : Prop :=
  match MCRequest.ofType (reqWord c 0) with
  | some .progMode => 3 ≤ c.length ∧ reqByte c 2 = 3#8 ∧ (m.progmodeStatus s).1 = -1
  | some .write =>
      (reqWord c 4).toNat + 6 ≤ c.length ∧
        (m.memoryWriteBlock (reqWord c 2) (reqData c) s).1 = -1
  | some .writeNoVerify =>
      (reqWord c 4).toNat + 6 ≤ c.length ∧
        (m.memoryWriteBlockNoVerify (reqWord c 2) (reqData c) s).1 = -1
  | _ => False

theorem reject_i (type : Word16) (s : σ) : (reject type s).i = 0 := rfl

theorem reject_repliesOnce (type : Word16) (s : σ) : RepliesOnce (reject type s) :=
  ⟨typed type [], rfl, nofun⟩

theorem answer_i (reply : α → CArray) (r : Option α × σ) : (answer reply r).i = 0 := by
  obtain ⟨_ | a, s⟩ := r
  · rfl
  · rfl

theorem answer_repliesOnce (reply : α → CArray) (r : Option α × σ) :
    RepliesOnce (answer reply r) := by
  obtain ⟨_ | a, s⟩ := r
  · exact ⟨_, rfl, fun _ => .inl rfl⟩
  · exact ⟨_, rfl, nofun⟩

/-! ### The branches that use `i` -/

theorem progMode_i (c : CArray) (s : σ) : (m.progMode c s).i = -1 ↔
    3 ≤ c.length ∧ reqByte c 2 = 3#8 ∧ (m.progmodeStatus s).1 = -1 := by
  rw [progMode]
  by_cases hlen : c.length < 3
  · rw [if_pos hlen, reject_i]
    exact iff_of_false (by decide) fun h => absurd h.1 (by omega)
  rw [if_neg hlen]
  by_cases hstatus : reqByte c 2 = 3#8
  · rw [hstatus]
    -- the one branch that stores its result in `i`
    show Turn.i (if (m.progmodeStatus s).1 = -1 then _ else _) = -1 ↔ _
    split
    case isTrue hfail => exact iff_of_true hfail ⟨by omega, rfl, hfail⟩
    case isFalse hok => exact iff_of_false hok fun h => hok h.2.2
  · have hzero : ∀ {u : Turn σ}, u.i = 0 →
        (u.i = -1 ↔ 3 ≤ c.length ∧ reqByte c 2 = 3#8 ∧ (m.progmodeStatus s).1 = -1) := by
      intro u hu
      rw [hu]
      exact iff_of_false (by decide) fun h => hstatus h.2.1
    dsimp only
    split
    · exact hzero (answer_i _ _)
    · exact hzero (answer_i _ _)
    · exact hzero (answer_i _ _)
    case h_4 h3 => exact absurd h3 hstatus
    · exact hzero rfl

theorem progMode_repliesOnce (c : CArray) (s : σ) : RepliesOnce (m.progMode c s) := by
  rw [progMode]
  split
  · exact reject_repliesOnce _ s
  · dsimp only
    split
    · exact answer_repliesOnce _ _
    · exact answer_repliesOnce _ _
    · exact answer_repliesOnce _ _
    · split
      · exact ⟨_, rfl, fun _ => .inl rfl⟩
      · exact ⟨_, rfl, nofun⟩
    · exact reject_repliesOnce _ s

theorem memWrite_i (c : CArray) (s : σ) : (m.memWrite c s).i = -1 ↔
    (reqWord c 4).toNat + 6 ≤ c.length ∧
      (m.memoryWriteBlock (reqWord c 2) (reqData c) s).1 = -1 := by
  rw [memWrite]
  by_cases hlen : c.length < 6
  · rw [if_pos hlen, reject_i]
    exact iff_of_false (by decide) fun h => absurd h.1 (by omega)
  rw [if_neg hlen]
  by_cases hdata : c.length < (reqWord c 4).toNat + 6
  · rw [if_pos hdata, reject_i]
    exact iff_of_false (by decide) fun h => absurd h.1 (by omega)
  rw [if_neg hdata]
  -- every branch hands `i` on
  have hi : ∀ i : Int, i = -1 ↔ (reqWord c 4).toNat + 6 ≤ c.length ∧ i = -1 :=
    fun i => (and_iff_right (by omega)).symm
  dsimp only
  split
  · exact hi _
  · split
    · exact hi _
    · exact hi _

theorem memWrite_repliesOnce (c : CArray) (s : σ) : RepliesOnce (m.memWrite c s) := by
  rw [memWrite]
  split
  · exact reject_repliesOnce _ s
  · split
    · exact reject_repliesOnce _ s
    · dsimp only
      split
      · exact ⟨_, rfl, fun _ => .inr (.inr rfl)⟩
      · split
        · exact ⟨_, rfl, fun _ => .inr (.inl rfl)⟩
        · exact ⟨_, rfl, nofun⟩

theorem memWriteNoVerify_i (c : CArray) (s : σ) : (m.memWriteNoVerify c s).i = -1 ↔
    (reqWord c 4).toNat + 6 ≤ c.length ∧
      (m.memoryWriteBlockNoVerify (reqWord c 2) (reqData c) s).1 = -1 := by
  rw [memWriteNoVerify]
  by_cases hlen : c.length < 6
  · rw [if_pos hlen, reject_i]
    exact iff_of_false (by decide) fun h => absurd h.1 (by omega)
  rw [if_neg hlen]
  by_cases hdata : c.length < (reqWord c 4).toNat + 6
  · rw [if_pos hdata, reject_i]
    exact iff_of_false (by decide) fun h => absurd h.1 (by omega)
  rw [if_neg hdata]
  have hi : ∀ i : Int, i = -1 ↔ (reqWord c 4).toNat + 6 ≤ c.length ∧ i = -1 :=
    fun i => (and_iff_right (by omega)).symm
  dsimp only
  split
  · exact hi _
  · exact hi _

theorem memWriteNoVerify_repliesOnce (c : CArray) (s : σ) :
    RepliesOnce (m.memWriteNoVerify c s) := by
  rw [memWriteNoVerify]
  split
  · exact reject_repliesOnce _ s
  · split
    · exact reject_repliesOnce _ s
    · dsimp only
      split
      · exact ⟨_, rfl, fun _ => .inr (.inl rfl)⟩
      · exact ⟨_, rfl, nofun⟩

/-! ### The whole switch -/

/-- A branch that leaves `i` alone. -/
theorem iff_of_i_eq_zero {u : Turn σ} {p : Prop} (hu : u.i = 0) (hp : ¬ p) : u.i = -1 ↔ p := by
  rw [hu]
  exact iff_of_false (by decide) hp

/-- `i` is -1 behind a request exactly if the client asked for it, or an operation stored it. -/
theorem handle_i (fresh : Nat → Byte) (c : CArray) (s : σ)
    (hreset : reqWord c 0 ≠ eibResetConnection) :
    (m.handle fresh c s).i = -1 ↔ m.StoresFailure c s := by
  have hkind := mt MCRequest.ofType_eq_reset_iff.mp hreset
  rw [handle, StoresFailure]
  rcases hr : MCRequest.ofType (reqWord c 0) with _ | r
  · exact iff_of_i_eq_zero rfl id
  · cases r with
    | progMode => exact m.progMode_i c s
    | write => exact m.memWrite_i c s
    | writeNoVerify => exact m.memWriteNoVerify_i c s
    | resetConnection => exact absurd hr hkind
    | maskVersion => exact iff_of_i_eq_zero (answer_i _ _) id
    | peiType => exact iff_of_i_eq_zero (answer_i _ _) id
    | propScan => exact iff_of_i_eq_zero (answer_i _ _) id
    | restart => exact iff_of_i_eq_zero rfl id
    | _ =>
        -- a request that is too short is rejected
        refine iff_of_i_eq_zero ?_ id
        dsimp only [memRead, propRead, propWrite]
        split
        · exact reject_i _ _
        · exact answer_i _ _

theorem handle_repliesOnce (fresh : Nat → Byte) (c : CArray) (s : σ)
    (hreset : reqWord c 0 ≠ eibResetConnection) : RepliesOnce (m.handle fresh c s) := by
  have hkind := mt MCRequest.ofType_eq_reset_iff.mp hreset
  rw [handle]
  rcases hr : MCRequest.ofType (reqWord c 0) with _ | r
  · exact reject_repliesOnce _ s
  · cases r with
    | progMode => exact m.progMode_repliesOnce c s
    | write => exact m.memWrite_repliesOnce c s
    | writeNoVerify => exact m.memWriteNoVerify_repliesOnce c s
    | resetConnection => exact absurd hr hkind
    | maskVersion => exact answer_repliesOnce _ _
    | peiType => exact answer_repliesOnce _ _
    | propScan => exact answer_repliesOnce _ _
    | restart => exact reject_repliesOnce _ _
    | _ =>
        dsimp only [memRead, propRead, propWrite]
        split
        · exact reject_repliesOnce _ _
        · exact answer_repliesOnce _ _

/-! ## The results of the device -/

/-- The operation behind a request that returns bytes, and what it has returned. -/
def resultOf (c : CArray) (s : σ) : Option (MCRequest × CArray) :=
  match MCRequest.ofType (reqWord c 0) with
  | some .read =>
      if c.length < 6 then none
      else (m.memoryReadBlock (reqWord c 2) (reqWord c 4) s).1.map (.read, ·)
  | some .propRead =>
      if c.length < 7 then none
      else
        (m.propertyRead (reqByte c 2) (reqByte c 3) (reqWord c 4) (reqByte c 6) s).1.map
          (.propRead, ·)
  | some .propWrite =>
      if c.length < 7 then none
      else
        (m.propertyWrite (reqByte c 2) (reqByte c 3) (reqWord c 4) (reqByte c 6)
          (c.drop 7) s).1.map (.propWrite, ·)
  | _ => none

/-- The reply is one message, its type and all of the bytes. -/
def CarriesResult (u : Turn σ) (type : Word16) (data : CArray) : Prop :=
  ∃ msg : Message, u.sent = [msg.bytes] ∧ msg.bytes = typed type data

/-- A read fills the four bytes of its array, a write has nothing to report, and the length of
    the reply fits into the two bytes in front of it. -/
structure ResultFits (r : MCRequest) (data : CArray) : Prop where
  read : r = .read → 4 ≤ data.length
  propWrite : r = .propWrite → data = []
  message : 2 + data.length ≤ 65535

theorem carriesResult_iff_of_sent {u : Turn σ} {type : Word16} {reply data : CArray}
    (hsent : u.sent = [reply]) :
    CarriesResult u type data ↔ reply = typed type data ∧ 2 + data.length ≤ 65535 := by
  have hlen : (typed type data).length = 2 + data.length := by
    rw [typed, List.length_append]
    rfl
  constructor
  · rintro ⟨⟨bytes, min, max⟩, hmsg, rfl⟩
    rw [hsent] at hmsg
    exact ⟨(List.cons.inj hmsg).1, hlen ▸ max⟩
  · rintro ⟨rfl, hmax⟩
    exact ⟨⟨typed type data, by omega, by omega⟩, hsent, rfl⟩

theorem answer_sent (reply : α → CArray) {r : Option α × σ} {a : α} (h : r.1 = some a) :
    (answer reply r).sent = [reply a] := by
  obtain ⟨o, s⟩ := r
  obtain rfl : o = some a := h
  rfl

theorem memRead_carries {fresh : Nat → Byte} {c data : CArray} {s : σ} (hlen : ¬ c.length < 6)
    (h : (m.memoryReadBlock (reqWord c 2) (reqWord c 4) s).1 = some data) :
    CarriesResult (m.memRead fresh c s) MCRequest.read.type data ↔ ResultFits .read data := by
  rw [memRead, if_neg hlen, carriesResult_iff_of_sent (answer_sent _ h),
    built_eq_typed_iff]
  constructor
  · rintro ⟨hfills, hmax⟩
    exact ⟨fun _ => by omega, nofun, hmax⟩
  · rintro ⟨hread, -, hmax⟩
    have := hread rfl
    exact ⟨by omega, hmax⟩

theorem propRead_carries {fresh : Nat → Byte} {c data : CArray} {s : σ} (hlen : ¬ c.length < 7)
    (h : (m.propertyRead (reqByte c 2) (reqByte c 3) (reqWord c 4) (reqByte c 6) s).1 =
      some data) :
    CarriesResult (m.propRead fresh c s) MCRequest.propRead.type data ↔
      ResultFits .propRead data := by
  rw [propRead, if_neg hlen, carriesResult_iff_of_sent (answer_sent _ h),
    built_eq_typed_iff]
  constructor
  · rintro ⟨-, hmax⟩
    exact ⟨nofun, nofun, hmax⟩
  · rintro ⟨-, -, hmax⟩
    exact ⟨by omega, hmax⟩

/-- The answer to a write is lost, unless it is empty. -/
theorem propWrite_carries {fresh : Nat → Byte} {c data : CArray} {s : σ} (hlen : ¬ c.length < 7)
    (h : (m.propertyWrite (reqByte c 2) (reqByte c 3) (reqWord c 4) (reqByte c 6)
      (c.drop 7) s).1 = some data) :
    CarriesResult (m.propWrite fresh c s) MCRequest.propWrite.type data ↔
      ResultFits .propWrite data := by
  have hbuilt : built fresh data 2 MCRequest.propWrite.type [] =
      typed MCRequest.propWrite.type [] :=
    (built_eq_typed_iff fresh data 2 _ []).mpr (by decide)
  rw [propWrite, if_neg hlen, carriesResult_iff_of_sent (answer_sent _ h), hbuilt]
  constructor
  · rintro ⟨hsame, hmax⟩
    exact ⟨nofun, fun _ => (List.append_cancel_left hsame).symm, hmax⟩
  · rintro ⟨-, hnil, hmax⟩
    rw [hnil rfl]
    exact ⟨rfl, by decide⟩

/-- For every request whose operation has returned bytes, the reply carries all of them if and
    only if a read returns four bytes or more, a property write none, and the reply is short
    enough for its length. -/
theorem carriesResult_iff_resultFits (fresh : Nat → Byte) (c : CArray) (s : σ) (r : MCRequest)
    (data : CArray) (h : m.resultOf c s = some (r, data)) :
    (CarriesResult (m.handle fresh c s) r.type data ↔ ResultFits r data) ∧
      (r ≠ .read →
        (CarriesResult (m.handleIndividual fresh c s) r.type data ↔ ResultFits r data)) := by
  rw [resultOf] at h
  rw [handle, handleIndividual]
  -- only three requests have a result: memory read, property read and property write
  split at h
  case h_1 hkind =>
    rw [hkind]
    split at h
    · cases h
    case isFalse hlen =>
      obtain ⟨d, hd, hr⟩ := Option.map_eq_some_iff.mp h
      cases hr
      exact ⟨m.memRead_carries hlen hd, fun hne => absurd rfl hne⟩
  case h_2 hkind =>
    rw [hkind]
    split at h
    · cases h
    case isFalse hlen =>
      obtain ⟨d, hd, hr⟩ := Option.map_eq_some_iff.mp h
      cases hr
      exact ⟨m.propRead_carries hlen hd, fun _ => m.propRead_carries hlen hd⟩
  case h_3 hkind =>
    rw [hkind]
    split at h
    · cases h
    case isFalse hlen =>
      obtain ⟨d, hd, hr⟩ := Option.map_eq_some_iff.mp h
      cases hr
      exact ⟨m.propWrite_carries hlen hd, fun _ => m.propWrite_carries hlen hd⟩
  case h_4 => cases h

end ManagementCalls

/-! ## Sessions -/

/-- A session, and what it has sent. -/
structure ManagementSession (σ : Type) where
  device : σ
  running : Bool
  sent : List CArray
  deriving DecidableEq, Repr

namespace ManagementSession

variable {σ : Type} (m : ManagementCalls σ) (fresh : Nat → Byte)

/-- `ManagementConnection` in front of its loop, on the message `c`; `up` is `m.init ()`. -/
def opened (up : Bool) (c : CArray) (s : σ) : ManagementSession σ :=
  if c.length < 4 then
    { device := s, running := false, sent := [typed eibInvalidRequest []] }
  else if up = false then
    { device := s, running := false, sent := [typed eibProcessingError []] }
  else
    match m.deviceDescriptorRead s with
    | (none, s) => { device := s, running := false, sent := [typed eibInvalidRequest []] }
    | (some _, s) => { device := s, running := true, sent := [typed eibMCConnection []] }

/-- A pass of the loop; `none` is a message that cannot be read. -/
def pass (t : ManagementSession σ) (e : Option Message) : ManagementSession σ :=
  match e with
  | none => { t with running := false }
  | some msg =>
      let u := m.handle fresh msg.bytes t.device
      { device := u.device, running := decide (u.i ≠ -1), sent := t.sent ++ u.sent }

/-- The loop, once it is left, does nothing any more. -/
def step (t : ManagementSession σ) (e : Option Message) : Checked (ManagementSession σ) :=
  .ok (if t.running then t.pass m fresh e else t)

/-- The session ends when the client wants it or is gone, and with every other request it goes
    on and sends one reply, an error if an operation has failed. -/
structure Serves (t : ManagementSession σ) (e : Option Message) : Prop where
  gone : e = none → (t.pass m fresh e).running = false ∧ (t.pass m fresh e).sent = t.sent
  reset : ∀ msg, e = some msg → msg.type = eibResetConnection →
    (t.pass m fresh e).running = false ∧ (t.pass m fresh e).sent = t.sent
  request : ∀ msg, e = some msg → msg.type ≠ eibResetConnection →
    (t.pass m fresh e).running = true ∧ ∃ reply, (t.pass m fresh e).sent = t.sent ++ [reply] ∧
      ((m.handle fresh msg.bytes t.device).failed = true → ManagementCalls.ErrorReply reply)

/-- A pass serves the client exactly if no operation stores its failure in `i`. -/
theorem serves_iff (t : ManagementSession σ) (e : Option Message) :
    t.Serves m fresh e ↔ ∀ msg, e = some msg → ¬ m.StoresFailure msg.bytes t.device := by
  have hreq : ∀ msg : Message, msg.type = reqWord msg.bytes 0 := fun _ => rfl
  constructor
  · rintro ⟨-, -, hrequest⟩ msg rfl hstores
    have hreset : msg.type ≠ eibResetConnection := by
      intro htype
      rw [hreq, ← MCRequest.ofType_eq_reset_iff] at htype
      rw [ManagementCalls.StoresFailure, htype] at hstores
      exact hstores
    have hrunning := (hrequest msg rfl hreset).1
    -- the failure ends the session, which should have gone on
    have hi := (m.handle_i fresh msg.bytes t.device hreset).mpr hstores
    exact of_decide_eq_true hrunning hi
  · intro h
    refine ⟨?_, ?_, ?_⟩
    · rintro rfl
      exact ⟨rfl, rfl⟩
    · -- the branch for EIB_RESET_CONNECTION sets `i` itself
      rintro msg rfl htype
      have hhandle : m.handle fresh msg.bytes t.device =
          { i := -1, sent := [], device := t.device } := by
        rw [hreq, ← MCRequest.ofType_eq_reset_iff] at htype
        rw [ManagementCalls.handle, htype]
      refine ⟨?_, ?_⟩
      · show decide ((m.handle fresh msg.bytes t.device).i ≠ -1) = false
        rw [hhandle]
        rfl
      · show t.sent ++ (m.handle fresh msg.bytes t.device).sent = t.sent
        rw [hhandle, List.append_nil]
    · rintro msg rfl hreset
      obtain ⟨reply, hsent, hfail⟩ := m.handle_repliesOnce fresh msg.bytes t.device hreset
      refine ⟨decide_eq_true fun hi => ?_, reply, ?_, hfail⟩
      · exact h msg rfl ((m.handle_i fresh msg.bytes t.device hreset).mp hi)
      · show t.sent ++ (m.handle fresh msg.bytes t.device).sent = t.sent ++ [reply]
        rw [hsent]

/-- In every session every pass of the loop serves the client, if and only if no operation whose
    result is stored in `i` returns -1. -/
theorem serves_iff_no_failure_stored (up : Bool) (c : CArray) (s : σ) (es : List (Option Message)) :
    StepsMeet (step m fresh) (fun t e => t.running = true → t.Serves m fresh e)
        (opened m up c s) es ↔
      StepsMeet (step m fresh) (fun t e => t.running = true →
        ∀ msg, e = some msg → ¬ m.StoresFailure msg.bytes t.device) (opened m up c s) es := by
  have hinv : ∀ t e t', True → step m fresh t e = .ok t' → True := fun _ _ _ _ _ => trivial
  refine StepsMeet.congr hinv (fun t e _ => ?_) trivial
  exact imp_congr_right fun _ => serves_iff m fresh t e

/-- A device that has told its mask version, and then does not answer any more. -/
def silentDevice : ManagementCalls Unit where
  deviceDescriptorRead s := (some 0x0012#16, s)
  progmodeOff s := (none, s)
  progmodeOn s := (none, s)
  progmodeToggle s := (none, s)
  progmodeStatus s := (-1, s)
  getPEIType s := (none, s)
  adcRead _ _ s := (none, s)
  memoryReadBlock _ _ s := (none, s)
  memoryWriteBlock _ _ s := (-1, s)
  memoryWriteBlockNoVerify _ _ s := (0, s)
  propertyRead _ _ _ _ s := (none, s)
  propertyWrite _ _ _ _ _ s := (none, s)
  authorize _ s := (none, s)
  keyWrite _ _ s := (none, s)
  propertyDesc _ _ s := (none, s)
  propertyScan s := (none, s)
  restart s := s

/-- The client asks for the state of the programming mode. -/
def statusRequest : Message := ⟨[0x00#8, 0x60#8, 0x03#8], by decide, by decide⟩

/-- The session is over after it. -/
theorem statusRequest_not_served :
    ¬ StepsMeet (step silentDevice fun _ => 0#8)
        (fun t e => t.running = true → t.Serves silentDevice (fun _ => 0#8) e)
        (opened silentDevice true [0x00#8, 0x50#8, 0x11#8, 0x01#8] ()) [some statusRequest] := by
  rintro ⟨h, -⟩
  have hserves := (serves_iff silentDevice (fun _ => 0#8) _ _).mp (h (by decide))
  refine hserves statusRequest rfl ?_
  have hkind : MCRequest.ofType (reqWord statusRequest.bytes 0) = some .progMode := by decide
  rw [ManagementCalls.StoresFailure, hkind]
  exact ⟨by decide, by decide, rfl⟩

/-- A device with a byte of memory and a property of one byte. -/
def smallDevice : ManagementCalls Unit where
  deviceDescriptorRead s := (some 0x0012#16, s)
  progmodeOff s := (none, s)
  progmodeOn s := (none, s)
  progmodeToggle s := (none, s)
  progmodeStatus s := (0, s)
  getPEIType s := (none, s)
  adcRead _ _ s := (none, s)
  memoryReadBlock _ _ s := (some [0x42#8], s)
  memoryWriteBlock _ _ s := (0, s)
  memoryWriteBlockNoVerify _ _ s := (0, s)
  propertyRead _ _ _ _ s := (some [0x42#8], s)
  propertyWrite _ _ _ _ _ s := (some [0x42#8], s)
  authorize _ s := (none, s)
  keyWrite _ _ s := (none, s)
  propertyDesc _ _ s := (none, s)
  propertyScan s := (none, s)
  restart s := s

/-- The client reads the byte at address 0x0100. -/
def readRequest : CArray := [0x00#8, 0x51#8, 0x01#8, 0x00#8, 0x00#8, 0x01#8]

/-- The client writes a byte to property 1 of object 0. -/
def propWriteRequest : CArray := [0x00#8, 0x54#8, 0x00#8, 0x01#8, 0x00#8, 0x01#8, 0x01#8, 0x42#8]

/-- The reply to the read has six bytes in place of three, and the one to the write two. -/
theorem smallDevice_not_carried :
    (smallDevice.resultOf readRequest () = some (.read, [0x42#8]) ∧
      ¬ ManagementCalls.CarriesResult (smallDevice.handle (fun _ => 0#8) readRequest ())
        MCRequest.read.type [0x42#8]) ∧
    smallDevice.resultOf propWriteRequest () = some (.propWrite, [0x42#8]) ∧
      ¬ ManagementCalls.CarriesResult (smallDevice.handle (fun _ => 0#8) propWriteRequest ())
        MCRequest.propWrite.type [0x42#8] := by
  have hread : (smallDevice.handle (fun _ => 0#8) readRequest ()).sent =
      [[0x00#8, 0x51#8, 0x42#8, 0x00#8, 0x00#8, 0x00#8]] := by
    decide
  have hwrite : (smallDevice.handle (fun _ => 0#8) propWriteRequest ()).sent =
      [[0x00#8, 0x54#8]] := by
    decide
  refine ⟨⟨by decide, fun h => ?_⟩, by decide, fun h => ?_⟩
  · have hsame := ((ManagementCalls.carriesResult_iff_of_sent hread).mp h).1
    revert hsame
    decide
  · have hsame := ((ManagementCalls.carriesResult_iff_of_sent hwrite).mp h).1
    revert hsame
    decide

theorem carriesResult_iff_resultFits_readRequest :
    (ManagementCalls.CarriesResult (smallDevice.handle (fun _ => 0#8) readRequest ())
        MCRequest.read.type [0x42#8] ↔ ManagementCalls.ResultFits .read [0x42#8]) ∧
      (MCRequest.read ≠ .read →
        (ManagementCalls.CarriesResult (smallDevice.handleIndividual (fun _ => 0#8) readRequest ())
          MCRequest.read.type [0x42#8] ↔ ManagementCalls.ResultFits .read [0x42#8])) :=
  smallDevice.carriesResult_iff_resultFits (fun _ => 0#8) readRequest () .read [0x42#8] (by decide)

end ManagementSession

end BcuSdk.Eibd
