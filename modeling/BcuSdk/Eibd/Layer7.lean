/-
  BcuSdk.Eibd.Layer7

  Requests and their answers in the application layer
  (eibd/libserver/layer7.cpp, and `isResponse` of apdu.cpp).

  A call of `Layer7_Connection` sends a request, takes the next element of the
  connection as the answer if `isResponse` says so, and casts it to the class
  it expects.  Nothing but `isResponse` keeps an answer to another request
  out.
-/
import BcuSdk.Eibd.ApduRoundTrip
import BcuSdk.Eibd.ApduService

namespace BcuSdk.Eibd

open BcuSdk.Lib

/-! ## Which answer belongs to which request -/

/-- `isResponse` of each class.  It asks for the type of `req` and casts: a property description
    also announces itself as `A_PropertyDescription_Read`, whose first member is the object, too. -/
def APDU.isResponse (a req : APDU) : Bool :=
  match a with
  | .aGroupValueResponse _ _ =>
      match req with
      | .aGroupValueRead => true
      | _ => false
  | .aIndividualAddressResponse =>
      match req with
      | .aIndividualAddressRead => true
      | _ => false
  | .aIndividualAddressSerialNumberResponse serno _ =>
      match req with
      | .aIndividualAddressSerialNumberRead serno' => serno' = serno
      | _ => false
  | .aDomainAddressResponse _ =>
      match req with
      | .aDomainAddressRead => true
      | _ => false
  | .aPropertyValueResponse obj prop count start _ =>
      match req with
      | .aPropertyValueWrite obj' prop' count' start' _ =>
          obj' = obj ∧ prop' = prop ∧ start' = start ∧ count' = count
      | .aPropertyValueRead obj' prop' count' start' =>
          obj' = obj ∧ prop' = prop ∧ start' = start ∧ count' = count
      | _ => false
  | .aPropertyDescriptionResponse obj _ _ _ _ _ =>
      match req with
      -- neither the property nor its index is compared
      | .aPropertyDescriptionRead obj' _ _ => obj' = obj
      | .aPropertyDescriptionResponse obj' _ _ _ _ _ => obj' = obj
      | _ => false
  | .aDeviceDescriptorResponse type _ =>
      match req with
      | .aDeviceDescriptorRead type' => type' = type
      | _ => false
  | .aADCResponse channel count _ =>
      match req with
      | .aADCRead channel' count' => count' = count ∧ channel' = channel
      | _ => false
  | .aMemoryResponse count addr _ =>
      match req with
      | .aMemoryRead count' addr' => count' = count ∧ addr' = addr
      | _ => false
  | .aUserMemoryResponse addrExtension count addr _ =>
      match req with
      | .aUserMemoryRead addrExtension' count' addr' =>
          count' = count ∧ addr' = addr ∧ addrExtension' = addrExtension
      | _ => false
  | .aUserManufacturerInfoResponse _ _ =>
      match req with
      | .aUserManufacturerInfoRead => true
      | _ => false
  | .aAuthorizeResponse _ =>
      match req with
      | .aAuthorizeRequest _ => true
      | _ => false
  | .aKeyResponse level =>
      match req with
      | .aKeyWrite level' _ => level' = level
      | _ => false
  | _ => false

/-! ## The calls -/

/-- The calls of `Layer7_Connection` that wait for an answer, with their arguments.
    `Layer7_Individual` has the first two, with the same bodies. -/
inductive Layer7Call where
  | aPropertyRead (obj propertyid : Byte) (start : Word16) (count : Byte)
  | aPropertyWrite (obj propertyid : Byte) (start : Word16) (count : Byte) (data : CArray)
  | aPropertyDesc (obj property propertyIndex : Byte)
  | aDeviceDescriptorRead (type : Byte)
  | aADCRead (channel readcount : Byte)
  | aMemoryRead (addr : MemAddr) (len : Byte)
  | aAuthorize (key : EibKey)
  | aKeyWrite (key : EibKey) (level : Byte)
  deriving DecidableEq, Repr

/-- What a call stores in its reference parameters. -/
inductive Layer7Result where
  | erg (data : CArray)
  | description (type : Byte) (maxNrElements : Word16) (access property : Byte)
  | maskver (descriptor : Word16)
  | value (val : Word16)
  | level (level : Byte)
  deriving DecidableEq, Repr

namespace Layer7Call

/-- `r`, the request of the call. -/
def request : Layer7Call → APDU
  | aPropertyRead obj propertyid start count =>
      .aPropertyValueRead obj propertyid (count &&& 0x0f#8) (start &&& 0x0fff#16)
  | aPropertyWrite obj propertyid start count data =>
      .aPropertyValueWrite obj propertyid (count &&& 0x0f#8) (start &&& 0x0fff#16) data
  | aPropertyDesc obj property propertyIndex =>
      .aPropertyDescriptionRead obj property propertyIndex
  | aDeviceDescriptorRead type => .aDeviceDescriptorRead (type &&& 0x3f#8)
  | aADCRead channel readcount => .aADCRead (channel &&& 0x3f#8) readcount
  | aMemoryRead addr len => .aMemoryRead (len &&& 0x0f#8) addr
  | aAuthorize key => .aAuthorizeRequest key
  | aKeyWrite key level => .aKeyWrite level key

/-- The cast of the answer, and what is read from it; a cast to another class reads whatever lies
    there. -/
def read (k : Layer7Call) (a : APDU) : Checked Layer7Result :=
  match k, a with
  | aPropertyRead _ _ _ _, .aPropertyValueResponse _ _ _ _ data => .ok (.erg data)
  | aPropertyWrite _ _ _ _ _, .aPropertyValueResponse _ _ _ _ data => .ok (.erg data)
  | aPropertyDesc _ _ _, .aPropertyDescriptionResponse _ prop _ type count access =>
      .ok (.description type count access prop)
  | aDeviceDescriptorRead _, .aDeviceDescriptorResponse _ descriptor => .ok (.maskver descriptor)
  | aADCRead _ _, .aADCResponse _ _ val => .ok (.value val)
  | aMemoryRead _ _, .aMemoryResponse _ _ data => .ok (.erg data)
  | aAuthorize _, .aAuthorizeResponse level => .ok (.level level)
  | aKeyWrite _ _, .aKeyResponse level => .ok (.level level)
  | _, _ => .error .outOfBounds

end Layer7Call

/-- `Request_Response` of `Layer7_Connection` and of `Layer7_Individual`: the bytes passed to
    `l4->Send`, and the answer.  `c` is what `l4->Get` returns before the timer has run out, if it
    returns something. -/
def requestResponse (unset : Byte × Byte) (r : APDU) (c : Option CArray) :
    Checked (CArray × Option APDU) := do
  let sent ← r.toPacket unset
  match c with
  | none => return (sent, none)
  -- the connection has been closed
  | some [] => return (sent, none)
  | some (b :: bs) =>
      let a := APDU.fromPacket (b :: bs)
      return (sent, if a.isResponse r then some a else none)

/-- A call: what it sends, and its result; `none` is the result -1. -/
def Layer7Call.perform (unset : Byte × Byte) (k : Layer7Call) (c : Option CArray) :
    Checked (CArray × Option Layer7Result) := do
  let (sent, a) ← requestResponse unset k.request c
  match a with
  | none => return (sent, none)
  | some a => return (sent, some (← k.read a))

/-! ## Answers in general -/

/-- `a` answers the request `r`: it is of the class the caller casts to, and has the same value in
    every field by which the request names what it asks for. -/
def APDU.Answers (a r : APDU) : Prop :=
  match r, a with
  | .aPropertyValueRead obj prop count start, .aPropertyValueResponse obj' prop' count' start' _ =>
      obj' = obj ∧ prop' = prop ∧ count' = count ∧ start' = start
  | .aPropertyValueWrite obj prop count start _,
      .aPropertyValueResponse obj' prop' count' start' _ =>
      obj' = obj ∧ prop' = prop ∧ count' = count ∧ start' = start
  | .aPropertyDescriptionRead obj prop propertyIndex,
      .aPropertyDescriptionResponse obj' prop' propertyIndex' _ _ _ =>
      -- a request for the property 0 goes by the index
      obj' = obj ∧ if prop = 0#8 then propertyIndex' = propertyIndex else prop' = prop
  | .aDeviceDescriptorRead type, .aDeviceDescriptorResponse type' _ => type' = type
  | .aADCRead channel count, .aADCResponse channel' count' _ => channel' = channel ∧ count' = count
  | .aMemoryRead count addr, .aMemoryResponse count' addr' _ => count' = count ∧ addr' = addr
  | .aAuthorizeRequest _, .aAuthorizeResponse _ => True
  | .aKeyWrite level _, .aKeyResponse level' => level' = level
  | _, _ => False

namespace Layer7Call

variable {k : Layer7Call} {a : APDU}

/-- An answer is of the class the call casts to. -/
theorem read_of_answers (h : a.Answers k.request) : ∃ r, k.read a = .ok r := by
  cases k <;> cases a <;> first | exact ⟨_, rfl⟩ | exact h.elim

/-- Every class but the property description compares all fields that name the request. -/
theorem isResponse_iff_answers (hk : ∀ obj property propertyIndex,
    k ≠ aPropertyDesc obj property propertyIndex) :
    a.isResponse k.request = true ↔ a.Answers k.request := by
  cases k with
  | aPropertyDesc obj property propertyIndex => exact absurd rfl (hk obj property propertyIndex)
  | _ =>
      cases a <;>
        simp only [APDU.isResponse, APDU.Answers, request, decide_eq_true_eq, Bool.false_eq_true] <;>
        grind

/-- A property description compares the object only. -/
theorem isResponse_desc_iff {obj property propertyIndex : Byte} :
    a.isResponse (aPropertyDesc obj property propertyIndex).request = true ↔
      ∃ property' propertyIndex' type count access,
        a = .aPropertyDescriptionResponse obj property' propertyIndex' type count access := by
  cases a with
  | aPropertyDescriptionResponse obj' _ _ _ _ _ =>
      simp [APDU.isResponse, request, eq_comm]
  | _ => simp [APDU.isResponse, request]

/-- What `isResponse` accepts is of the class the call casts to. -/
theorem read_of_isResponse (h : a.isResponse k.request = true) : ∃ r, k.read a = .ok r := by
  by_cases hk : ∃ obj property propertyIndex, k = aPropertyDesc obj property propertyIndex
  · obtain ⟨obj, property, propertyIndex, rfl⟩ := hk
    obtain ⟨property', propertyIndex', type, count, access, rfl⟩ := isResponse_desc_iff.mp h
    exact ⟨_, rfl⟩
  · rw [isResponse_iff_answers fun obj property propertyIndex he => hk ⟨_, _, _, he⟩] at h
    exact read_of_answers h

/-! ## Whole calls -/

/-- The masks in the calls are those of the assertions in `ToPacket`. -/
theorem request_asserts (k : Layer7Call) : k.request.asserts = true := by
  have h0f : ∀ b : Byte, b &&& 0x0f#8 &&& 0xf0#8 = 0#8 := fun b => by
    rw [BitVec.and_assoc]
    exact BitVec.and_zero
  have h3f : ∀ b : Byte, b &&& 0x3f#8 &&& 0xC0#8 = 0#8 := fun b => by
    rw [BitVec.and_assoc]
    exact BitVec.and_zero
  have hstart : ∀ w : Word16, w &&& 0x0fff#16 &&& 0xf000#16 = 0#16 := fun w => by
    rw [BitVec.and_assoc]
    exact BitVec.and_zero
  cases k <;> simp [request, APDU.asserts, propertyValueAsserts, h0f, h3f, hstart]

/-- No call stops at an assertion or reads through a wrong cast, whatever arrives. -/
theorem perform_returns (unset : Byte × Byte) (k : Layer7Call) (c : Option CArray) :
    (k.perform unset c).Returns := by
  have hsent : k.request.toPacket unset = .ok (k.request.bytes unset) :=
    APDU.toPacket_eq_ok.mpr ⟨k.request_asserts, rfl⟩
  rw [perform, requestResponse, hsent, Checked.ok_bind]
  match c with
  | none => exact ⟨_, rfl⟩
  | some [] => exact ⟨_, rfl⟩
  | some (b :: bs) =>
      by_cases h : (APDU.fromPacket (b :: bs)).isResponse k.request = true
      · obtain ⟨r, hr⟩ := read_of_isResponse h
        exact ⟨(k.request.bytes unset, some r), by simp [h, hr]⟩
      · exact ⟨(k.request.bytes unset, none), by simp [h]⟩

/-- A result is read from a packet that `isResponse` has accepted. -/
theorem perform_eq_some {unset : Byte × Byte} {c : Option CArray} {sent : CArray}
    {r : Layer7Result} (h : k.perform unset c = .ok (sent, some r)) :
    ∃ p, c = some p ∧ (APDU.fromPacket p).isResponse k.request = true ∧
      k.read (APDU.fromPacket p) = .ok r := by
  have hsent : k.request.toPacket unset = .ok (k.request.bytes unset) :=
    APDU.toPacket_eq_ok.mpr ⟨k.request_asserts, rfl⟩
  rw [perform, requestResponse, hsent, Checked.ok_bind] at h
  rcases c with _ | _ | ⟨b, bs⟩
  · cases h
  · cases h
  · by_cases haccepted : (APDU.fromPacket (b :: bs)).isResponse k.request = true
    · simp only [Checked.pure_eq_ok, Checked.ok_bind, haccepted, if_true] at h
      obtain ⟨r', hread, hr⟩ := Checked.bind_eq_ok.mp h
      obtain rfl : r' = r := Option.some.inj (Prod.mk.inj (Except.ok.inj hr)).2
      exact ⟨b :: bs, rfl, haccepted, hread⟩
    · simp only [Checked.pure_eq_ok, Checked.ok_bind, haccepted] at h
      cases h

/-! ## Late answers -/

/-- No answer to another request passes for the answer to `k`, when the bytes `c` arrive. -/
def Exact (k : Layer7Call) (c : CArray) : Prop :=
  (APDU.fromPacket c).isResponse k.request = true →
    (∃ r, k.read (APDU.fromPacket c) = .ok r) ∧ (APDU.fromPacket c).Answers k.request

/-- `c` is the description of another property of the object that `k` asks for: with another
    property id, or with another index if `k` goes by the index. -/
def OtherDescription (k : Layer7Call) (c : CArray) : Prop :=
  match k, c with
  | aPropertyDesc obj property propertyIndex,
      [c0, c1, obj', property', propertyIndex', _, _, _, _] =>
      c0 &&& 0x03#8 = 3#8 ∧ c1 = 0xD9#8 ∧ obj' = obj ∧
        if property = 0#8 then propertyIndex' ≠ propertyIndex else property' ≠ property
  | _, _ => False

theorem exact_iff (k : Layer7Call) (c : CArray) : k.Exact c ↔ ¬ k.OtherDescription c := by
  by_cases hk : ∃ obj property propertyIndex, k = aPropertyDesc obj property propertyIndex
  · obtain ⟨obj, property, propertyIndex, rfl⟩ := hk
    unfold Exact
    rw [isResponse_desc_iff]
    constructor
    · -- the description of another property is accepted, but is no answer
      intro h hother
      unfold OtherDescription at hother
      split at hother
      · next c0 c1 obj' property' propertyIndex' c5 c6 c7 c8 heq =>
        cases heq
        obtain ⟨h0, rfl, rfl, hne⟩ := hother
        have hdec : APDU.fromPacket
            [c0, 0xD9#8, obj', property', propertyIndex', c5, c6, c7, c8] =
              .aPropertyDescriptionResponse obj' property' propertyIndex' c5 (word16 c6 c7) c8 :=
          APDU.fromPacket_eq_description_iff.mpr ⟨c0, h0, by simp⟩
        obtain ⟨-, hanswers⟩ := h ⟨_, _, _, _, _, hdec⟩
        rw [hdec] at hanswers
        obtain ⟨-, heq⟩ := hanswers
        split at hne
        · next hzero => exact hne (by rwa [if_pos hzero] at heq)
        · next hzero => exact hne (by rwa [if_neg hzero] at heq)
      · exact hother
    · intro hother h
      refine ⟨read_of_isResponse (isResponse_desc_iff.mpr h), ?_⟩
      obtain ⟨property', propertyIndex', type, count, access, ha⟩ := h
      obtain ⟨c0, h0, rfl⟩ := APDU.fromPacket_eq_description_iff.mp ha
      rw [ha]
      refine ⟨rfl, ?_⟩
      by_contra hne
      refine hother ⟨h0, rfl, rfl, ?_⟩
      split
      · next hzero => rwa [if_pos hzero] at hne
      · next hzero => rwa [if_neg hzero] at hne
  · have hk' : ∀ obj property propertyIndex, k ≠ aPropertyDesc obj property propertyIndex :=
      fun obj property propertyIndex he => hk ⟨_, _, _, he⟩
    -- every other class of answer names all the request asks for
    have hno : ¬ k.OtherDescription c := by
      unfold OtherDescription
      split
      · exact absurd rfl (hk' _ _ _)
      · exact id
    refine iff_of_true (fun h => ?_) hno
    exact ⟨read_of_isResponse h, (isResponse_iff_answers hk').mp h⟩

/-- The late description of property 56 is taken for that of property 11. -/
theorem exact_fails_late :
    let k := aPropertyDesc 0x00#8 0x0b#8 0x00#8
    let c : CArray := [0x03#8, 0xD9#8, 0x00#8, 0x38#8, 0x02#8, 0x04#8, 0x00#8, 0x01#8, 0x33#8]
    (APDU.fromPacket c).isResponse k.request = true ∧
      ¬ (APDU.fromPacket c).Answers k.request ∧ ¬ k.Exact c := by
  intro k c
  have haccepted : (APDU.fromPacket c).isResponse k.request = true := by decide
  have hother : ¬ (APDU.fromPacket c).Answers k.request := fun h => absurd h.2 (by decide)
  exact ⟨haccepted, hother, fun h => hother (h haccepted).2⟩

end Layer7Call

end BcuSdk.Eibd
