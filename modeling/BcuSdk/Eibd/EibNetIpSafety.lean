/-
  BcuSdk.Eibd.EibNetIpSafety

  Which datagrams the EIBnet/IP parsers answer, and with what.

  A payload of any length and content is either refused or its length bytes
  fit each other and the payload, with one exception: a block of service
  families whose length byte is 0 asks for -1 services.
-/
import BcuSdk.Lib.Parser
import BcuSdk.Eibd.EibNetIpRoundTrip

namespace BcuSdk.Eibd

open BcuSdk.Lib

/-! ## Length bytes -/

/-- A block at offset `i` that announces `len` bytes, which are all there. -/
def Block (data : CArray) (i : Nat) (len : Byte) : Prop :=
  data[i]? = some len ∧ i + len.toNat ≤ data.length

/-- A block that runs to the end and has more than its length byte. -/
def LastBlock (data : CArray) (i : Nat) : Prop :=
  ∃ len : Byte, 2 ≤ len.toNat ∧ Block data i len ∧ i + len.toNat = data.length

/-- A block of service families: its two header bytes, and two bytes for each family. -/
def ServiceBlock (data : CArray) (i : Nat) : Prop :=
  ∃ len : Byte, 2 ≤ len.toNat ∧ len.toNat % 2 = 0 ∧ Block data i len

namespace EIBnetKind

/-- The length bytes of a body fit each other and the body. -/
def Consistent (k : EIBnetKind) (data : CArray) : Prop :=
  match k with
  | .searchRequest | .descriptionRequest => data.length = 8 ∧ Block data 0 8#8
  | .searchResponse => Block data 0 8#8 ∧ Block data 8 54#8 ∧ ServiceBlock data 62
  | .descriptionResponse => Block data 0 54#8 ∧ ServiceBlock data 54
  | .connectRequest => Block data 0 8#8 ∧ Block data 8 8#8 ∧ LastBlock data 16
  | .connectResponse => data.length = 2 ∨ Block data 2 8#8 ∧ LastBlock data 10
  | .connectionStateRequest | .disconnectRequest => data.length = 10 ∧ Block data 2 8#8
  | .connectionStateResponse | .disconnectResponse => data.length = 2
  | .tunnelRequest | .configRequest => 6 ≤ data.length ∧ Block data 0 4#8
  | .tunnelACK | .configACK => data.length = 4 ∧ Block data 0 4#8

end EIBnetKind

/-! ## Addresses and the frame header -/

theorem eibnetToIP_answers {buf : CArray} (src : SockaddrIn) (nat : Bool) (h : buf.length = 8) :
    Answers (eibnetToIP buf src nat) fun _ => buf[0]? = some 0x8#8 ∧ buf[1]? = some 0x1#8 := by
  rw [eibnetToIP]
  apply Answers.readByte (by omega)
  intro len hlen
  apply Answers.guard
  intro hlen8
  rw [not_not.mp hlen8] at hlen
  apply Answers.readByte (by omega)
  intro protocol hprotocol
  apply Answers.guard
  intro hprotocol1
  rw [not_not.mp hprotocol1] at hprotocol
  iterate 6
    apply Answers.readByte (by omega)
    intro _ _
  exact Answers.accept ⟨hlen, hprotocol⟩

/-- Eight bytes that begin like an address block are one. -/
theorem eibnetToIP_accepts {buf : CArray} (src : SockaddrIn) (nat : Bool) (h : buf.length = 8)
    (h0 : buf[0]? = some 0x8#8) (h1 : buf[1]? = some 0x1#8) :
    ∃ a, eibnetToIP buf src nat = .ok (some a) := by
  rw [eibnetToIP]
  rw [readByte_of_getElem? h0, Checked.ok_bind, if_neg (not_not.mpr rfl),
    readByte_of_getElem? h1, Checked.ok_bind, if_neg (not_not.mpr rfl)]
  rw [readByte_of_lt (i := 2) (by omega), Checked.ok_bind,
    readByte_of_lt (i := 3) (by omega), Checked.ok_bind,
    readByte_of_lt (i := 4) (by omega), Checked.ok_bind,
    readByte_of_lt (i := 5) (by omega), Checked.ok_bind,
    readByte_of_lt (i := 6) (by omega), Checked.ok_bind,
    readByte_of_lt (i := 7) (by omega), Checked.ok_bind]
  exact ⟨_, rfl⟩

/-- An address block of eight bytes inside of the body. -/
theorem hpai_answers {α : Type} {data : CArray} {start : Nat} (src : SockaddrIn) (nat : Bool)
    {P : α → Prop} {g : Option (SockaddrIn × Bool) → Checked (Option α)}
    (hi : start + 8 ≤ data.length) (hnone : g none = .ok none)
    (h : ∀ a, Block data start 8#8 → data[start + 1]? = some 0x1#8 → Answers (g (some a)) P) :
    Answers (do
      let ca ← readSlice data start 8
      let o ← eibnetToIP ca src nat
      g o) P := by
  apply Answers.readSlice hi
  intro ca hlen hca
  apply Answers.call (eibnetToIP_answers src nat hlen) hnone
  rintro a ⟨h0, h1⟩
  rw [hca 0 (by omega)] at h0
  rw [hca 1 (by omega)] at h1
  exact h a ⟨h0, hi⟩ h1

/-- What `fromPacket` accepts is the packet that `toPacket` writes. -/
theorem EIBNetIPPacket.fromPacket_answers (c : CArray) (src : SockaddrIn) :
    Answers (fromPacket c src) fun p => c = p.toPacket ∧ c.length < 65536 := by
  rw [fromPacket]
  apply Answers.guard
  intro hlong
  -- the six bytes of the header
  obtain ⟨b0, b1, b2, b3, b4, b5, data, rfl⟩ :
      ∃ b0 b1 b2 b3 b4 b5 data, c = b0 :: b1 :: b2 :: b3 :: b4 :: b5 :: data := by
    rcases c with _ | ⟨b0, _ | ⟨b1, _ | ⟨b2, _ | ⟨b3, _ | ⟨b4, _ | ⟨b5, data⟩⟩⟩⟩⟩⟩ <;>
      simp at hlong ⊢
  simp only [readByte_cons_zero, readByte_cons_succ, Checked.ok_bind]
  apply Answers.guard
  intro h0
  apply Answers.guard
  intro h1
  apply Answers.guard
  intro hlen
  rw [not_not] at h0 h1 hlen
  have hlt := (word16 b4 b5).isLt
  simp only [List.length_cons] at hlen
  have hdata : readSlice (b0 :: b1 :: b2 :: b3 :: b4 :: b5 :: data) 6
      ((word16 b4 b5).toNat - 6) = .ok data := by
    rw [hlen]
    exact readSlice_append_right [_, _, _, _, _, _] data
  have hword : BitVec.ofNat 16 (data.length + 6) = word16 b4 b5 := by
    rw [← BitVec.toNat_inj, hlen, BitVec.toNat_ofNat]
    omega
  rw [hdata]
  apply Answers.accept
  constructor
  · simp [toPacket, hword, h0, h1]
  · simp only [List.length_cons]
    omega

/-! ## Bodies without a service block -/

theorem EIBnetConnectRequest.parse_answers (p : ReceivedPacket) (r : EIBnetConnectRequest) :
    Answers (parse p r) fun _ => EIBnetKind.connectRequest.Consistent p.data := by
  rw [parse]
  apply Answers.guard
  intro _
  apply Answers.guard
  intro hlong
  apply hpai_answers p.src r.nat (by omega) (by rfl)
  rintro ⟨caddr, nat⟩ hca _
  apply hpai_answers p.src nat (by omega) (by rfl)
  intro _ hda _
  apply Answers.readByte (by omega)
  intro len hlen
  apply Answers.guard
  intro hmatch
  apply Answers.readSlice (by omega)
  intro _ _ _
  apply Answers.accept
  exact ⟨hca, hda, len, by omega, ⟨hlen, by omega⟩, by omega⟩

theorem EIBnetConnectResponse.parse_answers (p : ReceivedPacket) (r : EIBnetConnectResponse) :
    Answers (parse p r) fun _ => EIBnetKind.connectResponse.Consistent p.data := by
  rw [parse]
  apply Answers.guard
  intro _
  apply Answers.guard
  intro hlong
  apply Answers.readByte (by omega)
  intro status _
  -- a status other than zero ends the body
  apply Answers.branch
  · intro _
    apply Answers.guard
    intro hlen
    apply Answers.readByte (by omega)
    intro _ _
    exact Answers.accept (.inl (not_not.mp hlen))
  · intro _
    apply Answers.guard
    intro hlong'
    apply hpai_answers p.src r.nat (by omega) (by rfl)
    intro _ hda _
    apply Answers.readByte (by omega)
    intro len hlen
    apply Answers.guard
    intro hmatch
    apply Answers.readByte (by omega)
    intro _ _
    apply Answers.readSlice (by omega)
    intro _ _ _
    apply Answers.accept
    exact .inr ⟨hda, len, by omega, ⟨hlen, by omega⟩, by omega⟩

theorem parseChannelRequest_answers (service : Word16) (p : ReceivedPacket) (nat : Bool) :
    Answers (parseChannelRequest service p nat) fun _ =>
      p.data.length = 10 ∧ Block p.data 2 8#8 := by
  rw [parseChannelRequest]
  apply Answers.guard
  intro _
  apply Answers.guard
  intro hlen
  apply hpai_answers p.src nat (by omega) (by rfl)
  intro _ hca _
  apply Answers.readByte (by omega)
  intro _ _
  exact Answers.accept ⟨not_not.mp hlen, hca⟩

theorem parseChannelStatus_answers (service : Word16) (p : ReceivedPacket) :
    Answers (parseChannelStatus service p) fun _ => p.data.length = 2 := by
  rw [parseChannelStatus]
  apply Answers.guard
  intro _
  apply Answers.guard
  intro hlen
  apply Answers.readByte (by omega)
  intro _ _
  apply Answers.readByte (by omega)
  intro _ _
  exact Answers.accept (not_not.mp hlen)

theorem parseChannelFrame_answers (service : Word16) (p : ReceivedPacket) :
    Answers (parseChannelFrame service p) fun _ => 6 ≤ p.data.length ∧ Block p.data 0 4#8 := by
  rw [parseChannelFrame]
  apply Answers.guard
  intro _
  apply Answers.guard
  intro hlong
  apply Answers.readByte (by omega)
  intro head hhead
  apply Answers.guard
  intro hfour
  rw [not_not.mp hfour] at hhead
  apply Answers.readByte (by omega)
  intro _ _
  apply Answers.readByte (by omega)
  intro _ _
  apply Answers.readSlice (by omega)
  intro _ _ _
  exact Answers.accept ⟨by omega, hhead, by show 0 + 4 ≤ _; omega⟩

theorem parseChannelAck_answers (service : Word16) (p : ReceivedPacket) :
    Answers (parseChannelAck service p) fun _ => p.data.length = 4 ∧ Block p.data 0 4#8 := by
  rw [parseChannelAck]
  apply Answers.guard
  intro _
  apply Answers.guard
  intro hlen
  apply Answers.readByte (by omega)
  intro head hhead
  apply Answers.guard
  intro hfour
  rw [not_not.mp hfour] at hhead
  repeat
    apply Answers.readByte (by omega)
    intro _ _
  exact Answers.accept ⟨by omega, hhead, by show 0 + 4 ≤ _; omega⟩

theorem parseEndpoint_answers (service : Word16) (p : ReceivedPacket) (nat : Bool) :
    Answers (parseEndpoint service p nat) fun _ => p.data.length = 8 ∧ Block p.data 0 8#8 := by
  rw [parseEndpoint]
  apply Answers.guard
  intro _
  apply Answers.guard
  intro hlen
  apply (eibnetToIP_answers p.src nat (not_not.mp hlen)).mono
  rintro _ ⟨h0, _⟩
  exact ⟨not_not.mp hlen, h0, by show 0 + 8 ≤ _; omega⟩

/-! ## Bodies with a service block -/

/-- The parser of the two blocks gets as far as the count of services, and this is -1. -/
def ZeroServiceBlock (data : CArray) (base : Nat) : Prop :=
  data[base]? = some 54#8 ∧ data[base + 1]? = some 1#8 ∧ data[base + 54]? = some 0#8 ∧
    data[base + 55]? = some 2#8

namespace DeviceInfo

theorem parse_answers {data : CArray} {base : Nat} (hlong : base + 56 ≤ data.length)
    (hzero : ¬ ZeroServiceBlock data base) :
    Answers (parse data base) fun _ => Block data base 54#8 ∧ ServiceBlock data (base + 54) := by
  rw [parse]
  apply Answers.readByte (by omega)
  intro len hlen
  apply Answers.guard
  intro hlen54
  rw [not_not.mp hlen54] at hlen
  apply Answers.readByte (by omega)
  intro type htype
  apply Answers.guard
  intro htype1
  rw [not_not.mp htype1] at htype
  -- The numbers, the serial number, the two addresses and the name
  iterate 6
    apply Answers.readByte (by omega)
    intro _ _
  iterate 4
    apply Answers.step (ByteBlock.read_returns (by omega))
    intro _ _
  apply Answers.readByte (by omega)
  intro type2 htype2
  apply Answers.guard
  intro htype2'
  rw [not_not.mp htype2'] at htype2
  apply Answers.readByte (by omega)
  intro count hcount
  apply Answers.guard
  intro heven
  apply Answers.guard
  intro hinside
  -- an even count that is not 0 covers the header of its block
  have hpos : 2 ≤ count.toNat := by
    by_contra hsmall
    have hcount0 : count = 0#8 := by
      rw [← BitVec.toNat_inj]
      show count.toNat = 0
      omega
    exact hzero ⟨hlen, htype, hcount0 ▸ hcount, htype2⟩
  have hresize : resizeServices ((count.toNat : Int) / 2 - 1) = .ok (count.toNat / 2 - 1) := by
    rw [resizeServices, if_pos (by omega)]
    congr 1
    omega
  rw [hresize, Checked.ok_bind]
  apply Answers.step
  · -- every entry is inside of the block, and the block inside of the data
    apply Checked.returns_mapM
    intro i hi
    rw [List.mem_range] at hi
    rw [readByte_of_lt (by omega), Checked.ok_bind, readByte_of_lt (by omega)]
    exact ⟨_, rfl⟩
  · intro _ _
    apply Answers.accept
    exact ⟨⟨hlen, by show base + 54 ≤ _; omega⟩, count, hpos, by omega, hcount, by omega⟩

theorem parse_zero {data : CArray} {base : Nat} (hlong : base + 56 ≤ data.length)
    (hzero : ZeroServiceBlock data base) : parse data base = .error .outOfBounds := by
  obtain ⟨h0, h1, hcount, htype⟩ := hzero
  rw [parse]
  rw [readByte_of_getElem? h0, Checked.ok_bind, if_neg (not_not.mpr rfl),
    readByte_of_getElem? h1, Checked.ok_bind, if_neg (not_not.mpr rfl)]
  iterate 6
    apply Checked.bind_eq_error (readByte_returns (by omega))
    intro _ _
  iterate 4
    apply Checked.bind_eq_error (ByteBlock.read_returns (by omega))
    intro _ _
  rw [readByte_of_getElem? htype, Checked.ok_bind, if_neg (not_not.mpr rfl),
    readByte_of_getElem? hcount, Checked.ok_bind, if_neg (by decide),
    if_neg (by show ¬ 0 + (base + 54) > _; omega)]
  rfl

end DeviceInfo

namespace EIBnetDescriptionResponse

theorem parse_answers (p : ReceivedPacket)
    (hzero : ¬ (p.service = Service.descriptionResponse ∧ 56 ≤ p.data.length ∧
      ZeroServiceBlock p.data 0)) :
    Answers (parse p) fun _ => EIBnetKind.descriptionResponse.Consistent p.data := by
  rw [parse]
  apply Answers.guard
  intro hservice
  apply Answers.guard
  intro hlong
  apply Answers.call (DeviceInfo.parse_answers (by omega) fun h =>
    hzero ⟨not_not.mp hservice, by omega, h⟩) (by rfl)
  intro info hblocks
  obtain ⟨len, hpos, heven, hlen, hinside⟩ := hblocks.2
  rw [Nat.zero_add] at hlen
  dsimp only
  rw [readByte_of_getElem? hlen, Checked.ok_bind]
  apply Answers.readSlice (by omega)
  intro _ _ _
  exact Answers.accept hblocks

theorem parse_zero {p : ReceivedPacket} (hservice : p.service = Service.descriptionResponse)
    (hlong : 56 ≤ p.data.length) (hzero : ZeroServiceBlock p.data 0) :
    parse p = .error .outOfBounds := by
  rw [parse]
  rw [if_neg (not_not.mpr hservice), if_neg (by omega), DeviceInfo.parse_zero (by omega) hzero]
  rfl

end EIBnetDescriptionResponse

namespace EIBnetSearchResponse

theorem parse_answers (p : ReceivedPacket) (r : EIBnetSearchResponse)
    (hzero : ¬ (p.service = Service.searchResponse ∧ 64 ≤ p.data.length ∧
      p.data[0]? = some 0x8#8 ∧ p.data[1]? = some 0x1#8 ∧ ZeroServiceBlock p.data 8)) :
    Answers (parse p r) fun _ => EIBnetKind.searchResponse.Consistent p.data := by
  rw [parse]
  apply Answers.guard
  intro hservice
  apply Answers.guard
  intro hlong
  apply hpai_answers p.src r.nat (by omega) (by rfl)
  rintro ⟨caddr, nat⟩ hca hprotocol
  apply Answers.call (DeviceInfo.parse_answers (by omega) fun h =>
    hzero ⟨not_not.mp hservice, by omega, hca.1, hprotocol, h⟩) (by rfl)
  intro _ hblocks
  exact Answers.accept ⟨hca, hblocks⟩

theorem parse_zero {p : ReceivedPacket} (r : EIBnetSearchResponse)
    (hservice : p.service = Service.searchResponse) (hlong : 64 ≤ p.data.length)
    (h0 : p.data[0]? = some 0x8#8) (h1 : p.data[1]? = some 0x1#8)
    (hzero : ZeroServiceBlock p.data 8) : parse p r = .error .outOfBounds := by
  have hca : readSlice p.data 0 8 = .ok (p.data.take 8) := by
    rw [readSlice_of_le (by omega), List.drop_zero]
  obtain ⟨⟨caddr, nat⟩, ha⟩ : ∃ a, eibnetToIP (p.data.take 8) p.src r.nat = .ok (some a) :=
    eibnetToIP_accepts p.src r.nat
    (by rw [List.length_take]; omega)
    (by rw [List.getElem?_take_of_lt (by omega), h0])
    (by rw [List.getElem?_take_of_lt (by omega), h1])
  rw [parse]
  rw [if_neg (not_not.mpr hservice), if_neg (by omega), hca, Checked.ok_bind, ha,
    Checked.ok_bind]
  dsimp only
  rw [DeviceInfo.parse_zero (by omega) hzero]
  rfl

end EIBnetSearchResponse

/-! ## All classes -/

namespace EIBnetKind

/-- A body that is in order up to a block of service families of length 0. -/
def ZeroServices (k : EIBnetKind) (p : EIBNetIPPacket) : Prop :=
  match k with
  | .descriptionResponse =>
      p.service = Service.descriptionResponse ∧ 56 ≤ p.data.length ∧ ZeroServiceBlock p.data 0
  | .searchResponse =>
      p.service = Service.searchResponse ∧ 64 ≤ p.data.length ∧ p.data[0]? = some 0x8#8 ∧
        p.data[1]? = some 0x1#8 ∧ ZeroServiceBlock p.data 8
  | _ => False

end EIBnetKind

namespace EIBnetBody

theorem map_answers {α : Type} {x : Checked (Option α)} (f : α → EIBnetBody) {Q : Prop}
    (hx : Answers x fun _ => Q) :
    Answers (return (← x).map f : Checked (Option EIBnetBody)) fun _ => Q :=
  hx.map fun _ h => h

theorem parse_answers (status : Byte) (nat : Bool) {k : EIBnetKind} {p : ReceivedPacket}
    (hzero : ¬ k.ZeroServices p.toEIBNetIPPacket) :
    Answers (parse status nat k p) fun _ => k.Consistent p.data := by
  -- only the kinds with service families need `hzero`
  cases k with
  | searchRequest =>
      exact map_answers _ (Answers.call (parseEndpoint_answers _ p _) rfl
        fun _ h => Answers.accept h)
  | searchResponse => exact map_answers _ (EIBnetSearchResponse.parse_answers p _ hzero)
  | descriptionRequest =>
      exact map_answers _ (Answers.call (parseEndpoint_answers _ p _) rfl
        fun _ h => Answers.accept h)
  | descriptionResponse => exact map_answers _ (EIBnetDescriptionResponse.parse_answers p hzero)
  | connectRequest => exact map_answers _ (EIBnetConnectRequest.parse_answers p _)
  | connectResponse => exact map_answers _ (EIBnetConnectResponse.parse_answers p _)
  | connectionStateRequest =>
      exact map_answers _ (Answers.call (parseChannelRequest_answers _ p _) rfl
        fun _ h => Answers.accept h)
  | connectionStateResponse =>
      exact map_answers _ (Answers.call (parseChannelStatus_answers _ p) rfl
        fun _ h => Answers.accept h)
  | disconnectRequest =>
      exact map_answers _ (Answers.call (parseChannelRequest_answers _ p _) rfl
        fun _ h => Answers.accept h)
  | disconnectResponse =>
      exact map_answers _ (Answers.call (parseChannelStatus_answers _ p) rfl
        fun _ h => Answers.accept h)
  | tunnelRequest =>
      exact map_answers _ (Answers.call (parseChannelFrame_answers _ p) rfl
        fun _ h => Answers.accept h)
  | tunnelACK =>
      exact map_answers _ (Answers.call (parseChannelAck_answers _ p) rfl
        fun _ h => Answers.accept h)
  | configRequest =>
      exact map_answers _ (Answers.call (parseChannelFrame_answers _ p) rfl
        fun _ h => Answers.accept h)
  | configACK =>
      exact map_answers _ (Answers.call (parseChannelAck_answers _ p) rfl
        fun _ h => Answers.accept h)

theorem parse_zero (status : Byte) (nat : Bool) {k : EIBnetKind} {p : ReceivedPacket}
    (hzero : k.ZeroServices p.toEIBNetIPPacket) :
    parse status nat k p = .error .outOfBounds := by
  cases k with
  | searchResponse =>
      obtain ⟨hservice, hlong, h0, h1, hblock⟩ := hzero
      rw [parse, EIBnetSearchResponse.parse_zero _ hservice hlong h0 h1 hblock]
      rfl
  | descriptionResponse =>
      obtain ⟨hservice, hlong, hblock⟩ := hzero
      rw [parse, EIBnetDescriptionResponse.parse_zero hservice hlong hblock]
      rfl
  | _ => exact hzero.elim

/-- A payload is refused or its length bytes are consistent, unless it is a packet of a class
    with a block of service families, and this has the length 0. -/
theorem receive_answers_iff (status : Byte) (nat : Bool) (k : EIBnetKind) (c : CArray)
    (src : SockaddrIn) :
    Answers (receive status nat k c src) (fun _ => k.Consistent (c.drop 6)) ↔
      ¬ ∃ p : EIBNetIPPacket, c = p.toPacket ∧ c.length < 65536 ∧ k.ZeroServices p := by
  constructor
  · rintro hanswers ⟨p, rfl, hlen, hzero⟩
    rw [receive, EIBNetIPPacket.fromPacket_toPacket src hlen, Checked.ok_bind] at hanswers
    dsimp only at hanswers
    rw [parse_zero status nat hzero] at hanswers
    exact Answers.not_error hanswers
  · intro hnot
    rw [receive]
    apply Answers.call (EIBNetIPPacket.fromPacket_answers c src) (by rfl)
    rintro p ⟨rfl, hlen⟩
    exact parse_answers status nat fun hzero => hnot ⟨p.toEIBNetIPPacket, rfl, hlen, hzero⟩

/-- A description response whose service block is of length 0. -/
theorem not_receive_answers :
    ¬ ∀ (status : Byte) (nat : Bool) (k : EIBnetKind) (c : CArray) (src : SockaddrIn),
      Answers (receive status nat k c src) fun _ => k.Consistent (c.drop 6) := by
  intro h
  have hanswers := h 0#8 false .descriptionResponse
    ([0x06#8, 0x10#8, 0x02#8, 0x04#8, 0#8, 62#8, 54#8, 1#8] ++ List.replicate 52 0#8 ++
      [0#8, 2#8]) {}
  exact Answers.not_error hanswers

end EIBnetBody

end BcuSdk.Eibd
