/-
  BcuSdk.Lib.StopAndWait

  Stop and wait transfer over a network that may lose, delay, reorder and
  duplicate what is sent.

  A sender repeats the frame in front of its queue until it is acknowledged, a
  receiver takes the frames with the number it expects; both number modulo `M`.
  `Link` is the history of one direction, with frames named by their place in
  the queue.  `Link.Sound` holds as long as no number is used for two frames,
  and `Link.Sound.delivered` is what the sender may then rely on.  The
  `_of_number` lemmas say that for datagrams of less than `M` uses of the number
  ago, a number determines the use.
-/
import BcuSdk.Lib.Bytes
import Mathlib.Data.List.Nodup
import Mathlib.Data.Nat.ModEq

namespace BcuSdk.Lib

/-- Numbers less than a whole cycle apart are told apart by their remainders. -/
theorem eq_of_mod_eq {M a b : Nat} (h : a % M = b % M) (hle : a ≤ b) (hlt : b < a + M) : a = b := by
  have hdvd : M ∣ b - a := (Nat.modEq_iff_dvd' hle).mp h
  have hzero : b - a = 0 := Nat.eq_zero_of_dvd_of_lt hdvd (by omega)
  omega

/-! ## Histories -/

/-- The history of one direction. -/
structure Link (α : Type) where
  /-- All frames ever queued. -/
  queued : List α := []
  /-- How many of them have left the queue. -/
  popped : Nat := 0
  /-- Those that left it on an acknowledgement, -/
  acked : List Nat := []
  /-- and those that left it without one. -/
  dropped : List Nat := []
  /-- What the receiver took, -/
  taken : List Nat := []
  /-- and what it discarded as a repetition. -/
  repeated : List Nat := []
  /-- The frames the receiver took, as it saw them. -/
  delivered : List α := []
  deriving DecidableEq, Repr

namespace Link

variable {α : Type}

def put (l : Link α) (c : α) : Link α := { l with queued := l.queued ++ [c] }

/-- The frame in front leaves the queue on an acknowledgement. -/
def ack (l : Link α) : Link α := { l with acked := l.acked ++ [l.popped], popped := l.popped + 1 }

/-- The frame in front leaves the queue without one. -/
def drop (l : Link α) : Link α :=
  { l with dropped := l.dropped ++ [l.popped], popped := l.popped + 1 }

/-- The receiver takes frame `i`, which it sees as `c`. -/
def take (l : Link α) (i : Nat) (c : α) : Link α :=
  { l with taken := l.taken ++ [i], delivered := l.delivered ++ [c] }

/-- The receiver discards frame `i` as a repetition. -/
def discard (l : Link α) (i : Nat) : Link α := { l with repeated := l.repeated ++ [i] }

/-- What the sender may rely on: a frame acknowledged has been taken exactly once, the frames
    are taken in the order of the queue and unchanged, and what was only ever discarded is never
    acknowledged. -/
structure Delivered (l : Link α) : Prop where
  once : ∀ i ∈ l.acked, l.taken.count i = 1
  inOrder : l.taken.Pairwise (· < ·)
  content : l.delivered.map some = l.taken.map (l.queued[·]?)
  discarded : ∀ i ∈ l.repeated, i ∉ l.taken → i ∉ l.acked

/-- The receiver is at most one frame ahead, and that frame is the one in front of the queue. -/
structure Sound (l : Link α) : Prop where
  acked : ∀ i ∈ l.acked, i < l.popped
  inOrder : l.acked.Pairwise (· < ·)
  taken : l.taken = l.acked ∨ l.taken = l.acked ++ [l.popped]
  content : l.delivered.map some = l.taken.map (l.queued[·]?)

/-- Frame `i` has been sent when `use` frames had been acknowledged: it is still in front of the
    queue, has been given up, or was the next one to be acknowledged. -/
structure Sent (l : Link α) (i use : Nat) : Prop where
  bound : use ≤ l.acked.length
  place : (i = l.popped ∧ use = l.acked.length) ∨ i ∈ l.dropped ∨ l.acked[use]? = some i

theorem sent_front (l : Link α) : l.Sent l.popped l.acked.length :=
  ⟨Nat.le_refl _, .inl ⟨rfl, rfl⟩⟩

/-! ## Soundness -/

namespace Sound

variable {l : Link α}

/-- The frame in front of the queue has been taken, or has not. -/
theorem length_taken (h : l.Sound) :
    l.taken.length = l.acked.length ∨ l.taken.length = l.acked.length + 1 := by
  rcases h.taken with h | h
  · exact .inl (by rw [h])
  · exact .inr (by rw [h, List.length_append, List.length_singleton])

theorem taken_of_length_eq (h : l.Sound) (hlen : l.taken.length = l.acked.length) :
    l.taken = l.acked := by
  rcases h.taken with h | h
  · exact h
  · rw [h, List.length_append, List.length_singleton] at hlen
    omega

theorem taken_of_length_succ (h : l.Sound) (hlen : l.taken.length = l.acked.length + 1) :
    l.taken = l.acked ++ [l.popped] := by
  rcases h.taken with h | h
  · rw [h] at hlen
    omega
  · exact h

theorem mem_taken (h : l.Sound) {i : Nat} (hi : i ∈ l.acked) : i ∈ l.taken := by
  rcases h.taken with h | h
  · rwa [h]
  · rw [h]
    exact List.mem_append_left _ hi

theorem acked_popped_inOrder (h : l.Sound) : (l.acked ++ [l.popped]).Pairwise (· < ·) := by
  refine List.pairwise_append.mpr ⟨h.inOrder, List.pairwise_singleton .., fun i hi j hj => ?_⟩
  rw [List.mem_singleton.mp hj]
  exact h.acked i hi

theorem taken_inOrder (h : l.Sound) : l.taken.Pairwise (· < ·) := by
  rcases h.taken with ht | ht
  · rw [ht]
    exact h.inOrder
  · rw [ht]
    exact h.acked_popped_inOrder

theorem delivered (h : l.Sound) : l.Delivered where
  once _ hi := List.count_eq_one_of_mem h.taken_inOrder.nodup (h.mem_taken hi)
  inOrder := h.taken_inOrder
  content := h.content
  discarded _ _ htaken hacked := htaken (h.mem_taken hacked)

/-- Every frame taken is in the queue. -/
theorem queued_of_taken (h : l.Sound) {i : Nat} (hi : i ∈ l.taken) :
    ∃ c, l.queued[i]? = some c := by
  have hmem : l.queued[i]? ∈ l.delivered.map some := by
    rw [h.content]
    exact List.mem_map_of_mem hi
  obtain ⟨c, -, hc⟩ := List.mem_map.mp hmem
  exact ⟨c, hc.symm⟩

theorem lt_of_taken (h : l.Sound) {i : Nat} (hi : i ∈ l.taken) : i < l.queued.length := by
  obtain ⟨c, hc⟩ := h.queued_of_taken hi
  exact (List.getElem?_eq_some_iff.mp hc).1

theorem put (h : l.Sound) (c : α) : (l.put c).Sound := by
  refine ⟨h.acked, h.inOrder, h.taken, h.content.trans (List.map_congr_left fun i hi => ?_)⟩
  exact (List.getElem?_append_left (h.lt_of_taken hi)).symm

theorem ack (h : l.Sound) (htaken : l.taken.length = l.acked.length + 1) : l.ack.Sound := by
  have ht := h.taken_of_length_succ htaken
  refine ⟨fun i hi => ?_, h.acked_popped_inOrder, .inl ht, h.content⟩
  rcases List.mem_append.mp hi with hi | hi
  · exact Nat.lt_succ_of_lt (h.acked i hi)
  · rw [List.mem_singleton.mp hi]
    exact Nat.lt_succ_self _

theorem drop (h : l.Sound) (htaken : l.taken.length = l.acked.length) : l.drop.Sound :=
  ⟨fun i hi => Nat.lt_succ_of_lt (h.acked i hi), h.inOrder, .inl (h.taken_of_length_eq htaken),
    h.content⟩

theorem take (h : l.Sound) (htaken : l.taken.length = l.acked.length) {c : α}
    (hc : l.queued[l.popped]? = some c) : (l.take l.popped c).Sound := by
  have ht := h.taken_of_length_eq htaken
  refine ⟨h.acked, h.inOrder, .inr ?_, ?_⟩
  · simp only [Link.take, ht]
  · simp only [Link.take, List.map_append, h.content, List.map_cons, List.map_nil, hc]

theorem discard (h : l.Sound) (i : Nat) : (l.discard i).Sound :=
  ⟨h.acked, h.inOrder, h.taken, h.content⟩

/-! ## Numbers -/

variable {M i use : Nat}

/-- A frame with the number the receiver expects is in front of the queue, and has not been
    taken. -/
theorem front_of_number (h : l.Sound) (hsent : l.Sent i use) (hkept : i ∉ l.dropped)
    (hnum : use % M = l.taken.length % M) (hage : l.taken.length < use + M) :
    i = l.popped ∧ l.taken.length = l.acked.length := by
  have hlen := h.length_taken
  have hbound := hsent.bound
  have huse : use = l.taken.length := eq_of_mod_eq hnum (by omega) hage
  rcases hsent.place with ⟨hi, -⟩ | hi | hi
  · exact ⟨hi, by omega⟩
  · exact absurd hi hkept
  · -- a frame acknowledged since then has been taken under this number
    have := (List.getElem?_eq_some_iff.mp hi).1
    omega

/-- An answer with the number of the sender is about the frame in front of the queue, which has
    been taken. -/
theorem taken_of_number (h : l.Sound) (huse : use ≤ l.taken.length)
    (hnum : use % M = (l.acked.length + 1) % M) (hage : l.acked.length + 1 < use + M) :
    l.taken.length = l.acked.length + 1 := by
  have hlen := h.length_taken
  have : use = l.acked.length + 1 := eq_of_mod_eq hnum (by omega) hage
  omega

end Sound

/-! ## Frames under way -/

namespace Sent

variable {l : Link α} {i use : Nat}

theorem put (h : l.Sent i use) (c : α) : (l.put c).Sent i use := ⟨h.bound, h.place⟩

theorem take (h : l.Sent i use) (j : Nat) (c : α) : (l.take j c).Sent i use := ⟨h.bound, h.place⟩

theorem discard (h : l.Sent i use) (j : Nat) : (l.discard j).Sent i use := ⟨h.bound, h.place⟩

theorem ack (h : l.Sent i use) : l.ack.Sent i use := by
  refine ⟨?_, .inr ?_⟩
  · simp only [Link.ack, List.length_append, List.length_singleton]
    exact Nat.le_succ_of_le h.bound
  · rcases h.place with ⟨rfl, rfl⟩ | hi | hi
    -- the frame in front becomes the last one acknowledged
    · exact .inr (by simp [Link.ack])
    · exact .inl hi
    · right
      rw [← hi]
      exact List.getElem?_append_left (List.getElem?_eq_some_iff.mp hi).1

theorem drop (h : l.Sent i use) : l.drop.Sent i use := by
  refine ⟨h.bound, .inr ?_⟩
  rcases h.place with ⟨rfl, -⟩ | hi | hi
  -- the frame in front joins those given up
  · exact .inl (List.mem_append_right _ (List.mem_singleton_self _))
  · exact .inl (List.mem_append_left _ hi)
  · exact .inr hi

end Sent

end Link

end BcuSdk.Lib
