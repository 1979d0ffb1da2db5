/-
  BcuSdk.Eibd.Queue

  eibd/libserver/queue.h: the FIFO queue that all layers are connected with.

  A queue is a linked list on the heap with a pointer to its first element and
  a pointer to the place where the pointer to the next element goes: into the
  queue itself while that is empty, into its last element otherwise.  The
  queues of a program share one heap, so an operation on one of them might
  damage another.  It does not: any number of queues behaves as as many lists
  with `Queue.get` and `Queue.top`, as the layers above have them, whatever is
  done in whatever order, and the heap holds the elements of these lists and
  nothing else.
-/
import BcuSdk.Eibd.EibNetIp
import BcuSdk.Lib.CellHeap
import BcuSdk.Lib.Loop
import BcuSdk.Lib.Simulation

namespace BcuSdk.Eibd

open BcuSdk.Lib

variable {ι α : Type} [DecidableEq ι]

/-! ## The source -/

/-- What `head` points to: `akt` of the queue, or `Next` of an element. -/
inductive Slot where
  | akt
  | next (elem : Nat)
  deriving DecidableEq, Repr

/-- The members of a `Queue<T>`. -/
structure QueueObject where
  akt : Option Nat
  head : Slot
  deriving DecidableEq, Repr

/-- `Queue ()`. -/
def QueueObject.init : QueueObject := { akt := none, head := .akt }

/-- The heap and the queues of a program. -/
structure QueueStore (ι α : Type) where
  heap : CellHeap α
  queue : ι → QueueObject

namespace QueueStore

/-- Every queue as its constructor leaves it. -/
def init : QueueStore ι α := { heap := .empty, queue := fun _ => .init }

/-- `put (el)`; `fresh` is the address that `new Entry` returns. -/
def put (fresh : CellHeap α → Nat) (s : QueueStore ι α) (i : ι) (el : α) :
    Checked (QueueStore ι α) := do
  let elem := fresh s.heap
  let heap := s.heap.set elem (some ⟨el, none⟩)
  match (s.queue i).head with
  | .akt =>
      return { heap := heap, queue := Function.update s.queue i ⟨some elem, .next elem⟩ }
  | .next last =>
      let heap ← heap.link last (some elem)
      return { heap := heap, queue := Function.update s.queue i ⟨(s.queue i).akt, .next elem⟩ }

/-- `get ()`. -/
def get (s : QueueStore ι α) (i : ι) : Checked (α × QueueStore ι α) :=
  match (s.queue i).akt with
  | none => .error .assertion
  | some e => do
      let a ← s.heap.read e
      let heap ← s.heap.delete e
      let head := if a.next = none then Slot.akt else (s.queue i).head
      return (a.entry, { heap := heap, queue := Function.update s.queue i ⟨a.next, head⟩ })

/-- `top ()`. -/
def top (s : QueueStore ι α) (i : ι) : Checked α :=
  match (s.queue i).akt with
  | none => .error .assertion
  | some e => do
      let a ← s.heap.read e
      return a.entry

/-- `isempty ()`. -/
def isempty (s : QueueStore ι α) (i : ι) : Bool := (s.queue i).akt.isNone

/-- `while (akt) get ();`, all that the destructor does.  Every pass releases an element, so there
    are no more of them than addresses below the bound of the heap. -/
def clear (s : QueueStore ι α) (i : ι) : Checked (QueueStore ι α) :=
  passes (fun s => Prod.snd <$> get s i) (fun s => s.isempty i) s.heap.bound s

/-- `put (a->entry); a = a->Next;` -/
def copyPass (fresh : CellHeap α → Nat) (i : ι) (x : QueueStore ι α × Option Nat) :
    Checked (QueueStore ι α × Option Nat) :=
  match x.2 with
  | none => .ok x
  | some a => do
      let el ← x.1.heap.read a
      let s ← x.1.put fresh i el.entry
      let el ← s.heap.read a
      return (s, el.next)

/-- `while (a)`: the loop is over when there is no element left. -/
def copyDone (x : QueueStore ι α × Option Nat) : Bool := x.2.isNone

/-- `operator = (c)` of queue `i`, where `c` is queue `j`. -/
def assign (fresh : CellHeap α → Nat) (s : QueueStore ι α) (i j : ι) :
    Checked (QueueStore ι α) := do
  let s ← s.clear i
  let x ← passes (copyPass fresh i) copyDone s.heap.bound (s, (s.queue j).akt)
  return x.1

end QueueStore

/-- What a program does to its queues. -/
inductive QueueOp (ι α : Type) where
  | put (i : ι) (el : α)
  | get (i : ι)
  | top (i : ι)
  | isempty (i : ι)
  | clear (i : ι)
  | assign (i j : ι)

/-- What an operation returns. -/
inductive QueueResult (α : Type) where
  | void
  | entry (el : α)
  | flag (b : Bool)
  deriving DecidableEq, Repr

/-- One operation on the queues in the heap. -/
def QueueStore.step (fresh : CellHeap α → Nat) (s : QueueStore ι α) :
    QueueOp ι α → Checked (QueueResult α × QueueStore ι α)
  | .put i el => do return (.void, ← s.put fresh i el)
  | .get i => do
      let r ← s.get i
      return (.entry r.1, r.2)
  | .top i => do return (.entry (← s.top i), s)
  | .isempty i => .ok (.flag (s.isempty i), s)
  | .clear i => do return (.void, ← s.clear i)
  | .assign i j => do return (.void, ← s.assign fresh i j)

/-! ## The purpose -/

/-- One operation on queues that are lists, as all other modules have them; assigning a queue to
    itself empties it. -/
def listStep (l : ι → List α) : QueueOp ι α → Checked (QueueResult α × (ι → List α))
  | .put i el => .ok (.void, Function.update l i (l i ++ [el]))
  | .get i => do
      let r ← Queue.get (l i)
      return (.entry r.1, Function.update l i r.2)
  | .top i => do return (.entry (← Queue.top (l i)), l)
  | .isempty i => .ok (.flag (l i).isEmpty, l)
  | .clear i => .ok (.void, Function.update l i [])
  | .assign i j => .ok (.void, Function.update l i (if i = j then [] else l j))

/-- Where `head` points to in a queue with the elements `l`. -/
def slotBehind (l : List (Nat × α)) : Slot :=
  match l.getLast? with
  | none => .akt
  | some c => .next c.1

/-- `l` are the addresses and the entries of the elements of the queue. -/
structure IsQueue (h : CellHeap α) (q : QueueObject) (l : List (Nat × α)) : Prop where
  chain : Chain h q.akt l none
  nodup : (l.map Prod.fst).Nodup
  head : q.head = slotBehind l

/-- The elements of all queues are apart from each other and all there is in the heap. -/
structure Holds (s : QueueStore ι α) (c : ι → List (Nat × α)) : Prop where
  isQueue : ∀ i, IsQueue s.heap (s.queue i) (c i)
  disjoint : ∀ i j, i ≠ j → ∀ a ∈ (c i).map Prod.fst, a ∉ (c j).map Prod.fst
  live : ∀ a, s.heap.cells a ≠ none → ∃ i, a ∈ (c i).map Prod.fst

/-- The store represents the lists `l`. -/
def Represents (s : QueueStore ι α) (l : ι → List α) : Prop :=
  ∃ c : ι → List (Nat × α), Holds s c ∧ ∀ i, (c i).map Prod.snd = l i

/-! ## One operation -/

theorem slotBehind_snoc (l : List (Nat × α)) (c : Nat × α) :
    slotBehind (l ++ [c]) = .next c.1 := by
  rw [slotBehind, List.getLast?_concat]

theorem slotBehind_cons_cons (c d : Nat × α) (l : List (Nat × α)) :
    slotBehind (c :: d :: l) = slotBehind (d :: l) := by
  rw [slotBehind, List.getLast?_cons_cons, slotBehind]

theorem isQueue_nil (h : CellHeap α) : IsQueue h QueueObject.init [] where
  chain := rfl
  nodup := List.nodup_nil
  head := rfl

/-- One queue changes, to elements that were its own or not live; the others are let alone. -/
theorem Holds.update {s : QueueStore ι α} {c : ι → List (Nat × α)} (hs : Holds s c) {i : ι}
    {h' : CellHeap α} {q' : QueueObject} {l' : List (Nat × α)} (hq : IsQueue h' q' l')
    (hframe : ∀ j, j ≠ i → ∀ a ∈ (c j).map Prod.fst, h'.cells a = s.heap.cells a)
    (hown : ∀ a ∈ l'.map Prod.fst, a ∈ (c i).map Prod.fst ∨ s.heap.cells a = none)
    (hlive : ∀ a, h'.cells a ≠ none →
      a ∈ l'.map Prod.fst ∨ (s.heap.cells a ≠ none ∧ a ∉ (c i).map Prod.fst)) :
    Holds { heap := h', queue := Function.update s.queue i q' } (Function.update c i l') := by
  -- what was in another queue is neither an element of this one nor released
  have hapart : ∀ j, j ≠ i → ∀ a ∈ (c j).map Prod.fst, a ∉ l'.map Prod.fst := by
    intro j hj a ha hl
    rcases hown a hl with hi | hdead
    · exact hs.disjoint j i hj a ha hi
    · exact (hs.isQueue j).chain.live a ha hdead
  refine ⟨fun j => ?_, fun j k hjk a ha => ?_, fun a ha => ?_⟩
  · dsimp only
    by_cases hj : j = i
    · subst hj
      rw [Function.update_self, Function.update_self]
      exact hq
    · rw [Function.update_of_ne hj, Function.update_of_ne hj]
      obtain ⟨hc, hn, hh⟩ := hs.isQueue j
      exact ⟨hc.congr (hframe j hj), hn, hh⟩
  · by_cases hj : j = i
    · subst hj
      rw [Function.update_self] at ha
      rw [Function.update_of_ne (Ne.symm hjk)]
      exact fun hk => hapart k (Ne.symm hjk) a hk ha
    · rw [Function.update_of_ne hj] at ha
      by_cases hk : k = i
      · subst hk
        rw [Function.update_self]
        exact hapart j hj a ha
      · rw [Function.update_of_ne hk]
        exact hs.disjoint j k hjk a ha
  · rcases hlive a ha with hl | ⟨hold, hnot⟩
    · exact ⟨i, by rwa [Function.update_self]⟩
    · obtain ⟨j, hj⟩ := hs.live a hold
      have hji : j ≠ i := by
        rintro rfl
        exact hnot hj
      exact ⟨j, by rwa [Function.update_of_ne hji]⟩

namespace QueueStore

variable {fresh : CellHeap α → Nat} {s : QueueStore ι α} {c : ι → List (Nat × α)}

/-- `put` appends an element at an address that was not live. -/
theorem put_spec (hfresh : ∀ h : CellHeap α, h.cells (fresh h) = none) (hs : Holds s c) (i : ι)
    (el : α) : ∃ s', s.put fresh i el = .ok s' ∧
      Holds s' (Function.update c i (c i ++ [(fresh s.heap, el)])) := by
  have hdead := hfresh s.heap
  generalize hb : fresh s.heap = b at hdead
  have hnew : ∀ j, b ∉ (c j).map Prod.fst := fun j hmem =>
    (hs.isQueue j).chain.live b hmem hdead
  obtain ⟨hchain, hnodup, hhead⟩ := hs.isQueue i
  have hnodup' : ((c i ++ [(b, el)]).map Prod.fst).Nodup := by
    rw [List.map_append]
    refine List.nodup_append.mpr ⟨hnodup, List.pairwise_singleton _ b, fun a ha x hx => ?_⟩
    cases List.mem_singleton.mp hx
    rintro rfl
    exact hnew i ha
  have hown : ∀ a ∈ (c i ++ [(b, el)]).map Prod.fst,
      a ∈ (c i).map Prod.fst ∨ s.heap.cells a = none := by
    intro a ha
    rw [List.map_append, List.mem_append] at ha
    rcases ha with ha | ha
    · exact .inl ha
    · cases List.mem_singleton.mp ha
      exact .inr hdead
  rcases List.eq_nil_or_concat (c i) with hnil | ⟨l, x, hsnoc⟩
  · -- the queue is empty: its own `akt` is the place
    rw [hnil] at hhead hown hnodup' ⊢
    have hput : s.put fresh i el = .ok
        { heap := s.heap.set b (some ⟨el, none⟩),
          queue := Function.update s.queue i ⟨some b, .next b⟩ } := by
      rw [put, hb, hhead]
      rfl
    refine ⟨_, hput, hs.update ⟨?_, hnodup', rfl⟩ (fun j _ a ha => ?_) ?_ (fun a ha => ?_)⟩
    · simp
    · have hne : a ≠ b := by
        rintro rfl
        exact hnew j ha
      rw [CellHeap.set_cells, if_neg hne]
    · rw [hnil]
      exact hown
    · by_cases hab : a = b
      · exact .inl (by simp [hab])
      · rw [CellHeap.set_cells, if_neg hab] at ha
        exact .inr ⟨ha, by rw [hnil]; simp⟩
  · -- the place is `Next` of the last element
    obtain ⟨a, y⟩ := x
    rw [List.concat_eq_append] at hsnoc
    rw [hsnoc] at hhead hchain hnodup hown hnodup' ⊢
    rw [slotBehind_snoc] at hhead
    have hbi : b ∉ (l ++ [(a, y)]).map Prod.fst := by
      rw [← hsnoc]
      exact hnew i
    have hab : a ≠ b := by
      rintro rfl
      exact hbi (by simp)
    have hcell : (s.heap.set b (some ⟨el, none⟩)).cells a = some ⟨y, none⟩ := by
      obtain ⟨r, -, -, next, ha, hend⟩ := chain_append.mp hchain
      cases hend
      rw [CellHeap.set_cells, if_neg hab, ha]
    have hput : s.put fresh i el = .ok
        { heap := (s.heap.set b (some ⟨el, none⟩)).set a (some ⟨y, some b⟩),
          queue := Function.update s.queue i ⟨(s.queue i).akt, .next b⟩ } := by
      rw [put, hb, hhead]
      dsimp only
      rw [CellHeap.link_of hcell]
      rfl
    refine ⟨_, hput, hs.update ⟨hchain.snoc hnodup hbi, hnodup', ?_⟩ (fun j hj x hx => ?_) ?_
      (fun x hx => ?_)⟩
    · rw [slotBehind_snoc]
    · have hxb : x ≠ b := by
        rintro rfl
        exact hnew j hx
      have hxa : x ≠ a := by
        rintro rfl
        exact hs.disjoint j i hj x hx (by rw [hsnoc]; simp)
      rw [CellHeap.set_cells, if_neg hxa, CellHeap.set_cells, if_neg hxb]
    · rw [hsnoc]
      exact hown
    · by_cases hxa : x = a
      · exact .inl (by simp [hxa])
      · by_cases hxb : x = b
        · exact .inl (by simp [hxb])
        · rw [CellHeap.set_cells, if_neg hxa, CellHeap.set_cells, if_neg hxb] at hx
          by_cases hxi : x ∈ (c i).map Prod.fst
          · rw [hsnoc] at hxi
            exact .inl (by rw [List.map_append]; exact List.mem_append_left _ hxi)
          · exact .inr ⟨hx, hxi⟩

omit [DecidableEq ι] in
theorem akt_of_nil (hs : Holds s c) {i : ι} (hi : c i = []) : (s.queue i).akt = none := by
  have hstart := (hs.isQueue i).chain.start
  rwa [hi] at hstart

omit [DecidableEq ι] in
theorem akt_of_cons (hs : Holds s c) {i : ι} {a : Nat} {x : α} {l : List (Nat × α)}
    (hi : c i = (a, x) :: l) : (s.queue i).akt = some a ∧
      s.heap.cells a = some ⟨x, l.head?.map Prod.fst⟩ := by
  have hchain := (hs.isQueue i).chain
  rw [hi] at hchain
  obtain ⟨hakt, next, ha, hrest⟩ := hchain
  rw [← hrest.start]
  exact ⟨hakt, ha⟩

omit [DecidableEq ι] in
theorem isempty_spec (hs : Holds s c) (i : ι) : s.isempty i = (c i).isEmpty := by
  rcases hi : c i with _ | ⟨⟨a, x⟩, l⟩
  · rw [isempty, akt_of_nil hs hi]
    rfl
  · rw [isempty, (akt_of_cons hs hi).1]
    rfl

omit [DecidableEq ι] in
theorem top_spec (hs : Holds s c) {i : ι} {a : Nat} {x : α} {l : List (Nat × α)}
    (hi : c i = (a, x) :: l) : s.top i = .ok x := by
  obtain ⟨hakt, ha⟩ := akt_of_cons hs hi
  rw [top, hakt]
  dsimp only
  rw [CellHeap.read_of ha]
  rfl

/-- `get` returns the first element and releases it. -/
theorem get_spec (hs : Holds s c) {i : ι} {a : Nat} {x : α} {l : List (Nat × α)}
    (hi : c i = (a, x) :: l) :
    ∃ s', s.get i = .ok (x, s') ∧ Holds s' (Function.update c i l) ∧
      s'.heap.bound = s.heap.bound := by
  obtain ⟨hakt, ha⟩ := akt_of_cons hs hi
  obtain ⟨hchain, hnodup, hhead⟩ := hs.isQueue i
  rw [hi] at hchain hnodup hhead
  obtain ⟨-, next, ha', hrest⟩ := hchain
  have hnext : next = l.head?.map Prod.fst := hrest.start
  obtain ⟨hal, hnodup'⟩ := List.nodup_cons.mp hnodup
  have hbound : (s.heap.set a none).bound = s.heap.bound := by
    have hlt : a < s.heap.bound := CellHeap.lt_bound (by rw [ha]; simp)
    exact Nat.max_eq_left hlt
  have hget : s.get i = .ok (x,
      { heap := s.heap.set a none, queue := Function.update s.queue i
          ⟨next, if next = none then Slot.akt else (s.queue i).head⟩ }) := by
    rw [get, hakt]
    dsimp only
    rw [CellHeap.read_of ha', CellHeap.delete_of ha']
    rfl
  refine ⟨_, hget, hs.update ⟨hrest.set_of_not_mem hal, hnodup', ?_⟩ (fun j hj y hy => ?_)
    (fun y hy => ?_) (fun y hy => ?_), hbound⟩
  · -- behind the last element the pointer returns to the queue itself
    rcases l with _ | ⟨d, l⟩
    · rw [hnext]
      rfl
    · rw [hnext, hhead, slotBehind_cons_cons]
      rfl
  · have hne : y ≠ a := by
      rintro rfl
      exact hs.disjoint j i hj y hy (by rw [hi]; simp)
    rw [CellHeap.set_cells, if_neg hne]
  · rw [hi]
    exact .inl (List.mem_cons_of_mem _ hy)
  · have hne : y ≠ a := by
      rintro rfl
      simp at hy
    rw [CellHeap.set_cells, if_neg hne] at hy
    by_cases hyl : y ∈ l.map Prod.fst
    · exact .inl hyl
    · refine .inr ⟨hy, ?_⟩
      rw [hi, List.map_cons, List.mem_cons]
      rintro (hya | hmem)
      · exact hne hya
      · exact hyl hmem

/-- The loop of the destructor ends, and nothing is left of the queue. -/
theorem clear_passes (i : ι) {n : Nat} (hs : Holds s c) (hn : (c i).length ≤ n) :
    ∃ s', passes (fun s => Prod.snd <$> get s i) (fun s => s.isempty i) n s = .ok s' ∧
      Holds s' (Function.update c i []) := by
  induction n generalizing s c with
  | zero =>
      have hnil : c i = [] := List.eq_nil_of_length_eq_zero (Nat.le_zero.mp hn)
      refine ⟨s, rfl, ?_⟩
      rwa [← hnil, Function.update_eq_self]
  | succ n ih =>
      rcases hi : c i with _ | ⟨⟨a, x⟩, l⟩
      · have hdone : s.isempty i = true := by
          rw [isempty_spec hs, hi]
          rfl
        refine ⟨s, @passes_of_done _ _ (isempty · i) s hdone _, ?_⟩
        rwa [← hi, Function.update_eq_self]
      · have hgoes : s.isempty i = false := by
          rw [isempty_spec hs, hi]
          rfl
        obtain ⟨s₁, hget, hs₁, -⟩ := get_spec hs hi
        have hlen : (Function.update c i l i).length ≤ n := by
          rw [hi, List.length_cons] at hn
          rw [Function.update_self]
          exact Nat.le_of_succ_le_succ hn
        obtain ⟨s', hrest, hs'⟩ := ih hs₁ hlen
        refine ⟨s', ?_, by rwa [Function.update_idem] at hs'⟩
        rw [@passes_succ _ _ (isempty · i) s hgoes, hget]
        exact hrest

theorem clear_spec (hs : Holds s c) (i : ι) :
    ∃ s', s.clear i = .ok s' ∧ Holds s' (Function.update c i []) :=
  clear_passes i hs ((hs.isQueue i).chain.length_le (hs.isQueue i).nodup)

/-- The loop of the assignment appends what is left of the other queue. -/
theorem copy_passes (hfresh : ∀ h : CellHeap α, h.cells (fresh h) = none) {i j : ι} (hij : i ≠ j)
    {n : Nat} {visited rest : List (Nat × α)} (hs : Holds s c) (hj : c j = visited ++ rest)
    (hn : rest.length ≤ n) :
    ∃ s' l, passes (copyPass fresh i) copyDone n (s, rest.head?.map Prod.fst) =
        .ok (s', none) ∧
      Holds s' (Function.update c i (c i ++ l)) ∧ l.map Prod.snd = rest.map Prod.snd := by
  induction n generalizing s c visited rest with
  | zero =>
      obtain rfl : rest = [] := List.eq_nil_of_length_eq_zero (Nat.le_zero.mp hn)
      refine ⟨s, [], rfl, ?_, rfl⟩
      rwa [List.append_nil, Function.update_eq_self]
  | succ n ih =>
      rcases rest with _ | ⟨⟨a, x⟩, rest⟩
      · refine ⟨s, [], passes_of_done rfl _, ?_, rfl⟩
        rwa [List.append_nil, Function.update_eq_self]
      · -- the element is still there after `put`, for that changes nothing in the other queue
        have hcell {s : QueueStore ι α} {c : ι → List (Nat × α)} (hs : Holds s c)
            (hj : c j = visited ++ (a, x) :: rest) :
            s.heap.cells a = some ⟨x, rest.head?.map Prod.fst⟩ := by
          have hchain := (hs.isQueue j).chain
          rw [hj] at hchain
          obtain ⟨r, -, -, next, ha, hrest⟩ := chain_append.mp hchain
          rw [← hrest.start]
          exact ha
        obtain ⟨s₁, hput, hs₁⟩ := put_spec hfresh hs i x
        have hj₁ : Function.update c i (c i ++ [(fresh s.heap, x)]) j =
            visited ++ (a, x) :: rest := by
          rw [Function.update_of_ne (Ne.symm hij), hj]
        have hpass : copyPass fresh i (s, some a) =
            .ok (s₁, rest.head?.map Prod.fst) := by
          rw [copyPass]
          dsimp only
          rw [CellHeap.read_of (hcell hs hj), Checked.ok_bind, hput, Checked.ok_bind,
            CellHeap.read_of (hcell hs₁ hj₁)]
          rfl
        have hj₂ : Function.update c i (c i ++ [(fresh s.heap, x)]) j =
            (visited ++ [(a, x)]) ++ rest := by
          rw [hj₁, List.append_assoc]
          rfl
        obtain ⟨s', l, hloop, hs', hl⟩ := ih hs₁ hj₂ (Nat.le_of_succ_le_succ hn)
        refine ⟨s', (fresh s.heap, x) :: l, ?_, ?_, ?_⟩
        · rw [passes_succ rfl]
          exact (congrArg (· >>= _) hpass).trans hloop
        · rw [Function.update_self, Function.update_idem, List.append_assoc] at hs'
          exact hs'
        · rw [List.map_cons, List.map_cons, hl]

/-- An assignment copies the other queue; from itself, it finds nothing left to copy. -/
theorem assign_spec (hfresh : ∀ h : CellHeap α, h.cells (fresh h) = none) (hs : Holds s c)
    (i j : ι) : ∃ s' l, s.assign fresh i j = .ok s' ∧ Holds s' (Function.update c i l) ∧
      l.map Prod.snd = if i = j then [] else (c j).map Prod.snd := by
  obtain ⟨s₁, hclear, hs₁⟩ := clear_spec hs i
  by_cases hij : i = j
  · subst hij
    have hakt : (s₁.queue i).akt = none := akt_of_nil hs₁ (Function.update_self ..)
    refine ⟨s₁, [], ?_, hs₁, by rw [if_pos rfl]; rfl⟩
    rw [assign, hclear, Checked.ok_bind, hakt, passes_of_done rfl]
    rfl
  · have hj : Function.update c i [] j = [] ++ c j := by
      rw [Function.update_of_ne (Ne.symm hij), List.nil_append]
    have hlen : (c j).length ≤ s₁.heap.bound := by
      have hq := hs₁.isQueue j
      rw [hj] at hq
      exact hq.chain.length_le hq.nodup
    obtain ⟨s', l, hloop, hs', hl⟩ := copy_passes hfresh hij hs₁ hj hlen
    have hakt : (s₁.queue j).akt = (c j).head?.map Prod.fst := by
      have hstart := (hs₁.isQueue j).chain.start
      rwa [hj] at hstart
    refine ⟨s', l, ?_, ?_, by rw [if_neg hij, hl]⟩
    · rw [assign, hclear, Checked.ok_bind, hakt, hloop]
      rfl
    · rwa [Function.update_self, List.nil_append, Function.update_idem] at hs'

end QueueStore

/-! ## Whole runs -/

omit [DecidableEq ι] in
theorem represents_init : Represents (QueueStore.init : QueueStore ι α) fun _ => [] :=
  ⟨fun _ => [], ⟨fun _ => isQueue_nil _, fun _ _ _ _ h => absurd h List.not_mem_nil,
    fun _ h => absurd rfl h⟩, fun _ => rfl⟩

theorem Represents.of_update {s : QueueStore ι α} {c : ι → List (Nat × α)} {i : ι}
    {l : List (Nat × α)} {m : ι → List α} {k : List α} (hs : Holds s (Function.update c i l))
    (hm : ∀ j, (c j).map Prod.snd = m j) (hl : l.map Prod.snd = k) :
    Represents s (Function.update m i k) := by
  refine ⟨_, hs, fun j => ?_⟩
  by_cases hj : j = i
  · subst hj
    rw [Function.update_self, Function.update_self, hl]
  · rw [Function.update_of_ne hj, Function.update_of_ne hj, hm]

/-- Every operation does to the heap what it does to the lists. -/
theorem queue_simulates {fresh : CellHeap α → Nat}
    (hfresh : ∀ h : CellHeap α, h.cells (fresh h) = none) :
    Simulates (Represents (ι := ι)) (QueueStore.step fresh) listStep := by
  rintro s m op ⟨c, hs, hm⟩
  cases op with
  | put i el =>
      obtain ⟨s', hput, hs'⟩ := QueueStore.put_spec hfresh hs i el
      rw [QueueStore.step, hput]
      exact .ok (.of_update hs' hm (by rw [List.map_append, hm]; rfl))
  | get i =>
      rw [QueueStore.step, listStep, ← hm i]
      rcases hi : c i with _ | ⟨⟨a, x⟩, l⟩
      · rw [QueueStore.get, QueueStore.akt_of_nil hs hi]
        exact .error _
      · obtain ⟨s', hget, hs', -⟩ := QueueStore.get_spec hs hi
        rw [hget]
        exact .ok (.of_update hs' hm rfl)
  | top i =>
      rw [QueueStore.step, listStep, ← hm i]
      rcases hi : c i with _ | ⟨⟨a, x⟩, l⟩
      · rw [QueueStore.top, QueueStore.akt_of_nil hs hi]
        exact .error _
      · rw [QueueStore.top_spec hs hi]
        exact .ok ⟨c, hs, hm⟩
  | isempty i =>
      rw [QueueStore.step, listStep, QueueStore.isempty_spec hs, ← hm i, List.isEmpty_map]
      exact .ok ⟨c, hs, hm⟩
  | clear i =>
      obtain ⟨s', hclear, hs'⟩ := QueueStore.clear_spec hs i
      rw [QueueStore.step, hclear]
      exact .ok (.of_update hs' hm rfl)
  | assign i j =>
      obtain ⟨s', l, hassign, hs', hl⟩ := QueueStore.assign_spec hfresh hs i j
      rw [QueueStore.step, hassign]
      exact .ok (.of_update hs' hm (by rw [hl, hm]))

/-- Whatever a program does to its queues, it sees the same as with lists; at the end the heap holds
    the elements of these lists and nothing else. -/
theorem queues_are_lists (fresh : CellHeap α → Nat)
    (hfresh : ∀ h : CellHeap α, h.cells (fresh h) = none) (ops : List (QueueOp ι α)) :
    Agree Represents (transcript (QueueStore.step fresh) QueueStore.init ops)
      (transcript listStep (fun _ => []) ops) :=
  (queue_simulates hfresh).transcript represents_init ops

/-- A queue of bytes is filled, copied over another one and assigned to itself; `new` takes the
    address behind all live ones. -/
theorem queues_are_lists_copy :
    Agree Represents
      (transcript (QueueStore.step CellHeap.bound) QueueStore.init
        [.put 0 1#8, .put 0 2#8, .put 1 3#8, .assign 1 0, .assign 0 0, .get (1 : Nat)])
      (transcript listStep (fun _ => [])
        [.put 0 1#8, .put 0 2#8, .put 1 3#8, .assign 1 0, .assign 0 0, .get 1]) :=
  queues_are_lists CellHeap.bound (fun h => h.dead_above _ (Nat.le_refl _)) _

end BcuSdk.Eibd
