import ReleaseFeed.Proofs.Telemetry.Ring

/-! # A ring answers as a bounded queue

A queue with a bound is a list: what is pushed goes to its end, what is popped comes from its front, and
when it is as long as the bound a push is refused.  A ring of the same capacity gives the same answers to
every sequence of requests, because each of them keeps the ring at the content of the queue
(`Carries.answer`, `Carries.run`).

The operations of a ring are total, and so is the remainder by zero.  `checkedPush?` and `checkedPop?` are
the same operations with every remainder and every index written out; where one of these has no result,
neither have they.  On a ring that comes from the empty one they never fail, and do what the operations do
(`Carries.checkedPush?_eq`, `Carries.checkedPop?_eq`).
-/
namespace ReleaseFeed.Telemetry.Ring

/-! ## Requests and answers -/

/-- What is asked of a queue. -/
inductive Request (α : Type) where
  | push (a : α)
  | pop
deriving DecidableEq

/-- What a queue answers. -/
inductive Answer (α : Type) where
  /-- The element was added at the end. -/
  | added
  /-- There is no room, and the element is handed back. -/
  | refused (a : α)
  /-- The element was at the front. -/
  | popped (a : α)
  /-- There is nothing to pop. -/
  | nothing
deriving DecidableEq

variable {α : Type}

/-- What a queue that may hold `capacity` elements answers, and what it holds then. -/
def queueAnswer (capacity : Nat) (content : List α) : Request α → Answer α × List α
  | .push a => if content.length < capacity then (.added, content ++ [a]) else (.refused a, content)
  | .pop =>
    match content with
    | [] => (.nothing, [])
    | a :: rest => (.popped a, rest)

/-- The answers of a queue to a sequence of requests, and what it holds in the end. -/
def queueRun (capacity : Nat) : List α → List (Request α) → List (Answer α) × List α
  | content, [] => ([], content)
  | content, request :: rest =>
    let first := queueAnswer capacity content request
    let others := queueRun capacity first.2 rest
    (first.1 :: others.1, others.2)

section Operations
variable [Inhabited α]

/-- What a ring answers, and the ring then. -/
def answer (r : Ring α) : Request α → Answer α × Ring α
  | .push a =>
    match r.push a with
    | .ok r' => (.added, r')
    | .error back => (.refused back, r)
  | .pop =>
    match r.pop? with
    | some (a, r') => (.popped a, r')
    | none => (.nothing, r)

/-- The answers of a ring to a sequence of requests, and the ring in the end. -/
def run : Ring α → List (Request α) → List (Answer α) × Ring α
  | r, [] => ([], r)
  | r, request :: rest =>
    let first := r.answer request
    let others := run first.2 rest
    (first.1 :: others.1, others.2)

/-! ## Checked operations -/

/-- The remainder, if the divisor is not zero. -/
def remainder? (n m : Nat) : Option Nat :=
  if m = 0 then none else some (n % m)

/-- The slots with another element in the slot `i`, if there is such a slot. -/
def setSlot? (slots : Array α) (i : Nat) (a : α) : Option (Array α) :=
  if i < slots.size then some (slots.setIfInBounds i a) else none

/-- A push, if all its remainders and indices have a result. -/
def checkedPush? (r : Ring α) (a : α) : Option (Except α (Ring α)) :=
  if r.isFull then
    some (.error a)
  else do
    let tail ← remainder? (r.head + r.count) r.capacity
    let slots ← setSlot? r.slots tail a
    return .ok { r with slots, count := r.count + 1 }

/-- A pop, if all its remainders and indices have a result. -/
def checkedPop? (r : Ring α) : Option (Option (α × Ring α)) :=
  if r.isEmpty then
    some none
  else do
    let a ← r.slots[r.head]?
    let head ← remainder? (r.head + 1) r.capacity
    return some (a, { r with head, count := r.count - 1 })

end Operations

/-! ## What a ring holds -/

section Content
variable {capacity : Nat} {r : Ring α} {content : List α}

theorem head_of_push {a : α} {r' : Ring α} (h : r.push a = .ok r') : r'.head = r.head := by
  unfold push at h
  split_ifs at h
  cases h
  rfl

variable [Inhabited α]

theorem head_of_pop? {a : α} {r' : Ring α} (h : r.pop? = some (a, r')) :
    r'.head = (r.head + 1) % r.capacity := by
  unfold pop? at h
  split_ifs at h
  cases h
  rfl

/-- A ring that holds the content of a queue. -/
structure Carries (capacity : Nat) (r : Ring α) (content : List α) : Prop where
  capacity_eq : r.capacity = capacity
  head_lt : 0 < capacity → r.head < capacity
  count_le : r.count ≤ capacity
  toList_eq : r.toList = content

theorem carries_ofCapacity (capacity : Nat) : Carries capacity (ofCapacity capacity : Ring α) [] where
  capacity_eq := capacity_ofCapacity capacity
  head_lt hpos := hpos
  count_le := Nat.zero_le _
  toList_eq := rfl

namespace Carries

theorem count_eq (h : Carries capacity r content) : r.count = content.length := by
  rw [← h.toList_eq, length_toList]

/-- The elements sit in the slots from the head on. -/
theorem slot (h : Carries capacity r content) {i : Nat} (hi : i < r.count) :
    r.slots[(r.head + i) % capacity]? = content[i]? := by
  have hpos : 0 < r.capacity := by
    have hle := h.count_le
    have hcapacity := h.capacity_eq
    omega
  have hslot : (r.head + i) % r.capacity < r.slots.size := Nat.mod_lt _ hpos
  have hnth : content[i]? = some (r.nth i) := by
    rw [← h.toList_eq, toList, List.getElem?_map, List.getElem?_range hi, Option.map_some]
  rw [hnth, nth, ← h.capacity_eq, Array.getD_eq_getD_getElem?, Array.getElem?_eq_getElem hslot,
    Option.getD_some]

theorem push_of_room (h : Carries capacity r content) (hroom : r.count < capacity) (a : α) :
    ∃ r', r.answer (.push a) = (.added, r') ∧ Carries capacity r' (content ++ [a]) := by
  obtain ⟨r', hpush, hlist, hcount, hcapacity⟩ :=
    Ring.push_of_room (a := a) (h.capacity_eq ▸ hroom)
  refine ⟨r', by rw [answer, hpush], ?_⟩
  exact {
    capacity_eq := hcapacity.trans h.capacity_eq
    head_lt := fun hpos => by
      rw [head_of_push hpush]
      exact h.head_lt hpos
    count_le := by omega
    toList_eq := by rw [hlist, h.toList_eq] }

theorem push_of_full (h : Carries capacity r content) (hfull : r.count = capacity) (a : α) :
    r.answer (.push a) = (.refused a, r) := by
  have hisFull : r.isFull := beq_iff_eq.mpr (hfull.trans h.capacity_eq.symm)
  rw [answer, push_of_isFull hisFull]

theorem pop_of_nil (h : Carries capacity r []) : r.answer .pop = (.nothing, r) := by
  have hempty : r.isEmpty := beq_iff_eq.mpr h.count_eq
  rw [answer, pop?, if_pos hempty]

theorem pop_of_cons {a : α} {rest : List α} (h : Carries capacity r (a :: rest)) :
    ∃ r', r.answer .pop = (.popped a, r') ∧ Carries capacity r' rest := by
  have hcount : r.count = rest.length + 1 := h.count_eq
  have hempty : ¬ r.isEmpty := by
    rw [isEmpty, beq_iff_eq]
    omega
  obtain ⟨b, r', hpop⟩ : ∃ b r', r.pop? = some (b, r') := ⟨_, _, if_neg hempty⟩
  obtain ⟨hlist, hnext, hcapacity⟩ := toList_of_pop? hpop
  rw [h.toList_eq, List.cons.injEq] at hlist
  obtain ⟨rfl, hrest⟩ := hlist
  refine ⟨r', by rw [answer, hpop], ?_⟩
  exact {
    capacity_eq := hcapacity.trans h.capacity_eq
    head_lt := fun hpos => by
      rw [head_of_pop? hpop, h.capacity_eq]
      exact Nat.mod_lt _ hpos
    count_le := by
      have hle := h.count_le
      omega
    toList_eq := hrest.symm }

/-- A ring and a queue with the same content answer a request alike, and have the same content then. -/
theorem answer (h : Carries capacity r content) (request : Request α) :
    (r.answer request).1 = (queueAnswer capacity content request).1 ∧
      Carries capacity (r.answer request).2 (queueAnswer capacity content request).2 := by
  have hcount := h.count_eq
  cases request with
  | push a =>
    by_cases hroom : r.count < capacity
    · obtain ⟨r', hanswer, hcarries⟩ := h.push_of_room hroom a
      rw [hanswer, queueAnswer, if_pos (hcount ▸ hroom)]
      exact ⟨rfl, hcarries⟩
    · have hfull : r.count = capacity := Nat.le_antisymm h.count_le (Nat.le_of_not_lt hroom)
      rw [h.push_of_full hfull a, queueAnswer, if_neg (hcount ▸ hroom)]
      exact ⟨rfl, h⟩
  | pop =>
    cases content with
    | nil =>
      rw [h.pop_of_nil]
      exact ⟨rfl, h⟩
    | cons a rest =>
      obtain ⟨r', hanswer, hcarries⟩ := h.pop_of_cons
      rw [hanswer]
      exact ⟨rfl, hcarries⟩

theorem run (h : Carries capacity r content) (requests : List (Request α)) :
    (r.run requests).1 = (queueRun capacity content requests).1 ∧
      Carries capacity (r.run requests).2 (queueRun capacity content requests).2 := by
  induction requests generalizing r content with
  | nil => exact ⟨rfl, h⟩
  | cons request rest ih =>
    obtain ⟨hanswer, hcarries⟩ := h.answer request
    obtain ⟨hanswers, hend⟩ := ih hcarries
    refine ⟨?_, hend⟩
    rw [Ring.run, queueRun, hanswer, hanswers]

/-! ## Nothing out of range -/

/-- A push takes no remainder by zero, and writes into a slot that is there. -/
theorem checkedPush?_eq (h : Carries capacity r content) (a : α) :
    r.checkedPush? a = some (r.push a) := by
  unfold checkedPush? push
  by_cases hfull : r.isFull = true
  · rw [if_pos hfull, if_pos hfull]
  · have hne : r.capacity ≠ 0 := by
      intro hzero
      have hle := h.count_le
      have hcapacity := h.capacity_eq
      rw [isFull, beq_iff_eq] at hfull
      omega
    have htail : (r.head + r.count) % r.capacity < r.slots.size :=
      Nat.mod_lt _ (Nat.pos_of_ne_zero hne)
    rw [if_neg hfull, if_neg hfull, remainder?, if_neg hne, Option.bind_eq_bind, Option.bind_some,
      setSlot?, if_pos htail]
    rfl

/-- A pop reads a slot that is there, and takes no remainder by zero. -/
theorem checkedPop?_eq (h : Carries capacity r content) : r.checkedPop? = some r.pop? := by
  unfold checkedPop? pop?
  by_cases hempty : r.isEmpty = true
  · rw [if_pos hempty, if_pos hempty]
  · have hpos : 0 < capacity := by
      have hle := h.count_le
      rw [isEmpty, beq_iff_eq] at hempty
      omega
    have hhead : r.head < r.capacity := by
      rw [h.capacity_eq]
      exact h.head_lt hpos
    have hne : r.capacity ≠ 0 := Nat.ne_zero_of_lt hhead
    have hfirst : r.slots[r.head]? = some (r.nth 0) := by
      have hmod : (r.head + 0) % r.capacity = r.head := Nat.mod_eq_of_lt hhead
      rw [nth, hmod, Array.getD_eq_getD_getElem?, Array.getElem?_eq_getElem hhead, Option.getD_some]
    rw [if_neg hempty, if_neg hempty, hfirst, remainder?, if_neg hne]
    rfl

end Carries

/-! ## A ring is a bounded queue -/

/-- What a ring is to its users that holds what a queue would. -/
structure IsQueue (capacity : Nat) (r : Ring α) (content : List α) : Prop where
  head_lt : 0 < capacity → r.head < capacity
  count_le : r.count ≤ capacity
  /-- The content is what the slots in use have, from the head on. -/
  length_eq : content.length = r.count
  slot : ∀ i < r.count, r.slots[(r.head + i) % capacity]? = content[i]?
  toList_eq : r.toList = content
  push_of_room : ∀ a, r.count < capacity →
    ∃ r', r.answer (.push a) = (.added, r') ∧ r'.toList = content ++ [a]
  push_of_full : ∀ a, r.count = capacity → r.answer (.push a) = (.refused a, r)
  pop_of_cons : ∀ a rest, content = a :: rest →
    ∃ r', r.answer .pop = (.popped a, r') ∧ r'.toList = rest
  pop_of_nil : content = [] → r.answer .pop = (.nothing, r)
  /-- No index is out of range, and no remainder is by zero. -/
  checkedPush : ∀ a, r.checkedPush? a = some (r.push a)
  checkedPop : r.checkedPop? = some r.pop?

theorem Carries.isQueue (h : Carries capacity r content) : IsQueue capacity r content where
  head_lt := h.head_lt
  count_le := h.count_le
  length_eq := h.count_eq.symm
  slot _ hi := h.slot hi
  toList_eq := h.toList_eq
  push_of_room a hroom := by
    obtain ⟨r', hanswer, hcarries⟩ := h.push_of_room hroom a
    exact ⟨r', hanswer, hcarries.toList_eq⟩
  push_of_full a hfull := h.push_of_full hfull a
  pop_of_cons a rest hcontent := by
    obtain ⟨r', hanswer, hcarries⟩ := (hcontent ▸ h : Carries capacity r (a :: rest)).pop_of_cons
    exact ⟨r', hanswer, hcarries.toList_eq⟩
  pop_of_nil hcontent := (hcontent ▸ h : Carries capacity r []).pop_of_nil
  checkedPush := h.checkedPush?_eq
  checkedPop := h.checkedPop?_eq

/-- **A ring is a bounded queue**: whatever is asked of it, it answers as the queue does, and after that
it holds what the queue holds. -/
theorem isQueue_of_run (capacity : Nat) (requests : List (Request α)) :
    ((ofCapacity capacity : Ring α).run requests).1 = (queueRun capacity [] requests).1 ∧
      IsQueue capacity ((ofCapacity capacity : Ring α).run requests).2
        (queueRun capacity [] requests).2 := by
  obtain ⟨hanswers, hcarries⟩ := (carries_ofCapacity capacity).run requests
  exact ⟨hanswers, hcarries.isQueue⟩

/-- A full ring refuses, and goes on behind its last slot with the first one. -/
example : ((ofCapacity 2 : Ring Nat).run
    [.push 1, .push 2, .push 3, .pop, .push 4, .pop, .pop, .pop]).1 =
    [.added, .added, .refused 3, .popped 1, .added, .popped 2, .popped 4, .nothing] := by
  decide

end Content

end ReleaseFeed.Telemetry.Ring
