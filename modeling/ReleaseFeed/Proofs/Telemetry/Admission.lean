import ReleaseFeed.Proofs.Telemetry.Ring
import ReleaseFeed.Telemetry.Queue

/-! # What a push does

A push is decided by the queue alone: `Queue.admits` says whether an event would be
accepted now, and `Queue.stamp` with which id.  There are two cases, and each is one
equation (`push_of_not_admits`, `push_of_admits`); nothing else looks into `Queue.push`.
-/
namespace ReleaseFeed.Telemetry.Queue
variable {q : Queue} {e : Event}

/-- An event that is pushed now is accepted. -/
def admits (q : Queue) : Bool :=
  q.running && !q.ring.isFull

/-- The event with the id that it has once it is accepted: its own, or a fresh one. -/
def stamp (q : Queue) (e : Event) : Event :=
  if e.id = 0 then { e with id := q.nextId } else e

/-- The event that goes into the ring when an event is pushed. -/
def accept? (q : Queue) (e : Event) : Option Event :=
  if q.admits then some (q.stamp e) else none

/-- Only the id is stamped. -/
theorem stamp_eq (q : Queue) (e : Event) : q.stamp e = { e with id := (q.stamp e).id } := by
  rw [stamp]
  split <;> rfl

theorem stamp_id (q : Queue) (e : Event) :
    e.id = 0 ∧ (q.stamp e).id = q.nextId ∨ e.id ≠ 0 ∧ (q.stamp e).id = e.id := by
  by_cases hfresh : e.id = 0
  · exact .inl ⟨hfresh, by rw [stamp, if_pos hfresh]⟩
  · exact .inr ⟨hfresh, by rw [stamp, if_neg hfresh]⟩

/-- The queue after a push that it refused. -/
def refusal (q : Queue) : Queue :=
  { q with counters := { q.counters with dropped := q.counters.dropped + 1 } }

/-- The queue after a push that it accepted, with the ring that this gives. -/
def acceptance (q : Queue) (e : Event) (ring : Ring Event) : Queue :=
  { q with
    ring
    nextId := if e.id = 0 then q.nextId + 1 else q.nextId
    counters := { q.counters with accepted := q.counters.accepted + 1 } }

theorem admits_iff (hle : q.ring.count ≤ q.ring.capacity) :
    q.admits ↔ q.running ∧ q.ring.count < q.ring.capacity := by
  rw [admits, Bool.and_eq_true, Bool.not_eq_true', Ring.isFull_eq_false_iff hle]

/-- A refused push returns 0 and is counted; nothing else changes. -/
theorem push_of_not_admits (h : q.admits = false) : q.push e = (0, q.refusal) := by
  have hnone : ∀ event : Event,
      (if q.running then (q.ring.push event).toOption else none) = none := by
    intro event
    rcases Bool.and_eq_false_iff.mp h with hstopped | hfull
    · rw [if_neg (Bool.eq_false_iff.mp hstopped)]
    · rw [Ring.push_of_isFull (by simpa using hfull)]
      exact ite_self _
  rw [push, hnone]
  rfl

/-- An accepted push returns the id, and the event is at the end of the ring. -/
theorem push_of_admits (h : q.admits) (hle : q.ring.count ≤ q.ring.capacity) (e : Event) :
    ∃ ring, ring.toList = q.ring.toList ++ [q.stamp e] ∧ ring.count = q.ring.count + 1 ∧
      ring.capacity = q.ring.capacity ∧
      q.push e = ((q.stamp e).id, q.acceptance e ring) := by
  obtain ⟨hrunning, hroom⟩ := (admits_iff hle).mp h
  obtain ⟨ring, hpush, hlist, hcount, hcapacity⟩ := Ring.push_of_room (a := q.stamp e) hroom
  refine ⟨ring, hlist, hcount, hcapacity, ?_⟩
  by_cases hfresh : e.id = 0
  · rw [stamp, if_pos hfresh] at hpush
    simp only [push, hfresh, if_true, hrunning, hpush, Except.toOption, stamp, acceptance]
  · rw [stamp, if_neg hfresh] at hpush
    simp only [push, hfresh, if_false, if_true, hrunning, hpush, Except.toOption, stamp, acceptance]

/-! ## Fresh and own ids -/

/-- An event without an id is accepted with the next id, which then moves on, or refused. -/
theorem push_fresh (hle : q.ring.count ≤ q.ring.capacity) (hfresh : e.id = 0) :
    q.accept? e = some { e with id := q.nextId } ∧ (q.push e).1 = q.nextId ∧
        (q.push e).2.nextId = q.nextId + 1 ∨
      q.accept? e = none ∧ (q.push e).1 = 0 ∧ (q.push e).2.nextId = q.nextId := by
  by_cases hadmits : q.admits
  · obtain ⟨ring, -, -, -, hpush⟩ := push_of_admits hadmits hle e
    refine .inl ⟨?_, ?_, ?_⟩
    · rw [accept?, if_pos hadmits, stamp, if_pos hfresh]
    · rw [hpush, stamp, if_pos hfresh]
    · rw [hpush, acceptance, if_pos hfresh]
  · rw [push_of_not_admits (Bool.eq_false_iff.mpr hadmits)]
    exact .inr ⟨if_neg hadmits, rfl, rfl⟩

/-- An event with an id of its own is accepted as it is, or refused. -/
theorem push_own (hle : q.ring.count ≤ q.ring.capacity) (hown : e.id ≠ 0) :
    (q.accept? e = some e ∨ q.accept? e = none) ∧ (q.push e).2.nextId = q.nextId := by
  by_cases hadmits : q.admits
  · obtain ⟨ring, -, -, -, hpush⟩ := push_of_admits hadmits hle e
    refine ⟨.inl ?_, ?_⟩
    · rw [accept?, if_pos hadmits, stamp, if_neg hown]
    · rw [hpush, acceptance, if_neg hown]
  · rw [push_of_not_admits (Bool.eq_false_iff.mpr hadmits)]
    exact ⟨.inr (if_neg hadmits), rfl⟩

/-- What is taken out comes from the ring, and nothing else changes. -/
theorem take?_eq_some {q' : Queue} (h : q.take? = some (e, q')) :
    ∃ ring, q.ring.pop? = some (e, ring) ∧ q' = { q with ring } := by
  obtain ⟨⟨event, ring⟩, hpop, hsame⟩ := Option.map_eq_some_iff.mp h
  cases hsame
  exact ⟨ring, hpop, rfl⟩

end ReleaseFeed.Telemetry.Queue
