/-!
# Rings

A ring holds a bounded sequence in a fixed number of slots.  The sequence starts at the slot `head` and
goes on for `count` slots, the first slot following the last.  A full ring refuses a new element; a ring
without slots is full and empty at once.
-/
namespace ReleaseFeed.Telemetry

/-- A bounded sequence in a fixed number of slots. -/
structure Ring (α : Type) where
  slots : Array α
  head : Nat := 0
  count : Nat := 0

namespace Ring

variable {α : Type} [Inhabited α]

/-- The empty ring with a given number of slots. -/
def ofCapacity (capacity : Nat) : Ring α :=
  { slots := Array.replicate capacity default }

/-- How many elements fit. -/
def capacity (r : Ring α) : Nat :=
  r.slots.size

/-- There is nothing to take out. -/
def isEmpty (r : Ring α) : Bool :=
  r.count == 0

/-- There is no room. -/
def isFull (r : Ring α) : Bool :=
  r.count == r.capacity

/-- The element in the slot `i` places after the head. -/
def nth (r : Ring α) (i : Nat) : α :=
  r.slots.getD ((r.head + i) % r.capacity) default

/-- The elements, oldest first. -/
def toList (r : Ring α) : List α :=
  (List.range r.count).map r.nth

/-- The ring with a new element at the end, or the element where there is no room. -/
def push (r : Ring α) (a : α) : Except α (Ring α) :=
  if r.isFull then
    .error a
  else
    .ok { r with slots := r.slots.setIfInBounds ((r.head + r.count) % r.capacity) a
                 count := r.count + 1 }

/-- The oldest element and the ring without it. -/
def pop? (r : Ring α) : Option (α × Ring α) :=
  if r.isEmpty then
    none
  else
    some (r.nth 0, { r with head := (r.head + 1) % r.capacity, count := r.count - 1 })

end Ring

end ReleaseFeed.Telemetry
