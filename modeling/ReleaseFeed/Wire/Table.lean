import ReleaseFeed.Bytes
import ReleaseFeed.Wire.Layout

/-!
# Tables and their bytes

A table is written as an index, then its in-place part, then what its slots refer to:

* the index gives its own size, the size of the in-place part and, for each slot, where in that part
  the slot sits (0 for an absent slot), all as 2-byte words;
* the in-place part starts at a multiple of 4 with the distance back to the index, and holds each
  number at a multiple of its size, and for each text or table the distance forward to it;
* a text is its byte count, its bytes and a NUL; both texts and tables are padded to a multiple of 4.

All positions are those of the finished buffer, so the same table can have different padding at
different places.  `Table.write pos` is the bytes of a table whose index goes at `pos`, and
`Table.start pos` is where its in-place part begins.
-/
namespace ReleaseFeed.Wire

/-- The slots of a table, first slot first. -/
inductive Table where
  | done
  | absent (rest : Table)
  | scalar (value : Scalar) (rest : Table)
  | text (value : String) (rest : Table)
  | child (value rest : Table)
deriving DecidableEq, Repr, Inhabited

/-- What one slot holds. -/
inductive Field where
  | scalar (value : Scalar)
  | text (value : String)
  | child (value : Table)
deriving DecidableEq, Repr, Inhabited

namespace Table

/-! ## Slots -/

/-- The table with a field put before its slots. -/
def cons : Field → Table → Table
  | .scalar v, rest => scalar v rest
  | .text v, rest => text v rest
  | .child v, rest => child v rest

/-- The table whose slots are all present and hold the given fields. -/
def ofFields (fields : List Field) : Table :=
  fields.foldr cons done

/-- A table of `n` absent slots. -/
def ofSlots : (n : Nat) → Table
  | 0 => done
  | n + 1 => absent (ofSlots n)

/-- How many slots the table has, absent ones included. -/
def length : Table → Nat
  | done => 0
  | absent rest | scalar _ rest | text _ rest | child _ rest => rest.length + 1

/-- What a slot holds; nothing if it is absent or beyond the table. -/
def get? : Table → Nat → Option Field
  | done, _ | absent _, 0 => none
  | scalar v _, 0 => some (.scalar v)
  | text v _, 0 => some (.text v)
  | child v _, 0 => some (.child v)
  | absent rest, slot + 1 | scalar _ rest, slot + 1 | text _ rest, slot + 1
  | child _ rest, slot + 1 => rest.get? slot

theorem get?_of_length_le {t : Table} {slot : Nat} (h : t.length ≤ slot) : t.get? slot = none := by
  induction t generalizing slot with
  | done => rfl
  | absent rest ih | scalar _ rest ih | text _ rest ih | child _ rest _ ih =>
    cases slot with
    | zero => exact absurd h (Nat.not_succ_le_zero _)
    | succ slot => exact ih (Nat.le_of_succ_le_succ h)

/-- The table with a slot set; slots before it that did not exist become absent ones. -/
def set : Table → Nat → Field → Table
  | done, 0, field => cons field done
  | done, slot + 1, field => absent (set done slot field)
  | absent rest, 0, field | scalar _ rest, 0, field | text _ rest, 0, field
  | child _ rest, 0, field => cons field rest
  | absent rest, slot + 1, field => absent (rest.set slot field)
  | scalar v rest, slot + 1, field => scalar v (rest.set slot field)
  | text v rest, slot + 1, field => text v (rest.set slot field)
  | child v rest, slot + 1, field => child v (rest.set slot field)

/-! ## Places -/

/-- Bytes of a distance to a text or a table. -/
def referenceSize : Nat := 4

/-- Bytes of the index of a table. -/
def indexSize (t : Table) : Nat :=
  4 + 2 * t.length

/-- Where the in-place part of a table begins whose index is at `pos`. -/
def start (pos : Nat) (t : Table) : Nat :=
  Bytes.alignUp (pos + t.indexSize) 4

/-- Where each slot from position `at` on goes, and the position after the last one. -/
def place : (pos : Nat) → Table → List (Option Nat) × Nat
  | pos, done => ([], pos)
  | pos, absent rest =>
    let (places, stop) := place pos rest
    (none :: places, stop)
  | pos, scalar v rest =>
    let here := Bytes.alignUp pos v.kind.size
    let (places, stop) := place (here + v.kind.size) rest
    (some here :: places, stop)
  | pos, text _ rest | pos, child _ rest =>
    let here := Bytes.alignUp pos referenceSize
    let (places, stop) := place (here + referenceSize) rest
    (some here :: places, stop)

/-- The in-place part of a table whose index is at `pos` ends here. -/
def stop (pos : Nat) (t : Table) : Nat :=
  (place (t.start pos + 4) t).2

/-- What the slots of a table refer to begins here, after padding. -/
def outlineStart (pos : Nat) (t : Table) : Nat :=
  Bytes.alignUp (t.stop pos) 4

/-! ## Bytes -/

/-- A text with its byte count, a NUL and padding. -/
def textBytes (s : String) : ByteArray :=
  let bytes := s.toUTF8
  Bytes.join [Bytes.word 4 bytes.size, bytes, Bytes.zeros (Bytes.alignUp (bytes.size + 1) 4 - bytes.size)]

/-- The in-place part from position `pos` on.  `targets` are the positions of the texts and tables that
the slots refer to, in the order of the slots. -/
def inPlace : (pos : Nat) → (targets : List Nat) → Table → List ByteArray
  | _, _, done => []
  | pos, targets, absent rest => inPlace pos targets rest
  | pos, targets, scalar v rest =>
    let here := Bytes.alignUp pos v.kind.size
    Bytes.zeros (here - pos) :: v.bytes :: inPlace (here + v.kind.size) targets rest
  | pos, targets, text _ rest | pos, targets, child _ rest =>
    let here := Bytes.alignUp pos referenceSize
    Bytes.zeros (here - pos) :: Bytes.word referenceSize (targets.headD 0 - here)
      :: inPlace (here + referenceSize) targets.tail rest

/-- A table whose index is at `pos`, given what its slots refer to: the positions and the bytes. -/
def assemble (pos : Nat) (t : Table) (outline : List Nat × List ByteArray) : ByteArray :=
  let start := t.start pos
  let stop := t.stop pos
  let index := (place (start + 4) t).1.map fun
    | some here => Bytes.word 2 (here - start)
    | none => Bytes.word 2 0
  Bytes.join (Bytes.word 2 t.indexSize :: Bytes.word 2 (stop - start) :: Bytes.join index
    :: Bytes.zeros (start - (pos + t.indexSize)) :: Bytes.word 4 (start - pos)
    :: Bytes.join (inPlace (start + 4) outline.1 t) :: Bytes.zeros (t.outlineStart pos - stop)
    :: outline.2)

/-- What the slots refer to, placed one after the other from `pos` on: the positions referred to and
the bytes. -/
def outline : (pos : Nat) → Table → List Nat × List ByteArray
  | _, done => ([], [])
  | pos, absent rest | pos, scalar _ rest => outline pos rest
  | pos, text s rest =>
    let bytes := textBytes s
    let (targets, parts) := outline (pos + bytes.size) rest
    (pos :: targets, bytes :: parts)
  | pos, child t rest =>
    let bytes := assemble pos t (outline (t.outlineStart pos) t)
    let (targets, parts) := outline (pos + bytes.size) rest
    (t.start pos :: targets, bytes :: parts)

/-- The bytes of a table whose index is at `pos`. -/
def write (pos : Nat) (t : Table) : ByteArray :=
  assemble pos t (outline (t.outlineStart pos) t)

end Table

end ReleaseFeed.Wire
