import ReleaseFeed.Bytes
import ReleaseFeed.Wire.Error
import ReleaseFeed.Wire.Table

/-!
# Tables inside buffers

A view is a table found in a buffer.  `View.find` checks that the index and the in-place part lie
inside the buffer; `View.scalar?`, `View.text?` and `View.child?` look a slot up, and `View.read`
reads all the slots of a layout back into a `Table`.  Every access stays inside the buffer.
-/
namespace ReleaseFeed.Wire

/-- A table found in a buffer. -/
structure View where
  buffer : ByteArray
  /-- Where the in-place part begins. -/
  start : Nat
  /-- Where the index begins. -/
  index : Nat
  /-- Slots that the index describes. -/
  slots : Nat
  /-- Bytes of the in-place part. -/
  size : Nat

namespace View

/-- The `n`-byte word at a position that is known to be inside; 0 elsewhere. -/
def wordAt (buffer : ByteArray) (n pos : Nat) : Nat :=
  (Bytes.word? buffer n pos).getD 0

/-- Where the index of the table at `start` begins: `distance` before it, or after it where the
distance is negative as a signed 4-byte word. -/
def indexOf (start distance : Nat) : Except Damage Nat :=
  if distance < 0x8000_0000 then
    if distance ≤ start then .ok (start - distance) else .error .indexBefore
  else
    .ok (start + (0x1_0000_0000 - distance))

/-- The table whose in-place part begins at `start`. -/
def find (buffer : ByteArray) (start : Nat) : Except Damage View := do
  if start + 4 > buffer.size then throw .tableOutside
  let index ← indexOf start (wordAt buffer 4 start)
  if index + 4 > buffer.size then throw .indexOutside
  let indexSize := wordAt buffer 2 index
  if indexSize < 4 ∨ indexSize % 2 ≠ 0 ∨ index + indexSize > buffer.size then throw .indexSize
  let size := wordAt buffer 2 (index + 2)
  if size < 4 ∨ start + size > buffer.size then throw .tableSize
  return { buffer, start, index, slots := (indexSize - 4) / 2, size }

/-- Where in the in-place part a slot sits; nothing if it is absent. -/
def position? (view : View) (slot : Nat) : Option Nat :=
  if slot < view.slots then
    match wordAt view.buffer 2 (view.index + 4 + 2 * slot) with
    | 0 => none
    | position => some position
  else
    none

/-- The number in a slot; nothing if the slot is absent or reaches past the buffer. -/
def scalar? (view : View) (kind : ScalarKind) (slot : Nat) : Option Scalar := do
  let position ← view.position? slot
  let image ← Bytes.word? view.buffer kind.size (view.start + position)
  return .ofImage kind image

/-- The text that position `at` refers to. -/
def textFrom (buffer : ByteArray) (pos : Nat) : Except Damage String := do
  if pos + 4 > buffer.size then throw .textReference
  let target := pos + wordAt buffer 4 pos
  if target + 4 > buffer.size then throw .textCount
  let stop := target + 4 + wordAt buffer 4 target
  if stop > buffer.size then throw .textOutside
  match String.fromUTF8? (buffer.extract (target + 4) stop) with
  | some text => return text
  | none => throw .textEncoding

/-- The text of a slot; nothing if the slot is absent. -/
def text? (view : View) (slot : Nat) : Except Damage (Option String) :=
  match view.position? slot with
  | none => .ok none
  | some position => some <$> textFrom view.buffer (view.start + position)

/-- The table that position `pos` refers to. -/
def childFrom (buffer : ByteArray) (pos : Nat) : Except Damage View := do
  if pos + 4 > buffer.size then throw .tableOutside
  match wordAt buffer 4 pos with
  | 0 => throw .selfReference
  | distance => find buffer (pos + distance)

/-- The table of a slot; nothing if the slot is absent. -/
def child? (view : View) (slot : Nat) : Except Damage (Option View) :=
  match view.position? slot with
  | none => .ok none
  | some position => some <$> childFrom view.buffer (view.start + position)

/-- A slot of `size` bytes, if present, lies inside the in-place part. -/
def checkSlot (view : View) (slot size : Nat) : Except Damage Unit :=
  match view.position? slot with
  | none => .ok ()
  | some position =>
    if position < 4 ∨ position + size > view.size then
      .error (.slotOutside slot position view.size)
    else
      .ok ()

/-- The slots of a layout, the first of which is `slot`, lie inside the table, and so does everything
that they refer to, down to the last table.  Slots beyond the layout are not looked at. -/
def check : (layout : Layout) → (view : View) → (slot : Nat) → Except Damage Unit
  | .done, _, _ => .ok ()
  | .scalar kind rest, view, slot => do
    view.checkSlot slot kind.size
    check rest view (slot + 1)
  | .text rest, view, slot => do
    view.checkSlot slot Table.referenceSize
    discard <| view.text? slot
    check rest view (slot + 1)
  | .table inner rest, view, slot => do
    view.checkSlot slot Table.referenceSize
    match ← view.child? slot with
    | none => pure ()
    | some child => check inner child 0
    check rest view (slot + 1)

/-- The slots of a layout, the first of which is `slot`, as a table. -/
def read : (layout : Layout) → (view : View) → (slot : Nat) → Except Damage Table
  | .done, _, _ => .ok .done
  | .scalar kind rest, view, slot => do
    let rest ← read rest view (slot + 1)
    match view.scalar? kind slot with
    | none => return .absent rest
    | some value => return .scalar value rest
  | .text rest, view, slot => do
    match ← view.text? slot with
    | none => return .absent (← read rest view (slot + 1))
    | some value => return .text value (← read rest view (slot + 1))
  | .table inner rest, view, slot => do
    match ← view.child? slot with
    | none => return .absent (← read rest view (slot + 1))
    | some child =>
      let value ← read inner child 0
      return .child value (← read rest view (slot + 1))

end View

end ReleaseFeed.Wire
