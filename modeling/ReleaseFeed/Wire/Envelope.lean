import ReleaseFeed.Wire.View
import ReleaseFeed.Wire.Writer

/-!
# Messages

A message is a buffer that starts with the position of its root table.  The root table, the envelope,
has three slots: the type of the record, the table of the record, and the version of the layouts that
the writer knew.  `enclose` writes a message and `Envelope.find` finds the envelope of one; `verify`
walks a whole message before anything is read from it.
-/
namespace ReleaseFeed.Wire

/-- The version of the layouts. -/
def layoutVersion : UInt8 := 1

/-- The fewest bytes that can hold a position, an index and a table. -/
def minMessageSize : Nat := 16

/-- The most bytes that a reader accepts. -/
def maxMessageSize : Nat := 16 * 1024 * 1024

namespace Envelope

/-- The slot of the type. -/
def typeSlot : Nat := 0

/-- The slot of the record's table. -/
def messageSlot : Nat := 1

/-- The slot of the version. -/
def versionSlot : Nat := 2

/-- The envelope of a record's table. -/
def table (type : RecordType) (message : Table) : Table :=
  .ofFields [.scalar (.u8 type.code), .child message, .scalar (.u8 layoutVersion)]

/-- The layout of the envelope of a record of a given type. -/
def layout (type : RecordType) : Layout :=
  .ofSlots [.scalar .u8, .table type.layout, .scalar .u8]

/-- The layout of as much of an envelope as can be known before its type is. -/
def typeLayout : Layout :=
  .ofSlots [.scalar .u8]

end Envelope

/-- The message that carries a record's table.  Its first word is patched once it is known where the
root table begins. -/
@[irreducible] def enclose (type : RecordType) (message : Table) : ByteArray :=
  let (b, start) := (Envelope.table type message).appendTo (Bytes.zeros 4)
  Bytes.patch b 0 (Bytes.word 4 start)

namespace Envelope

/-- The envelope of a message whose size is acceptable. -/
def find (buffer : ByteArray) : Except Error View := do
  if buffer.size < minMessageSize then throw (.tooShort minMessageSize buffer.size)
  if buffer.size > maxMessageSize then throw (.tooLarge buffer.size maxMessageSize)
  let root := View.wordAt buffer 4 0
  if root < 4 ∨ root + 4 > buffer.size then throw (.damaged (.rootOutside root buffer.size))
  View.find buffer root

/-- A byte of the envelope, 0 where it is absent. -/
def byteAt (root : View) (slot : Nat) : UInt8 :=
  match root.scalar? .u8 slot with
  | some (.u8 value) => value
  | _ => 0

/-- The type byte as it is written. -/
def typeByte (root : View) : UInt8 :=
  byteAt root typeSlot

/-- The version byte as it is written. -/
def version (root : View) : UInt8 :=
  byteAt root versionSlot

/-- The record's table, which must be there. -/
def message (root : View) : Except Error View := do
  match ← root.child? messageSlot with
  | some view => return view
  | none => throw (.missing "message")

end Envelope

/-- The type of the record in a message, once every part of it that the layouts know is found to lie
inside the buffer. -/
def verify (buffer : ByteArray) : Except Error RecordType := do
  let root ← Envelope.find buffer
  root.check Envelope.typeLayout 0
  let byte := Envelope.typeByte root
  match RecordType.ofCode? byte with
  | none => throw (.unknownType byte)
  | some type =>
    root.check (Envelope.layout type) 0
    if (root.position? Envelope.messageSlot).isNone then throw (.missing "message")
    return type

end ReleaseFeed.Wire
