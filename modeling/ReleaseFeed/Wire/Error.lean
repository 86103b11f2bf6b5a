/-!
# What can be wrong with a buffer

`Damage` is a fault in the structure of a buffer, and `Error` is why a buffer is refused.  A message of
an unknown type comes from a newer writer and does not spoil the stream it came in; all other faults
do.
-/
namespace ReleaseFeed.Wire

/-- A fault in the structure of a buffer. -/
inductive Damage where
  /-- The root table does not lie inside the buffer. -/
  | rootOutside (root size : Nat)
  /-- A table does not lie inside the buffer. -/
  | tableOutside
  /-- The index of a table would lie before the buffer. -/
  | indexBefore
  /-- The index of a table does not lie inside the buffer. -/
  | indexOutside
  /-- The index of a table has an impossible size. -/
  | indexSize
  /-- The in-place part of a table has an impossible size. -/
  | tableSize
  /-- A slot reaches out of the in-place part of its table. -/
  | slotOutside (slot position size : Nat)
  /-- A slot refers to itself as a table. -/
  | selfReference
  /-- The distance to a text does not lie inside the buffer. -/
  | textReference
  /-- The byte count of a text does not lie inside the buffer. -/
  | textCount
  /-- The bytes of a text do not lie inside the buffer. -/
  | textOutside
  /-- The bytes of a text are not UTF-8. -/
  | textEncoding
deriving DecidableEq, Repr, Inhabited

/-- The fault in words. -/
def Damage.message : Damage → String
  | rootOutside root size => s!"root offset {root} exceeds buffer length {size}"
  | tableOutside => "table offset out of bounds"
  | indexBefore => "vtable offset underflow"
  | indexOutside => "vtable out of bounds"
  | indexSize => "invalid vtable size"
  | tableSize => "invalid table size"
  | slotOutside slot position size => s!"field {slot} at {position} outside table of {size} bytes"
  | selfReference => "self-referencing table offset"
  | textReference => "vector offset out of bounds"
  | textCount => "vector data out of bounds"
  | textOutside => "vector data extends past buffer"
  | textEncoding => "invalid UTF-8 string"

/-- Why a buffer is refused, or a record cannot be sent. -/
inductive Error where
  | tooShort (expected actual : Nat)
  | tooLarge (size limit : Nat)
  | damaged (damage : Damage)
  | missing (field : String)
  | unknownType (code : UInt8)
deriving DecidableEq, Repr, Inhabited

namespace Error

/-- The reason in words. -/
def message : Error → String
  | tooShort expected actual =>
    s!"message too short: expected at least {expected} bytes, got {actual}"
  | tooLarge size limit => s!"message too large: {size} bytes exceeds maximum {limit}"
  | damaged damage => "invalid flatbuffer: " ++ damage.message
  | missing field => "missing required field: " ++ field
  | unknownType code => s!"unknown message type: {code.toNat}"

/-- The rest of the stream can still be trusted. -/
def isRecoverable : Error → Bool
  | unknownType _ => true
  | _ => false

end Error

/-- Structural faults are reasons to refuse a buffer. -/
instance : MonadLift (Except Damage) (Except Error) where
  monadLift result := result.mapError .damaged

end ReleaseFeed.Wire
