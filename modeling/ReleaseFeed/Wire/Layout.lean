import ReleaseFeed.Bytes
import ReleaseFeed.Record

/-!
# Layouts of tables

A table on the wire has numbered slots.  A slot holds a number in place, or refers forward to a text
or to another table.  A layout says what each slot of a table is for; slots beyond a layout are for
later versions and are passed over, so fields are only ever added at the end.

The layouts of the six records are `RecordType.layout`; two small tables, a moment and a measurement,
occur inside them.
-/
namespace ReleaseFeed.Wire

/-- The kinds of number that a slot can hold. -/
inductive ScalarKind where
  | u8 | i16 | u32 | u64 | f64
deriving DecidableEq, Repr, Inhabited

/-- Bytes that a number of this kind takes. -/
def ScalarKind.size : ScalarKind → Nat
  | u8 => 1
  | i16 => 2
  | u32 => 4
  | u64 => 8
  | f64 => 8

/-- A number in a slot. -/
inductive Scalar where
  | u8 (value : UInt8)
  | i16 (value : Int16)
  | u32 (value : UInt32)
  | u64 (value : UInt64)
  | f64 (value : Float)
deriving DecidableEq, Repr, Inhabited

namespace Scalar

/-- The kind of a number. -/
def kind : Scalar → ScalarKind
  | u8 _ => .u8
  | i16 _ => .i16
  | u32 _ => .u32
  | u64 _ => .u64
  | f64 _ => .f64

/-- The number as an unsigned word of its size: two's complement, or the bits of a float. -/
def image : Scalar → Nat
  | u8 v => v.toNat
  | i16 v => v.toUInt16.toNat
  | u32 v => v.toNat
  | u64 v => v.toNat
  | f64 v => v.toBits.toNat

/-- The number of a kind with a given image. -/
def ofImage (kind : ScalarKind) (image : Nat) : Scalar :=
  match kind with
  | .u8 => u8 (UInt8.ofNat image)
  | .i16 => i16 (UInt16.ofNat image).toInt16
  | .u32 => u32 (UInt32.ofNat image)
  | .u64 => u64 (UInt64.ofNat image)
  | .f64 => f64 (Float.ofBits (UInt64.ofNat image))

/-- The number as it is written. -/
def bytes (s : Scalar) : ByteArray :=
  Bytes.word s.kind.size s.image

@[simp] theorem size_bytes (s : Scalar) : s.bytes.size = s.kind.size :=
  Bytes.size_word _ _

end Scalar

/-- What the slots of a table are for, first slot first. -/
inductive Layout where
  | done
  | scalar (kind : ScalarKind) (rest : Layout)
  | text (rest : Layout)
  | table (inner rest : Layout)
deriving DecidableEq, Repr, Inhabited

namespace Layout

/-- The layout made of the given slots. -/
def ofSlots (slots : List (Layout → Layout)) : Layout :=
  slots.foldr (fun slot rest => slot rest) done

/-- How many slots the layout has. -/
def length : Layout → Nat
  | done => 0
  | scalar _ rest | text rest | table _ rest => rest.length + 1

/-- A timestamp: microseconds and offset. -/
def moment : Layout :=
  ofSlots [scalar .u64, scalar .i16]

/-- A measurement: count, value, low, high, median, average and deviation. -/
def measurement : Layout :=
  ofSlots [scalar .u32, scalar .f64, scalar .f64, scalar .f64, scalar .f64, scalar .f64, scalar .f64]

/-- The slots that economic and calendar events start with: the three texts that name the event, kind,
subkind, event id, period, and the start and stop of the release. -/
def headlineSlots : List (Layout → Layout) :=
  [text, text, text, scalar .u8, scalar .u8, scalar .u64, text, table moment, table moment]

end Layout

end ReleaseFeed.Wire

namespace ReleaseFeed

open Wire Wire.Layout in
/-- The layout of the table that a message of this type carries. -/
def RecordType.layout : RecordType → Wire.Layout
  | economic => ofSlots <| headlineSlots
      ++ [table measurement, table measurement, scalar .u64, text, table moment, table moment]
  | calendar => ofSlots <| headlineSlots ++ [scalar .u8]
  | log => ofSlots [table moment, scalar .u8, scalar .u8, scalar .u64, text]
  | reference => ofSlots [scalar .u64, text, text, text, text, text, text, text, text]
  | seriesHeadline => ofSlots [scalar .u64, scalar .u8, scalar .u8, scalar .u64, text, table moment,
      table moment, scalar .u64, text, table moment, table moment, table measurement]
  | seriesEntry => ofSlots [scalar .u64, text, text, scalar .u8, scalar .u8, text, scalar .u64, text,
      table moment, table moment, scalar .u8, scalar .f64]

end ReleaseFeed
