import ReleaseFeed.Wire.Table

/-!
# Writing tables

A table is written behind what a buffer holds already.  Its index comes first, of zeros as long as it is
not known where the slots go, then the in-place part, with a hole of zeros for each text and each inner
table.  With all slots in place the index is patched; then the texts and the inner tables are written one
after the other, and the hole of each is patched with the distance to it.

The bytes that are written are those of `Table.write`.
-/
namespace ReleaseFeed

namespace Bytes

/-- The buffer with zeros up to a multiple of `size`. -/
def align (b : ByteArray) (size : Nat) : ByteArray :=
  b ++ zeros (alignUp b.size size - b.size)

/-- The buffer with these bytes in the stead of as many from `pos` on. -/
def patch (b : ByteArray) (pos : Nat) (part : ByteArray) : ByteArray :=
  part.copySlice 0 b pos part.size

/-- The buffer with 2-byte words in the stead of what there is from `pos` on. -/
def patchWords (b : ByteArray) (pos : Nat) : List Nat → ByteArray
  | [] => b
  | v :: values => patchWords (patch b pos (word 2 v)) (pos + 2) values

end Bytes

namespace Wire.Table

/-- A buffer behind which slots have been put in place. -/
structure Draft where
  buffer : ByteArray
  /-- How far into the in-place part each slot is; 0 for an absent one. -/
  offsets : List Nat
  /-- Where the distances to texts and tables are still to be put, in the order of the slots. -/
  holes : List Nat

/-- The slots put in place behind the buffer; the in-place part begins at `start`. -/
def lay (b : ByteArray) (start : Nat) : Table → Draft
  | done => ⟨b, [], []⟩
  | absent rest =>
    let ⟨b, offsets, holes⟩ := lay b start rest
    ⟨b, 0 :: offsets, holes⟩
  | scalar v rest =>
    let b := Bytes.align b v.kind.size
    let here := b.size
    let ⟨b, offsets, holes⟩ := lay (b ++ v.bytes) start rest
    ⟨b, (here - start) :: offsets, holes⟩
  | text _ rest | child _ rest =>
    let b := Bytes.align b referenceSize
    let here := b.size
    let ⟨b, offsets, holes⟩ := lay (b ++ Bytes.zeros referenceSize) start rest
    ⟨b, (here - start) :: offsets, here :: holes⟩

/-- A buffer behind which a table has been put, but not what its slots refer to. -/
structure Frame where
  buffer : ByteArray
  /-- Where the in-place part of the table begins. -/
  start : Nat
  holes : List Nat

/-- The index and the in-place part of the table put behind the buffer. -/
def frame (b : ByteArray) (t : Table) : Frame :=
  let index := b.size
  let b := Bytes.align (b ++ Bytes.zeros t.indexSize) 4
  let start := b.size
  let ⟨b, offsets, holes⟩ := t.lay (b ++ Bytes.word 4 (start - index)) start
  let size := b.size - start
  let b := Bytes.patch (Bytes.align b 4) index (Bytes.word 2 t.indexSize)
  let b := Bytes.patch b (index + 2) (Bytes.word 2 size)
  ⟨Bytes.patchWords b (index + 4) offsets, start, holes⟩

/-- The text put behind the buffer, and where its byte count is. -/
def appendText (b : ByteArray) (s : String) : ByteArray × Nat :=
  let b := Bytes.align b 4
  let start := b.size
  let bytes := s.toUTF8
  (Bytes.align ((b ++ Bytes.word 4 bytes.size ++ bytes).push 0) 4, start)

/-- The hole at `here` patched with the distance to what has been put behind the buffer. -/
def refer (here : Nat) : ByteArray × Nat → ByteArray
  | (b, target) => Bytes.patch b here (Bytes.word referenceSize (target - here))

/-- What the slots refer to put behind the buffer, and their holes patched. -/
def fill (b : ByteArray) (holes : List Nat) : Table → ByteArray
  | done => b
  | absent rest | scalar _ rest => fill b holes rest
  | text s rest => fill (refer (holes.headD 0) (appendText b s)) holes.tail rest
  | child t rest =>
    let ⟨b, start, inner⟩ := t.frame b
    fill (refer (holes.headD 0) (fill b inner t, start)) holes.tail rest

/-- The table put behind the buffer with all that it refers to, and where its in-place part begins. -/
def appendTo (b : ByteArray) (t : Table) : ByteArray × Nat :=
  let ⟨b, start, holes⟩ := t.frame b
  (fill b holes t, start)

end Wire.Table

end ReleaseFeed
