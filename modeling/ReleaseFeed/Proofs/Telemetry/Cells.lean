import ReleaseFeed.Bytes
import ReleaseFeed.Proofs.Telemetry.FixedText
import ReleaseFeed.Proofs.Text.Utf8

/-! # Limited texts in cells of fixed size

An event is kept where it takes the same room whatever its texts are, so a limited text is kept in a cell: a
fixed number of bytes, the first of which are the text.  To put a text there one goes back from the limit, byte
by byte, to a boundary between two characters, and copies the bytes before it into an empty cell.  Here this is
written out with what could go wrong: there is no result if the search does not end before the start of the
text, or if a range of bytes is not there (`Cell.store?`, `Cell.inUse?`); and what is read is empty if the bytes
are no text (`Cell.text?`).

Nothing goes wrong.  The start of a text is a boundary, so the search ends, and it ends at the longest start that
fits (`lastBoundary?_limit`).  So what is put into the cell is the limited text (`Cell.store?_eq`), and it is read
as it is (`Cell.text?_cell`).  The bytes behind it are zero, which is why a cell is known by its text.
-/
namespace ReleaseFeed.Telemetry
open Bytes
open Number (LongestStart)
variable {limit : Nat} {s : String}

/-! ## Boundaries between characters -/

/-- The offset is one of the ends of a text, or stands between two characters. -/
def isBoundary (s : String) (offset : Nat) : Bool :=
  String.Pos.Raw.isValid s ⟨offset⟩

/-- The last boundary at an offset or before it, looked for back to the start. -/
def lastBoundary? (s : String) : (offset : Nat) → Option Nat
  | 0 => if isBoundary s 0 then some 0 else none
  | offset + 1 =>
    if isBoundary s (offset + 1) then some (offset + 1) else lastBoundary? s offset

theorem isBoundary_iff {offset : Nat} :
    isBoundary s offset = true ↔ ∃ front, front <+: s.toList ∧ byteCount front = offset := by
  simp only [isBoundary, String.Pos.Raw.isValid_eq_true_iff, Text.isValid_iff_exists_prefix,
    byteCount_eq_utf8ByteSize]

/-- The search ends at a boundary that has no other one between it and the offset. -/
theorem lastBoundary?_eq {offset stop : Nat} (hstop : isBoundary s stop = true)
    (hle : stop ≤ offset) (hlast : ∀ other ≤ offset, isBoundary s other = true → other ≤ stop) :
    lastBoundary? s offset = some stop := by
  induction offset with
  | zero =>
    obtain rfl := Nat.le_zero.mp hle
    rw [lastBoundary?, if_pos hstop]
  | succ offset ih =>
    by_cases hhere : isBoundary s (offset + 1) = true
    · have hsame : stop = offset + 1 := Nat.le_antisymm hle (hlast _ (Nat.le_refl _) hhere)
      rw [lastBoundary?, if_pos hhere, hsame]
    · have hne : stop ≠ offset + 1 := by
        rintro rfl
        exact hhere hstop
      rw [lastBoundary?, if_neg hhere]
      exact ih (by omega) fun other hother => hlast other (by omega)

theorem byteCount_le_of_prefix {front cs : List Char} (h : front <+: cs) :
    byteCount front ≤ byteCount cs := by
  rw [byteCount_eq_utf8ByteSize, byteCount_eq_utf8ByteSize]
  exact Text.utf8ByteSize_le_of_prefix (by rwa [String.toList_ofList])

theorem byteCount_fitting_le_utf8ByteSize (limit : Nat) (s : String) :
    byteCount (fitting limit s.toList) ≤ s.utf8ByteSize := by
  have hkept := fitting_prefix limit s.toList
  rw [byteCount_eq_utf8ByteSize]
  exact Text.utf8ByteSize_le_of_prefix hkept

/-- Looked for from the limit on, the last boundary is where the longest start that fits ends. -/
theorem lastBoundary?_limit (limit : Nat) (s : String) :
    lastBoundary? s (min s.utf8ByteSize limit) = some (byteCount (fitting limit s.toList)) := by
  have hboundary : isBoundary s (byteCount (fitting limit s.toList)) = true :=
    isBoundary_iff.mpr ⟨_, fitting_prefix limit s.toList, rfl⟩
  have hle : byteCount (fitting limit s.toList) ≤ min s.utf8ByteSize limit :=
    Nat.le_min.mpr ⟨byteCount_fitting_le_utf8ByteSize limit s, byteCount_fitting_le limit s.toList⟩
  refine lastBoundary?_eq hboundary hle fun other hother hisBoundary => ?_
  -- the characters before another boundary fit, so they are among those that are kept
  obtain ⟨front, ⟨tail, htail⟩, rfl⟩ := isBoundary_iff.mp hisBoundary
  have hfits : byteCount front ≤ limit := Nat.le_trans hother (Nat.min_le_right _ _)
  rw [← htail]
  exact byteCount_le_of_prefix (prefix_fitting_append hfits tail)

/-! ## Cells -/

/-- The first bytes, if there are so many. -/
def first? (bytes : ByteArray) (count : Nat) : Option ByteArray :=
  if count ≤ bytes.size then some (bytes.extract 0 count) else none

/-- Bytes of a fixed number, the first `used` of which are a text.  There is one more than a text may have, for a
terminator. -/
structure Cell (limit : Nat) where
  bytes : ByteArray
  used : Nat
  size_bytes : bytes.size = limit + 1

namespace Cell

/-- The cell without a text. -/
def empty : Cell limit :=
  ⟨zeros (limit + 1), 0, size_zeros _⟩

/-- The cell with other bytes in the place of its first ones, if it has so many. -/
def write? (cell : Cell limit) (source : ByteArray) : Option (Cell limit) :=
  if h : source.size ≤ limit + 1 then
    some {
      bytes := source ++ cell.bytes.extract source.size (limit + 1)
      used := source.size
      size_bytes := by
        rw [ByteArray.size_append, ByteArray.size_extract, cell.size_bytes]
        omega }
  else
    none

/-- As much of a text as fits, in a cell. -/
def store? (limit : Nat) (s : String) : Option (Cell limit) := do
  let stop ← lastBoundary? s (min s.utf8ByteSize limit)
  let source ← first? s.toUTF8 stop
  empty.write? source

/-- The bytes that are in use, if there are so many. -/
def inUse? (cell : Cell limit) : Option ByteArray :=
  first? cell.bytes cell.used

/-- The text in a cell.  It is empty if the bytes are no text. -/
def text? (cell : Cell limit) : Option String :=
  cell.inUse?.map fun bytes => (String.fromUTF8? bytes).getD ""

end Cell

/-! ## Limited texts in cells -/

namespace FixedText

theorem size_toUTF8_text (t : FixedText limit) : t.text.toUTF8.size = t.size := by
  rw [size, byteCount_eq_utf8ByteSize]
  rfl

theorem size_le (t : FixedText limit) : t.size ≤ limit :=
  t.byteCount_le

/-- A limited text in a cell: its bytes, and zeros behind them. -/
def cell (t : FixedText limit) : Cell limit where
  bytes := t.text.toUTF8 ++ zeros (limit + 1 - t.size)
  used := t.size
  size_bytes := by
    have hle := t.size_le
    rw [ByteArray.size_append, size_toUTF8_text, size_zeros]
    omega

end FixedText

namespace Cell
open FixedText

theorem inUse?_cell (t : FixedText limit) : t.cell.inUse? = some t.text.toUTF8 := by
  have hle : t.cell.used ≤ t.cell.bytes.size := by
    rw [t.cell.size_bytes]
    exact Nat.le_succ_of_le t.size_le
  rw [inUse?, first?, if_pos hle, FixedText.cell, ByteArray.extract_append_eq_left]
  exact t.size_toUTF8_text.symm

theorem text?_cell (t : FixedText limit) : t.cell.text? = some t.text := by
  rw [text?, inUse?_cell, Option.map_some, Text.fromUTF8?_eq_some_iff.mpr rfl, Option.getD_some]

/-- Into an empty cell goes a limited text with its bytes, and what was zero behind them stays so. -/
theorem write?_empty (t : FixedText limit) : empty.write? t.text.toUTF8 = some t.cell := by
  have hroom : t.size ≤ limit + 1 := Nat.le_succ_of_le t.size_le
  simp only [write?, empty, t.size_toUTF8_text, extract_zeros]
  rw [dif_pos hroom]
  rfl

/-- What is put into a cell is the limited text. -/
theorem store?_eq (limit : Nat) (s : String) :
    store? limit s = some (FixedText.ofString limit s).cell := by
  have hkept := fitting_prefix limit s.toList
  have hsize : byteCount (fitting limit s.toList) ≤ s.toUTF8.size :=
    byteCount_fitting_le_utf8ByteSize limit s
  rw [store?, lastBoundary?_limit, Option.bind_eq_bind, Option.bind_some, first?, if_pos hsize,
    byteCount_eq_utf8ByteSize, Text.extract_of_prefix hkept]
  exact write?_empty (FixedText.ofString limit s)

theorem eq_iff_text (t t' : FixedText limit) :
    t.cell = t'.cell ↔ t.cell.text? = t'.cell.text? := by
  constructor
  · exact congrArg text?
  · intro h
    rw [text?_cell, text?_cell, Option.some_inj] at h
    rw [← ofString_text t, h, ofString_text]

/-- A cell that some text was put into. -/
def Made (cell : Cell limit) : Prop :=
  ∃ s, store? limit s = some cell

theorem Made.exists_eq {cell : Cell limit} (h : Made cell) :
    ∃ t : FixedText limit, cell = t.cell := by
  obtain ⟨s, hs⟩ := h
  rw [store?_eq, Option.some_inj] at hs
  exact ⟨_, hs.symm⟩

theorem cell_empty : (FixedText.empty : FixedText limit).cell = empty := by
  have hbytes : (FixedText.empty : FixedText limit).text.toUTF8 = .empty := rfl
  simp only [FixedText.cell, hbytes, ByteArray.empty_append]
  rfl

theorem made_empty : Made (empty : Cell limit) :=
  ⟨"", by rw [store?_eq, ← cell_empty]; rfl⟩

/-- What is kept of a text in a cell. -/
structure Keeps (s : String) (cell : Cell limit) (text : String) : Prop where
  /-- The search for a boundary ends, and no range of bytes is missing. -/
  store : store? limit s = some cell
  longest : LongestStart (Fits limit) text.toList s.toList
  /-- The bytes in use are there, and they are a text. -/
  decoded : cell.inUse?.bind String.fromUTF8? = some text
  text_eq : cell.text? = some text
  used_eq : cell.used = text.utf8ByteSize
  /-- What was cut to size once is kept as it is. -/
  again : store? limit text = some cell
  limited : (FixedText.ofString limit s).text = text ∧ (FixedText.ofString limit s).size = cell.used

theorem keeps_cell (limit : Nat) (s : String) :
    Keeps s (FixedText.ofString limit s).cell (FixedText.ofString limit s).text where
  store := store?_eq limit s
  longest := by
    rw [FixedText.text, String.toList_ofList]
    exact longestStart_fitting limit s.toList
  decoded := by
    rw [inUse?_cell, Option.bind_some, Text.fromUTF8?_eq_some_iff]
  text_eq := text?_cell _
  used_eq := byteCount_eq_utf8ByteSize _
  again := by rw [store?_eq, ofString_text]
  limited := ⟨rfl, rfl⟩

/-- What cells are to their users. -/
structure KeepsLongest (limit : Nat) (s : String) : Prop where
  /-- A cell keeps the longest start of a text that fits. -/
  keeps : ∃ (cell : Cell limit) (text : String), Keeps s cell text
  made_empty : Made (empty : Cell limit)
  /-- Cells with the same text are equal. -/
  eq_iff : ∀ a b : Cell limit, Made a → Made b → (a = b ↔ a.text? = b.text?)

/-- **A cell keeps the longest start of a text that fits**, whatever the text is. -/
theorem keepsLongest (limit : Nat) (s : String) : KeepsLongest limit s where
  keeps := ⟨_, _, keeps_cell limit s⟩
  made_empty := made_empty
  eq_iff a b ha hb := by
    obtain ⟨t, rfl⟩ := ha.exists_eq
    obtain ⟨t', rfl⟩ := hb.exists_eq
    exact eq_iff_text t t'

/-- A character of three bytes is kept whole or not at all. -/
example : (store? 4 "a€b").bind text? = some "a€" ∧ (store? 3 "a€b").bind text? = some "a" := by
  decide

end Cell

end ReleaseFeed.Telemetry
