import ReleaseFeed.Proofs.Wire.RoundTrip

/-! # How the bytes of a message are laid out

A table takes up two extents, its index and its in-place part, and a text takes up one, with its byte
count and the NUL behind it.  `Table.extents` lists what the slots of a view take up, found as a reader
finds it: through the words of the buffer.

Alignment is an invariant of the writer's cursor.  What the slots refer to is laid out from a multiple
of 4 on, each text and each table is padded up to the next one, and so the cursor stays at multiples of
4 through tables of any depth (`dvd_outline`).  The extents are passed in the order in which they were
written, so it is enough to say of them that each begins where the padding behind the one before it
ends: they tile the buffer (`Tiles`).  Both go along with the slots of a table in one induction
(`Written.laid`), which starts from what the view of a written table shows.
-/
namespace ReleaseFeed.Wire
open Bytes

/-! ## Extents -/

/-- The bytes from `start` up to `stop`. -/
structure Extent where
  start : Nat
  stop : Nat
deriving DecidableEq, Repr

namespace Extent

/-- Position `i` is one of these bytes. -/
def Has (e : Extent) (i : Nat) : Prop :=
  e.start ≤ i ∧ i < e.stop

/-- No byte is in both. -/
def Disjoint (e e' : Extent) : Prop :=
  ∀ i, e.Has i → ¬ e'.Has i

end Extent

/-- All bytes from `lo` up to `hi` are zero. -/
def Blank (b : ByteArray) (lo hi : Nat) : Prop :=
  ∀ i (h : i < b.size), lo ≤ i → i < hi → b[i] = 0

theorem blank_self (b : ByteArray) (lo : Nat) : Blank b lo lo :=
  fun _ _ hlo hhi => absurd hlo (Nat.not_le.mpr hhi)

theorem Blank.trans {b : ByteArray} {lo mid hi : Nat} (h : Blank b lo mid) (h' : Blank b mid hi) :
    Blank b lo hi := by
  intro i hi' hlo hhi
  by_cases hmid : i < mid
  · exact h i hi' hlo hmid
  · exact h' i hi' (Nat.le_of_not_lt hmid) hhi

theorem blank_of_at {b : ByteArray} {pos n : Nat} (h : At b pos (zeros n)) :
    Blank b pos (pos + n) := by
  obtain ⟨front, back, rfl, rfl⟩ := h
  intro i hi hlo hhi
  have hzeros : i - front.size < (zeros n).size := by
    rw [size_zeros]
    omega
  rw [ByteArray.getElem_append_right hlo, ByteArray.getElem_append_left hzeros]
  simp [zeros, ByteArray.getElem_eq_getElem_data]

/-- The extents stand one after the other between `lo` and `hi`, and all bytes around them are zero. -/
def Tiles (b : ByteArray) (hi : Nat) : (lo : Nat) → List Extent → Prop
  | lo, [] => lo ≤ hi ∧ Blank b lo hi
  | lo, e :: rest => (lo ≤ e.start ∧ e.start ≤ e.stop ∧ Blank b lo e.start) ∧ Tiles b hi e.stop rest

namespace Tiles
variable {b : ByteArray} {lo mid hi : Nat} {es es' : List Extent}

theorem le (h : Tiles b hi lo es) : lo ≤ hi := by
  induction es generalizing lo with
  | nil => exact h.1
  | cons e es ih =>
    obtain ⟨⟨hlo, hstop, -⟩, hrest⟩ := h
    exact Nat.le_trans hlo (Nat.le_trans hstop (ih hrest))

/-- Zeros may stand before the extents. -/
theorem blank_left (hle : lo ≤ mid) (hblank : Blank b lo mid) (h : Tiles b hi mid es) :
    Tiles b hi lo es := by
  cases es with
  | nil => exact ⟨Nat.le_trans hle h.1, hblank.trans h.2⟩
  | cons e es =>
    obtain ⟨⟨hlo, hstop, hbefore⟩, hrest⟩ := h
    exact ⟨⟨Nat.le_trans hle hlo, hstop, hblank.trans hbefore⟩, hrest⟩

theorem append (h : Tiles b mid lo es) (h' : Tiles b hi mid es') : Tiles b hi lo (es ++ es') := by
  induction es generalizing lo with
  | nil => exact h'.blank_left h.1 h.2
  | cons e es ih => exact ⟨h.1, ih h.2⟩

theorem bounds (h : Tiles b hi lo es) : ∀ e ∈ es, lo ≤ e.start ∧ e.stop ≤ hi := by
  induction es generalizing lo with
  | nil => nofun
  | cons e es ih =>
    obtain ⟨⟨hlo, hstop, -⟩, hrest⟩ := h
    refine List.forall_mem_cons.mpr ⟨⟨hlo, hrest.le⟩, fun e' he' => ?_⟩
    obtain ⟨hstart', hstop'⟩ := ih hrest e' he'
    exact ⟨by omega, hstop'⟩

theorem pairwise (h : Tiles b hi lo es) : es.Pairwise Extent.Disjoint := by
  induction es generalizing lo with
  | nil => exact .nil
  | cons e es ih =>
    refine .cons (fun e' he' i hi hi' => ?_) (ih h.2)
    have hafter := (h.2.bounds e' he').1
    exact absurd (Nat.lt_of_lt_of_le hi.2 hafter) (Nat.not_lt.mpr hi'.1)

/-- What is in no extent is padding. -/
theorem blank (h : Tiles b hi lo es) {i : Nat} (hsize : i < b.size) (hlo : lo ≤ i) (hhi : i < hi)
    (hnone : ∀ e ∈ es, ¬ e.Has i) : b[i] = 0 := by
  induction es generalizing lo with
  | nil => exact h.2 i hsize hlo hhi
  | cons e es ih =>
    obtain ⟨⟨-, -, hblank⟩, hrest⟩ := h
    have hnone' := List.forall_mem_cons.mp hnone
    by_cases hbefore : i < e.start
    · exact hblank i hsize hlo hbefore
    · have hstop : e.stop ≤ i := by
        by_contra hlt
        exact hnone'.1 ⟨Nat.le_of_not_lt hbefore, Nat.lt_of_not_le hlt⟩
      exact ih hrest hstop hnone'.2

end Tiles

namespace View

/-! ## What a table and a text take up -/

/-- The index of a table and its in-place part. -/
def extents (v : View) : List Extent :=
  [⟨v.index, v.index + 4 + 2 * v.slots⟩, ⟨v.start, v.start + v.size⟩]

/-- Where a slot is in the buffer. -/
def slotAt (v : View) (slot : Nat) : Nat :=
  v.start + (v.position? slot).getD 0

/-- The text that position `pos` refers to: its byte count, its bytes and one byte more. -/
def textExtent (b : ByteArray) (pos : Nat) : Extent :=
  ⟨textTarget b pos, textStop b pos + 1⟩

/-- A table stands at a multiple of 4, behind its index, which stands at an even position. -/
structure TableLaid (v : View) : Prop where
  start : 4 ∣ v.start
  index : 2 ∣ v.index
  index_le : v.index + 4 + 2 * v.slots ≤ v.start

/-- The text that position `pos` refers to stands behind it at a multiple of 4, with a NUL at its end. -/
structure TextLaid (b : ByteArray) (pos : Nat) (s : String) : Prop where
  forward : pos < textTarget b pos
  start : 4 ∣ textTarget b pos
  text : textFrom b pos = .ok s
  stop_lt : textStop b pos < b.size
  nul : b[textStop b pos] = 0

/-- The slot is there, in the in-place part, at a multiple of its size. -/
structure SlotLaid (v : View) (slot size : Nat) : Prop where
  present : v.position? slot ≠ none
  inside : v.start + 4 ≤ v.slotAt slot
  le : v.slotAt slot + size ≤ v.start + v.size
  aligned : size ∣ v.slotAt slot

end View

namespace Table

/-- What the slots of a view from `slot` on refer to takes up these extents. -/
def extents : Table → View → (slot : Nat) → List Extent
  | done, _, _ => []
  | absent rest, v, slot | scalar _ rest, v, slot => rest.extents v (slot + 1)
  | text _ rest, v, slot => View.textExtent v.buffer (v.slotAt slot) :: rest.extents v (slot + 1)
  | child t rest, v, slot =>
    (match View.childFrom v.buffer (v.slotAt slot) with
      | .ok w => w.extents ++ t.extents w 0
      | .error _ => []) ++ rest.extents v (slot + 1)

/-- The slots of a view from `slot` on are laid out as they should, and so is what they refer to, at any
depth. -/
def Laid : Table → View → (slot : Nat) → Prop
  | done, _, _ => True
  | absent rest, v, slot => v.position? slot = none ∧ rest.Laid v (slot + 1)
  | scalar s rest, v, slot =>
    (v.SlotLaid slot s.kind.size ∧ At v.buffer (v.slotAt slot) s.bytes) ∧ rest.Laid v (slot + 1)
  | text s rest, v, slot =>
    (v.SlotLaid slot referenceSize ∧ View.TextLaid v.buffer (v.slotAt slot) s) ∧
      rest.Laid v (slot + 1)
  | child t rest, v, slot =>
    (v.SlotLaid slot referenceSize ∧
      ∃ w, View.childFrom v.buffer (v.slotAt slot) = .ok w ∧ v.slotAt slot < w.start ∧ w.TableLaid ∧
        w.slots = t.length ∧ t.Laid w 0) ∧
      rest.Laid v (slot + 1)

end Table

/-! ## Written tables -/

namespace View
variable {v : View} {slot position here size : Nat}

theorem HasSlot.slotAt_eq (h : v.HasSlot slot position size) :
    v.slotAt slot = v.start + position := by
  rw [slotAt, h.position?_eq, Option.getD_some]

theorem Placed.slotAt_eq {places : List (Option Nat)} (h : v.Placed slot (some here :: places))
    (hle : v.start ≤ here) : v.slotAt slot = here := by
  rw [slotAt, h.1, Option.map_some, Option.getD_some, Nat.add_sub_cancel' hle]

/-- A slot that has been placed at the next multiple of its size is laid out as it should. -/
theorem HasSlot.laid {p : Nat} {places : List (Option Nat)} (h : v.HasSlot slot position size)
    (hplaced : v.Placed slot (some (alignUp p size) :: places)) (hle : v.start ≤ alignUp p size) :
    v.SlotLaid slot size := by
  have hfour := h.four_le
  have hend := h.le_size
  have hslotAt := h.slotAt_eq
  refine ⟨?_, by omega, by omega, ?_⟩
  · rw [h.position?_eq]
    nofun
  · rw [hplaced.slotAt_eq hle]
    exact dvd_alignUp _ _

end View

namespace Table
variable {b : ByteArray} {pos : Nat} {t : Table}

theorem tableLaid_viewAt (b : ByteArray) (t : Table) (hpos : 4 ∣ pos) :
    (t.viewAt b pos).TableLaid where
  start := dvd_alignUp _ _
  index := Nat.dvd_trans (by decide) hpos
  index_le := by
    have hstart := t.le_start pos
    rw [indexSize] at hstart
    dsimp only [viewAt]
    omega

/-- The index and the in-place part of a written table, up to what its slots refer to. -/
theorem tiles_viewAt {outline : List Nat × List ByteArray} (h : Assembled b pos t outline) :
    Tiles b (t.outlineStart pos) pos (t.viewAt b pos).extents := by
  have hstart := t.le_start pos
  have hstop := t.le_stop pos
  have hout := t.le_outlineStart pos
  have hpad := blank_of_at h.pad
  have hpadEnd := blank_of_at h.padEnd
  rw [Nat.add_sub_cancel' hstart] at hpad
  rw [Nat.add_sub_cancel' hout] at hpadEnd
  rw [indexSize] at hstart hpad
  rw [← Nat.add_assoc] at hstart hpad
  have hend : t.start pos + (t.stop pos - t.start pos) = t.stop pos := by omega
  refine ⟨⟨Nat.le_refl _, by dsimp only; omega, blank_self b pos⟩, ⟨hstart, ?_, hpad⟩, ?_, ?_⟩
  · exact Nat.le_add_right _ _
  · exact hend ▸ hout
  · exact hend ▸ hpadEnd

/-- A written table from end to end, when what its slots refer to is as it should be. -/
theorem tiles_write (h : Assembled b pos t (outline (t.outlineStart pos) t))
    (hslots : Tiles b (t.outlineStart pos + (join (outline (t.outlineStart pos) t).2).size)
      (t.outlineStart pos) (t.extents (t.viewAt b pos) 0)) :
    Tiles b (pos + (t.write pos).size) pos
      ((t.viewAt b pos).extents ++ t.extents (t.viewAt b pos) 0) := by
  rw [end_write]
  exact (tiles_viewAt h).append hslots

/-- The extent of a written text, up to the end of its padding. -/
theorem textLaid_of_at {here q : Nat} {s : String} (h : At b q (textBytes s))
    (htarget : View.textTarget b here = q) (htext : View.textFrom b here = .ok s) (hlt : here < q)
    (hq : 4 ∣ q) :
    View.TextLaid b here s ∧ Tiles b (q + (textBytes s).size) q [View.textExtent b here] := by
  have hle := h.le_size
  have hpadding : s.toUTF8.size + 1 ≤ alignUp (s.toUTF8.size + 1) 4 := le_alignUp (by decide)
  have hsize : q + (textBytes s).size = q + 4 + s.toUTF8.size +
      (alignUp (s.toUTF8.size + 1) 4 - s.toUTF8.size) := by
    simp only [textBytes, join_cons, join_nil, ByteArray.size_append, size_word, size_zeros,
      ByteArray.size_empty]
    omega
  have hstop : View.textStop b here = q + 4 + s.toUTF8.size := by
    rw [View.textStop_eq htext, htarget]
  -- the zeros behind the bytes are the NUL and the padding
  have hzeros : Blank b (q + 4 + s.toUTF8.size) (q + (textBytes s).size) := by
    simp only [textBytes, join_cons] at h
    have hblank := blank_of_at h.right.right.left
    rw [size_word] at hblank
    rwa [hsize]
  refine ⟨⟨htarget ▸ hlt, htarget ▸ hq, htext, by omega, ?_⟩, ?_⟩
  · exact hzeros _ _ (Nat.le_of_eq hstop.symm) (by omega)
  · rw [View.textExtent, htarget, hstop]
    refine ⟨⟨Nat.le_refl _, by dsimp only; omega, blank_self b q⟩, by dsimp only; omega, ?_⟩
    exact fun i hi hlo hhi => hzeros i hi (Nat.le_of_succ_le hlo) hhi

/-- What the slots of a written table refer to is laid out as it should, from one multiple of 4 to
another. -/
theorem Written.laid {v : View} {slot p q : Nat} (h : t.Written v slot q)
    (hnarrow : t.NarrowBelow q) (hp : v.start + 4 ≤ p) (hq : (place p t).2 ≤ q) (hdvd : 4 ∣ q)
    (hplaces : v.Placed slot (place p t).1) (hout : At v.buffer q (join (outline q t).2)) :
    t.Laid v slot ∧ Tiles v.buffer (q + (join (outline q t).2).size) q (t.extents v slot) := by
  -- `p` tells where the next slot is, `q` where what it refers to begins
  induction t generalizing v slot p q with
  | done => exact ⟨trivial, Nat.le_refl _, blank_self v.buffer q⟩
  | absent rest ih =>
    obtain ⟨hlaid, htiles⟩ := ih h.2 hnarrow hp hq hdvd hplaces.2 hout
    exact ⟨⟨h.1, hlaid⟩, htiles⟩
  | scalar s rest ih =>
    have halign := le_alignUp (n := p) s.kind.size_pos
    simp only [place] at hq hplaces
    obtain ⟨⟨position, hslot, hbytes⟩, hrest⟩ := h
    obtain ⟨hlaid, htiles⟩ := ih hrest hnarrow (by omega) hq hdvd hplaces.2 hout
    refine ⟨⟨⟨hslot.laid hplaces (by omega), ?_⟩, hlaid⟩, htiles⟩
    rwa [hslot.slotAt_eq]
  | text s rest ih =>
    have halign : p ≤ alignUp p referenceSize := le_alignUp (by decide)
    have hle := le_place (alignUp p referenceSize + referenceSize) rest
    simp only [place] at hq hplaces
    simp only [outline, join_cons] at hout
    obtain ⟨⟨position, hslot, htarget, htext⟩, hrest⟩ := h
    have hhere : v.slotAt slot = alignUp p referenceSize := hplaces.slotAt_eq (by omega)
    have hlt : v.slotAt slot < q := by
      rw [referenceSize] at *
      omega
    rw [← hslot.slotAt_eq] at htarget htext
    obtain ⟨htextLaid, htextTiles⟩ := textLaid_of_at hout.left htarget htext hlt hdvd
    obtain ⟨hlaid, htiles⟩ := ih hrest hnarrow (by omega) (by omega) (dvd_textBytes hdvd s)
      hplaces.2 hout.right
    refine ⟨⟨⟨hslot.laid hplaces (by omega), htextLaid⟩, hlaid⟩, ?_⟩
    simp only [outline, join_cons, ByteArray.size_append, extents]
    rw [← Nat.add_assoc]
    exact htextTiles.append htiles
  | child t rest iht ih =>
    have halign : p ≤ alignUp p referenceSize := le_alignUp (by decide)
    have hle := le_place (alignUp p referenceSize + referenceSize) rest
    have hstart := t.le_start q
    simp only [place] at hq hplaces
    simp only [outline, join_cons] at hout
    obtain ⟨⟨position, hslot, hchild, hinner⟩, hrest⟩ := h
    obtain ⟨⟨hindex, hsize, hnarrowInner⟩, hnarrow'⟩ := hnarrow
    have hhere : v.slotAt slot = alignUp p referenceSize := hplaces.slotAt_eq (by omega)
    have hlt : v.slotAt slot < t.start q := by
      rw [referenceSize] at *
      omega
    rw [← hslot.slotAt_eq] at hchild
    have hassembled := assembled hout.left
    obtain ⟨hinnerLaid, hinnerTiles⟩ := iht hinner hnarrowInner (Nat.le_refl _)
      (t.le_outlineStart q) (dvd_alignUp _ _) (placed_viewAt hassembled hindex hsize)
      hassembled.outline
    have hdvd' : 4 ∣ q + (t.write q).size := end_write q t ▸ dvd_outline (dvd_alignUp _ _)
    have hnext : (place (alignUp p referenceSize + referenceSize) rest).2 ≤ q + (t.write q).size :=
      Nat.le_trans hq (Nat.le_add_right _ _)
    obtain ⟨hlaid, htiles⟩ := ih hrest hnarrow' (by omega) hnext hdvd' hplaces.2 hout.right
    refine ⟨⟨⟨hslot.laid hplaces (by omega), _, hchild, hlt, tableLaid_viewAt v.buffer t hdvd, rfl,
      hinnerLaid⟩, hlaid⟩, ?_⟩
    simp only [outline, join_cons, ByteArray.size_append, extents, hchild]
    rw [← Nat.add_assoc]
    exact (tiles_write hassembled hinnerTiles).append htiles

/-- A written table and all that belongs to it. -/
theorem laid_viewAt (h : At b pos (t.write pos)) (hnarrow : t.Narrow pos)
    (hnear : t.Near (t.start pos + 4) (t.outlineStart pos)) (hbrief : t.Brief) :
    t.Laid (t.viewAt b pos) 0 ∧
      Tiles b (pos + (t.write pos).size) pos
        ((t.viewAt b pos).extents ++ t.extents (t.viewAt b pos) 0) := by
  have hassembled := assembled h
  have hplaced := placed_viewAt hassembled hnarrow.indexSize_lt hnarrow.size_lt
  obtain ⟨-, hwritten⟩ := written_viewAt h hnarrow hnear hbrief
  obtain ⟨hlaid, htiles⟩ := hwritten.laid hnarrow.below (Nat.le_refl _) (t.le_outlineStart pos)
    (dvd_alignUp _ _) hplaced hassembled.outline
  exact ⟨hlaid, tiles_write hassembled htiles⟩

end Table

/-! ## Messages -/

/-- What the first word of a message, its tables and its texts take up. -/
def messageExtents (t : Table) (root : View) : List Extent :=
  ⟨0, 4⟩ :: (root.extents ++ t.extents root 0)

/-- How a message is laid out whose root table is `t`. -/
structure LaidOut (b : ByteArray) (t : Table) (root : View) : Prop where
  /-- The first word of the message leads forward to the root table. -/
  found : View.find b (valueAt b 4 0) = .ok root
  forward : 0 < root.start
  slots : root.slots = t.length
  table : root.TableLaid
  /-- The slots of the root table, and all tables and texts from there on. -/
  laid : t.Laid root 0
  disjoint : (messageExtents t root).Pairwise Extent.Disjoint
  inside : ∀ e ∈ messageExtents t root, e.stop ≤ b.size
  padding : ∀ i (h : i < b.size), (∀ e ∈ messageExtents t root, ¬ e.Has i) → b[i] = 0

/-- **Messages are laid out as they should be**, whatever table they carry, as long as the sizes of
tables fit their 2 bytes and the distances their 4. -/
theorem laidOut_enclose (type : RecordType) (t : Table) (hnarrow : (Envelope.table type t).Narrow 4)
    (hsize : (enclose type t).size < 2 ^ 32) :
    ∃ root, LaidOut (enclose type t) (Envelope.table type t) root := by
  have hat := at_enclose type t
  have hnear := near_envelope (Nat.le_of_lt hsize)
  have hbrief := brief_envelope (Nat.le_of_lt hsize)
  have hstart := start_envelope type t
  have hword := valueAt_enclose type t
  have hend := size_enclose type t
  -- from here on the root table is any table
  generalize Envelope.table type t = root at *
  obtain ⟨hsits, -⟩ := Table.written_viewAt hat hnarrow hnear hbrief
  obtain ⟨hlaid, htiles⟩ := Table.laid_viewAt hat hnarrow hnear hbrief
  rw [← hend] at htiles
  have hall : Tiles (enclose type t) (enclose type t).size 0
      (messageExtents root (root.viewAt (enclose type t) 4)) :=
    ⟨⟨Nat.le_refl _, Nat.zero_le _, blank_self _ _⟩, htiles⟩
  refine ⟨root.viewAt (enclose type t) 4, ?_, ?_, rfl,
    Table.tableLaid_viewAt _ root (Nat.dvd_refl 4), hlaid, hall.pairwise, ?_, ?_⟩
  · rw [hword]
    exact hsits.find_eq
  · show 0 < root.start 4
    rw [hstart]
    decide
  · exact fun e he => (hall.bounds e he).2
  · exact fun i hi hnone => hall.blank hi (Nat.zero_le _) hi hnone

/-- A table that goes two tables deep, with numbers and texts of several sizes. -/
def nestedTable : Table :=
  .ofFields [.scalar (.u8 7), .text "né",
    .child (.absent (.scalar (.i16 (-1)) (.child .done .done))), .scalar (.u64 5), .text ""]

theorem laidOut_nestedTable : (Envelope.table .economic nestedTable).Narrow 4 ∧
    (enclose .economic nestedTable).size < 2 ^ 32 ∧
    ∃ root, LaidOut (enclose .economic nestedTable) (Envelope.table .economic nestedTable) root ∧
      messageExtents (Envelope.table .economic nestedTable) root =
        [⟨0, 4⟩, ⟨4, 14⟩, ⟨16, 29⟩, ⟨32, 46⟩, ⟨48, 76⟩, ⟨76, 84⟩, ⟨84, 94⟩, ⟨96, 108⟩, ⟨108, 112⟩,
          ⟨112, 116⟩, ⟨116, 121⟩] := by
  have hnarrow : (Envelope.table .economic nestedTable).Narrow 4 :=
    Table.narrow_of_widest (by decide) (by decide)
  have hsize : (enclose .economic nestedTable).size < 2 ^ 32 := by
    rw [size_enclose]
    decide +kernel
  obtain ⟨root, hroot⟩ := laidOut_enclose .economic nestedTable hnarrow hsize
  have hextents : (View.find (enclose .economic nestedTable)
      (valueAt (enclose .economic nestedTable) 4 0)).toOption.map
      (messageExtents (Envelope.table .economic nestedTable)) = some
        [⟨0, 4⟩, ⟨4, 14⟩, ⟨16, 29⟩, ⟨32, 46⟩, ⟨48, 76⟩, ⟨76, 84⟩, ⟨84, 94⟩, ⟨96, 108⟩, ⟨108, 112⟩,
          ⟨112, 116⟩, ⟨116, 121⟩] := by
    rw [enclose_eq]
    decide +kernel
  rw [hroot.found] at hextents
  exact ⟨hnarrow, hsize, root, hroot, Option.some.inj hextents⟩

end ReleaseFeed.Wire
