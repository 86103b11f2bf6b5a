import ReleaseFeed.Proofs.Wire.Checked
import ReleaseFeed.Proofs.Wire.Writing
import ReleaseFeed.Proofs.Wire.Written

/-! # Records come back from their messages

The writer follows a table and the reader follows a layout.  `Layout.keep` is where
they meet: it takes from a table the slots that a layout has, and has no result where
the table holds another kind of field than the layout says.  A view that shows a
table is sound for every layout that can be kept, and is read as what is kept
(`Written.found`), by induction on the layout.

A whole message is one table more, the envelope: it verifies, and decodes to the
record that the kept table holds (`decode_enclose`).  The table of a record is kept as
it is by the layout of its type (`keep_table`), so every record whose message is not
too long comes back (`decode_encode`).
-/
namespace ReleaseFeed.Wire
open Bytes

/-! ## The slots that a layout has -/

/-- The slots of a table that a layout has, absent where the table ends before; nothing
if the table holds another kind of field in one of them. -/
def Layout.keep : Layout → Table → Option Table
  | .done, _ => some .done
  | .scalar _ rest, .done | .text rest, .done | .table _ rest, .done =>
    (rest.keep .done).map .absent
  | .scalar _ rest, .absent t | .text rest, .absent t | .table _ rest, .absent t =>
    (rest.keep t).map .absent
  | .scalar kind rest, .scalar s t =>
    if s.kind = kind then (rest.keep t).map (.scalar s) else none
  | .text rest, .text s t => (rest.keep t).map (.text s)
  | .table inner rest, .child u t =>
    (inner.keep u).bind fun u' => (rest.keep t).map (.child u')
  | _, _ => none

namespace View
variable {v : View} {slot position size : Nat}

theorem HasSlot.slotInside (h : v.HasSlot slot position size) : v.SlotInside slot size := by
  intro position' hposition
  cases h.position?_eq.symm.trans hposition
  exact ⟨h.four_le, h.le_size⟩

theorem position?_of_le (h : v.slots ≤ slot) : v.position? slot = none := by
  rw [position?, if_neg (Nat.not_lt.mpr h)]

end View

/-- The layout of the slots after the first one. -/
def Layout.rest? : Layout → Option Layout
  | .done => none
  | .scalar _ rest | .text rest | .table _ rest => some rest

/-- A slot that the view does not have is found absent, whatever the layout has there. -/
theorem View.found_of_none {layout rest : Layout} {t u : Table} {v : View} {slot : Nat}
    (hlayout : layout.rest? = some rest) (hnone : v.position? slot = none)
    (hkeep : (rest.keep t).map .absent = some u)
    (hrest : ∀ {w}, rest.keep t = some w → View.Found rest v (slot + 1) w) :
    View.Found layout v slot u := by
  obtain ⟨w, hw, rfl⟩ := Option.map_eq_some_iff.mp hkeep
  have hinside : ∀ {size}, v.SlotInside slot size := View.slotInside_of_none hnone
  cases layout with
  | done => cases hlayout
  | scalar kind rest =>
    cases hlayout
    exact View.found_scalar_iff.mpr ⟨hinside, w, hrest hw, .inl ⟨hnone, rfl⟩⟩
  | text rest =>
    cases hlayout
    exact View.found_text_iff.mpr ⟨hinside, w, hrest hw, .inl ⟨hnone, rfl⟩⟩
  | table inner rest =>
    cases hlayout
    exact View.found_table_iff.mpr ⟨hinside, w, hrest hw, .inl ⟨hnone, rfl⟩⟩

/-- A view that shows a table is sound for a layout that the table fits, and is read as
what the layout keeps of it. -/
theorem Table.Written.found {layout : Layout} {t u : Table} {v : View} {slot q : Nat}
    (h : t.Written v slot q) (hv : v.Sits) (hslots : v.slots ≤ slot + t.length)
    (hkeep : layout.keep t = some u) : View.Found layout v slot u := by
  -- in each slot: the table has ended before, has nothing there, or has a field of its own
  induction layout generalizing t u v slot q with
  | done =>
    cases hkeep
    exact ⟨hv, trivial, rfl⟩
  | scalar kind rest ih =>
    cases t with
    | done =>
      refine View.found_of_none rfl (View.position?_of_le hslots) hkeep fun hw => ?_
      exact ih (t := .done) (q := q) trivial hv (Nat.le_succ_of_le hslots) hw
    | absent t =>
      refine View.found_of_none rfl h.1 hkeep fun hw => ?_
      exact ih h.2 hv (by rw [Table.length] at hslots; omega) hw
    | scalar s t =>
      simp only [Layout.keep, Option.ite_none_right_eq_some] at hkeep
      obtain ⟨rfl, hkeep⟩ := hkeep
      obtain ⟨w, hw, rfl⟩ := Option.map_eq_some_iff.mp hkeep
      obtain ⟨⟨position, hslot, hat⟩, hrest⟩ := h
      have hfound := ih hrest hv (by rw [Table.length] at hslots; omega) hw
      rw [View.found_scalar_iff]
      refine ⟨hslot.slotInside, w, hfound, .inr ⟨position, hslot.position?_eq, ?_⟩⟩
      rw [Scalar.ofImage_valueAt hat]
    | text | child => cases hkeep
  | text rest ih =>
    cases t with
    | done =>
      refine View.found_of_none rfl (View.position?_of_le hslots) hkeep fun hw => ?_
      exact ih (t := .done) (q := q) trivial hv (Nat.le_succ_of_le hslots) hw
    | absent t =>
      refine View.found_of_none rfl h.1 hkeep fun hw => ?_
      exact ih h.2 hv (by rw [Table.length] at hslots; omega) hw
    | text s t =>
      obtain ⟨w, hw, rfl⟩ := Option.map_eq_some_iff.mp hkeep
      obtain ⟨⟨position, hslot, -, htext⟩, hrest⟩ := h
      have hfound := ih hrest hv (by rw [Table.length] at hslots; omega) hw
      rw [View.found_text_iff]
      exact ⟨hslot.slotInside, w, hfound, .inr ⟨position, s, hslot.position?_eq, htext, rfl⟩⟩
    | scalar | child => cases hkeep
  | table inner rest ihInner ih =>
    cases t with
    | done =>
      refine View.found_of_none rfl (View.position?_of_le hslots) hkeep fun hw => ?_
      exact ih (t := .done) (q := q) trivial hv (Nat.le_succ_of_le hslots) hw
    | absent t =>
      refine View.found_of_none rfl h.1 hkeep fun hw => ?_
      exact ih h.2 hv (by rw [Table.length] at hslots; omega) hw
    | child value t =>
      obtain ⟨value', hvalue, hkeep⟩ := Option.bind_eq_some_iff.mp hkeep
      obtain ⟨w, hw, rfl⟩ := Option.map_eq_some_iff.mp hkeep
      obtain ⟨⟨position, hslot, hchild, hinner⟩, hrest⟩ := h
      obtain ⟨hsits, -⟩ := View.sits_of_childFrom hchild
      have hfound := ih hrest hv (by rw [Table.length] at hslots; omega) hw
      have hfoundInner := ihInner hinner hsits (Nat.le_of_eq (Nat.zero_add _).symm) hvalue
      rw [View.found_table_iff]
      exact ⟨hslot.slotInside, w, hfound,
        .inr ⟨position, _, value', hslot.position?_eq, hchild, hfoundInner, rfl⟩⟩
    | scalar | text => cases hkeep

/-! ## Whole messages -/

section Messages
variable {type : RecordType} {t u : Table}

/-- A message is the position of its root table and the bytes of this table. -/
theorem enclose_eq (type : RecordType) (t : Table) : enclose type t =
    word 4 ((Envelope.table type t).start 4) ++ (Envelope.table type t).write 4 := by
  have hpatch := patch_append (show 0 = ByteArray.empty.size from rfl)
    (show (zeros 4).size = (word 4 ((Envelope.table type t).start 4)).size by simp)
    ((Envelope.table type t).write 4)
  rw [ByteArray.empty_append, ByteArray.empty_append] at hpatch
  unfold enclose
  rw [Table.appendTo_eq, size_zeros]
  exact hpatch

theorem at_enclose (type : RecordType) (t : Table) :
    At (enclose type t) 4 ((Envelope.table type t).write 4) := by
  rw [enclose_eq]
  have h :=
    At.of_append (word 4 ((Envelope.table type t).start 4)) ((Envelope.table type t).write 4)
  rwa [size_word] at h

theorem size_enclose (type : RecordType) (t : Table) :
    (enclose type t).size = 4 + ((Envelope.table type t).write 4).size := by
  rw [enclose_eq, ByteArray.size_append, size_word]

/-- The root table is at the same place in every message: only its slots refer to the record. -/
theorem start_envelope (type : RecordType) (t : Table) : (Envelope.table type t).start 4 = 16 := by
  have hlength : (Envelope.table type t).length = 3 := rfl
  rw [Table.start, Table.indexSize, hlength]
  rfl

theorem valueAt_enclose (type : RecordType) (t : Table) :
    valueAt (enclose type t) 4 0 = (Envelope.table type t).start 4 := by
  have hword : At (enclose type t) 0 (word 4 ((Envelope.table type t).start 4) ++
      (Envelope.table type t).write 4) := by
    rw [enclose_eq]
    exact At.refl _
  exact hword.left.valueAt_word (by rw [start_envelope]; decide)

/-- The distances in a message whose size fits 4 bytes fit 4 bytes, too. -/
theorem near_envelope (hsize : (enclose type t).size ≤ 2 ^ 32) :
    (Envelope.table type t).Near ((Envelope.table type t).start 4 + 4)
      ((Envelope.table type t).outlineStart 4) := by
  refine Table.near_of_le ?_
  rwa [size_enclose, Table.end_write] at hsize

theorem brief_envelope (hsize : (enclose type t).size ≤ 2 ^ 32) :
    (Envelope.table type t).Brief := by
  refine Table.brief_of_le (q := (Envelope.table type t).outlineStart 4) ?_
  rwa [size_enclose, Table.end_write] at hsize

/-- A number that stands in its slot is looked up there. -/
theorem View.scalar?_of_at {v : View} {slot position : Nat} {s : Scalar} (hv : v.Sits)
    (hslot : v.HasSlot slot position s.kind.size) (h : At v.buffer (v.start + position) s.bytes) :
    v.scalar? s.kind slot = some s := by
  have hle := hslot.slotInside.add_le hv.below hslot.position?_eq
  rw [View.scalar?, hslot.position?_eq, Option.bind_eq_bind, Option.bind_some, word?_eq_some hle]
  exact congrArg some (Scalar.ofImage_valueAt h)

/-- The envelope of a message that is not too long is found, and shows its slots. -/
theorem find_enclose (hsize : (enclose type t).size ≤ maxMessageSize)
    (hnarrow : (Envelope.table type t).Narrow 4) :
    Envelope.find (enclose type t) =
        .ok ((Envelope.table type t).viewAt (enclose type t) 4) ∧
      ((Envelope.table type t).viewAt (enclose type t) 4).Sits ∧
      (Envelope.table type t).Written ((Envelope.table type t).viewAt (enclose type t) 4) 0
        ((Envelope.table type t).outlineStart 4) := by
  have hbelow := Nat.le_trans hsize (show maxMessageSize ≤ 2 ^ 32 by decide)
  obtain ⟨hsits, hwritten⟩ := Table.written_viewAt (at_enclose type t) hnarrow
    (near_envelope hbelow) (brief_envelope hbelow)
  have hroot := valueAt_enclose type t
  have hstart := start_envelope type t
  have hle := hsits.inPlace_le
  simp only [Table.viewAt, hstart] at hle
  refine ⟨Envelope.find_eq_ok_iff.mpr ⟨?_, hsize, ?_, ?_⟩, hsits, hwritten⟩
  · rw [minMessageSize]
    omega
  · rw [hroot, hstart]
    decide
  · rw [hroot]
    exact hsits.find_eq

/-- The layout of an envelope keeps its table as it is, but for what the layout of the
type keeps of the record's table. -/
theorem keep_envelope (hkeep : type.layout.keep t = some u) :
    (Envelope.layout type).keep (Envelope.table type t) = some (Envelope.table type u) := by
  simp only [Envelope.layout, Envelope.table, Layout.ofSlots, Table.ofFields, List.foldr_cons,
    List.foldr_nil, Table.cons, Layout.keep, hkeep, Option.map_some, Option.bind_some]
  rfl

/-- A message verifies as its type and gives the record that its layout keeps of the
table. -/
theorem decode_enclose (hsize : (enclose type t).size ≤ maxMessageSize)
    (hnarrow : (Envelope.table type t).Narrow 4) (hkeep : type.layout.keep t = some u) :
    verify (enclose type t) = .ok type ∧
      Record.decode (enclose type t) = .ok (Record.ofTable type u) := by
  obtain ⟨hfind, hsits, hwritten⟩ := find_enclose hsize hnarrow
  have hroot := hwritten.found hsits (Nat.le_of_eq (Nat.zero_add _).symm) (keep_envelope hkeep)
  obtain ⟨⟨_, htypeSlot, hbyte⟩, ⟨position, hslot, hchild, hinner⟩, -⟩ := hwritten
  have hmessage := hinner.found (View.sits_of_childFrom hchild).1
    (Nat.le_of_eq (Nat.zero_add _).symm) hkeep
  -- the layout was chosen by a byte that the writer put there
  have htype :
      Envelope.typeByte ((Envelope.table type t).viewAt (enclose type t) 4) = type.code := by
    have hscalar := View.scalar?_of_at hsits htypeSlot hbyte
    rw [Scalar.kind] at hscalar
    rw [Envelope.typeByte, Envelope.byteAt, Envelope.typeSlot, hscalar]
  have hverify : verify (enclose type t) = .ok type := by
    refine verify_eq_ok_iff.mpr ⟨_, hfind, ?_, hroot.sound, ?_⟩
    · rw [htype, RecordType.ofCode?_code]
    · exact Option.isSome_iff_exists.mpr ⟨position, hslot.position?_eq⟩
  refine ⟨hverify, Record.decode_eq_ok_iff.mpr
    ⟨type, _, _, u, hverify, hfind, ?_, hmessage.read, rfl⟩⟩
  rw [Envelope.message_eq_ok_iff, Envelope.messageSlot, View.child?_of_some hslot.position?_eq,
    hchild]
  rfl

end Messages

end ReleaseFeed.Wire

namespace ReleaseFeed.Record
open Wire

/-! ## Records -/

/-- Every slot of a record's table is in the layout of its type, and of the right kind. -/
theorem keep_table (r : Record) : r.type.layout.keep r.table = some r.table := by
  cases r <;> rfl

theorem narrow_table (r : Record) : (Envelope.table r.type r.table).Narrow 4 := by
  refine Table.narrow_of_widest (Nat.le_of_ble_eq_true rfl) ?_
  cases r <;> exact Nat.le_of_ble_eq_true rfl

/-- A message that is too long is refused for that. -/
theorem verify_of_tooLarge {b : ByteArray} (h : maxMessageSize < b.size) :
    verify b = .error (.tooLarge b.size maxMessageSize) := by
  have hmin : ¬ b.size < minMessageSize :=
    Nat.not_lt.mpr (Nat.le_trans (by decide) (Nat.le_of_lt h))
  rw [verify, Envelope.find, if_neg hmin, if_pos h]
  rfl

/-- **Every record comes back from its message**, and is written again with the same
bytes; or the message is too long and is refused for that.  So a record can be sent
exactly when a reader accepts what is sent. -/
theorem decode_encode (r : Record) :
    (if r.encode.size ≤ maxMessageSize then
        verify r.encode = .ok r.type ∧ decode r.encode = .ok r ∧
          (decode r.encode).map encode = .ok r.encode
      else
        verify r.encode = .error (.tooLarge r.encode.size maxMessageSize)) ∧
    ∀ bytes, r.tryEncode = .ok bytes ↔ bytes = r.encode ∧ (verify r.encode).isOk := by
  by_cases hsize : r.encode.size ≤ maxMessageSize
  · obtain ⟨hverify, hdecode⟩ := decode_enclose hsize r.narrow_table r.keep_table
    rw [ofTable_table] at hdecode
    rw [if_pos hsize]
    refine ⟨⟨hverify, hdecode, ?_⟩, fun bytes => ?_⟩
    · rw [show decode r.encode = .ok r from hdecode]
      rfl
    · rw [tryEncode, if_neg (Nat.not_lt.mpr hsize), Except.ok.injEq,
        show verify r.encode = .ok r.type from hverify]
      exact ⟨fun h => ⟨h.symm, rfl⟩, fun h => h.1.symm⟩
  · have hverify := verify_of_tooLarge (Nat.lt_of_not_le hsize)
    rw [if_neg hsize]
    refine ⟨hverify, fun bytes => ?_⟩
    rw [tryEncode, if_pos (Nat.lt_of_not_le hsize), hverify]
    exact ⟨nofun, fun h => nomatch h.2⟩

end ReleaseFeed.Record
