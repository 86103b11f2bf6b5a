import ReleaseFeed.Proofs.Wire.Checked

/-! # Bytes appended to a message

A reader looks at no byte that it has not found to lie inside the buffer, so bytes
that are appended are not looked at either.  `View.extend` is the same table in
the longer buffer.  A table that agrees with its buffer agrees with the longer
one (`Sits.extend`), every access that succeeded succeeds with the same result
(`textFrom_append`, `childFrom_append`), and so a table that is sound within the
first bytes stays so, and reads the same (`Sound.extend`, `read_extend`).

For a message that is accepted this gives the same record with any bytes after
it, up to the size limit (`decode_append`).
-/
namespace ReleaseFeed.Wire
open Bytes

namespace View

/-- The same table in a buffer with more bytes. -/
def extend (v : View) (x : ByteArray) : View :=
  { v with buffer := v.buffer ++ x }

variable {v : View} {slot : Nat} (x : ByteArray)

@[simp] theorem extend_buffer : (v.extend x).buffer = v.buffer ++ x := rfl

@[simp] theorem extend_start : (v.extend x).start = v.start := rfl

@[simp] theorem extend_index : (v.extend x).index = v.index := rfl

@[simp] theorem extend_slots : (v.extend x).slots = v.slots := rfl

@[simp] theorem extend_size : (v.extend x).size = v.size := rfl

theorem size_le_append (b : ByteArray) : b.size ≤ (b ++ x).size := by
  rw [ByteArray.size_append]
  exact Nat.le_add_right _ _

theorem Sits.extend (h : v.Sits) : (v.extend x).Sits := by
  have hindex := h.index_le
  have hfour := h.four_le
  have hinPlace := h.inPlace_le
  have hsize := size_le_append x v.buffer
  refine ⟨?_, ?_, ?_, Nat.le_trans hindex hsize, hfour, Nat.le_trans hinPlace hsize⟩ <;>
    dsimp only [View.extend]
  · rw [valueAt_append _ _ (by omega)]
    exact h.index
  · rw [valueAt_append _ _ (by omega)]
    exact h.slots
  · rw [valueAt_append _ _ (by omega)]
    exact h.size

theorem find_append {b : ByteArray} {start : Nat} (h : find b start = .ok v) :
    find (b ++ x) start = .ok (v.extend x) := by
  obtain ⟨hsits, rfl, rfl⟩ := find_eq_ok_iff.mp h
  exact (hsits.extend x).find_eq

/-! ## Slots -/

theorem position?_extend (h : v.Sits) (slot : Nat) :
    (v.extend x).position? slot = v.position? slot := by
  have hindex := h.index_le
  have hsize := size_le_append x v.buffer
  by_cases hslot : slot < v.slots
  · have hword : wordAt (v.buffer ++ x) 2 (v.index + 4 + 2 * slot) =
        wordAt v.buffer 2 (v.index + 4 + 2 * slot) := by
      rw [wordAt_eq (by omega), wordAt_eq (by omega), valueAt_append _ _ (by omega)]
    simp only [position?, extend_slots, extend_buffer, extend_index, if_pos hslot, hword]
  · simp only [position?, extend_slots, hslot, reduceIte]

theorem SlotInside.extend {size : Nat} (h : v.Sits) (hinside : v.SlotInside slot size) :
    (v.extend x).SlotInside slot size := by
  intro position hposition
  rw [position?_extend x h] at hposition
  exact hinside position hposition

theorem textStop_append {b : ByteArray} {pos : Nat} (h : textStop b pos ≤ b.size) :
    textStop (b ++ x) pos = textStop b pos ∧ textRange (b ++ x) pos = textRange b pos := by
  have htarget : textTarget (b ++ x) pos = textTarget b pos := by
    unfold textTarget
    rw [valueAt_append _ _ (by unfold textStop textTarget at h; omega)]
  have hstop : textStop (b ++ x) pos = textStop b pos := by
    unfold textStop
    rw [htarget, valueAt_append _ _ (by unfold textStop at h; omega)]
  refine ⟨hstop, ?_⟩
  rw [textRange, textRange, htarget, hstop, extract_append_left _ _ h]

theorem textFrom_append {b : ByteArray} {pos : Nat} {s : String} (h : textFrom b pos = .ok s) :
    textFrom (b ++ x) pos = .ok s := by
  obtain ⟨hpos, hstop, hrange⟩ := textFrom_eq_ok_iff.mp h
  obtain ⟨hstop', hrange'⟩ := textStop_append x hstop
  have hsize := size_le_append x b
  rw [textFrom_eq_ok_iff, hstop', hrange']
  exact ⟨Nat.le_trans hpos hsize, Nat.le_trans hstop hsize, hrange⟩

theorem childFrom_append {b : ByteArray} {pos : Nat} (h : childFrom b pos = .ok v) :
    childFrom (b ++ x) pos = .ok (v.extend x) := by
  obtain ⟨hpos, hne, hfind⟩ := childFrom_eq_ok_iff.mp h
  rw [childFrom_eq_ok_iff, valueAt_append _ _ hpos]
  exact ⟨Nat.le_trans hpos (size_le_append x b), hne, find_append x hfind⟩

/-! ## Whole layouts -/

/-- A table that is sound within the buffer is so, within the same bytes, in the
longer buffer. -/
theorem Sound.extend {n : Nat} {layout : Layout} (hv : v.Sits) (hn : n ≤ v.buffer.size)
    (h : Sound n layout v slot) : Sound n layout (v.extend x) slot := by
  induction layout generalizing v slot with
  | done => trivial
  | scalar kind rest ih => exact ⟨h.1.extend x hv, ih hv hn h.2⟩
  | text rest ih =>
    obtain ⟨⟨hinside, htext⟩, hrest⟩ := h
    refine ⟨⟨hinside.extend x hv, fun position hposition => ?_⟩, ih hv hn hrest⟩
    rw [position?_extend x hv] at hposition
    obtain ⟨hstop, hvalid⟩ := htext position hposition
    obtain ⟨hstop', hrange'⟩ := textStop_append x (Nat.le_trans hstop hn)
    dsimp only [extend_buffer, extend_start]
    rw [hstop', hrange']
    exact ⟨hstop, hvalid⟩
  | table inner rest ihInner ih =>
    obtain ⟨⟨hinside, htable⟩, hrest⟩ := h
    refine ⟨⟨hinside.extend x hv, fun position hposition => ?_⟩, ih hv hn hrest⟩
    rw [position?_extend x hv] at hposition
    obtain ⟨child, hchild, hbelow, hsound⟩ := htable position hposition
    obtain ⟨hsits, hbuffer⟩ := sits_of_childFrom hchild
    exact ⟨child.extend x, childFrom_append x hchild, ⟨hbelow.index_le, hbelow.inPlace_le⟩,
      ihInner hsits (by rwa [hbuffer]) hsound⟩

/-- A number that lies inside the buffer is the same in the longer buffer. -/
theorem scalar?_extend {kind : ScalarKind} (hv : v.Sits) (h : v.SlotInside slot kind.size) :
    (v.extend x).scalar? kind slot = v.scalar? kind slot := by
  rw [scalar?, scalar?, position?_extend x hv]
  cases hposition : v.position? slot with
  | none => rfl
  | some position =>
    have hle := h.add_le hv.below hposition
    dsimp only [extend, Option.bind_eq_bind, Option.bind_some]
    rw [word?_eq_some hle, word?_eq_some (Nat.le_trans hle (size_le_append x _)),
      valueAt_append _ _ hle]

theorem child?_extend {child : Option View} (hv : v.Sits) (h : v.child? slot = .ok child) :
    (v.extend x).child? slot = .ok (child.map fun w => w.extend x) := by
  cases hposition : v.position? slot with
  | none =>
    rw [child?_of_none hposition] at h
    cases h
    exact child?_of_none ((position?_extend x hv slot).trans hposition)
  | some position =>
    rw [child?_of_some hposition, map_eq_ok] at h
    obtain ⟨w, hw, rfl⟩ := h
    rw [child?_of_some ((position?_extend x hv slot).trans hposition), map_eq_ok]
    exact ⟨w.extend x, childFrom_append x hw, rfl⟩

/-- A sound table reads the same in the longer buffer. -/
theorem read_extend {n : Nat} {layout : Layout} {t : Table} (hv : v.Sits)
    (h : Sound n layout v slot) (hread : read layout v slot = .ok t) :
    read layout (v.extend x) slot = .ok t := by
  induction layout generalizing v slot t with
  | done => exact hread
  | scalar kind rest ih =>
    obtain ⟨hinside, hrest⟩ := h
    rw [read_scalar_eq_ok_iff (hv.extend x).below (hinside.extend x hv), position?_extend x hv]
    obtain ⟨t', hread', hnone | ⟨position, hposition, rfl⟩⟩ :=
      (read_scalar_eq_ok_iff hv.below hinside).mp hread
    · exact ⟨t', ih hv hrest hread', .inl hnone⟩
    · refine ⟨t', ih hv hrest hread', .inr ⟨position, hposition, ?_⟩⟩
      rw [extend_buffer, extend_start, valueAt_append _ _ (hinside.add_le hv.below hposition)]
  | text rest ih =>
    rw [read_text_eq_ok_iff, position?_extend x hv]
    obtain ⟨t', hread', hnone | ⟨position, s, hposition, hs, rfl⟩⟩ := read_text_eq_ok_iff.mp hread
    · exact ⟨t', ih hv h.2 hread', .inl hnone⟩
    · exact ⟨t', ih hv h.2 hread', .inr ⟨position, s, hposition, textFrom_append x hs, rfl⟩⟩
  | table inner rest ihInner ih =>
    obtain ⟨⟨-, htable⟩, hrest⟩ := h
    rw [read_table_eq_ok_iff, position?_extend x hv]
    obtain ⟨t', hread', hnone | ⟨position, child, u, hposition, hchild, hu, rfl⟩⟩ :=
      read_table_eq_ok_iff.mp hread
    · exact ⟨t', ih hv hrest hread', .inl hnone⟩
    · -- the table that is read is the one that was checked
      obtain ⟨w, hw, -, hsound⟩ := htable position hposition
      cases hw.symm.trans hchild
      exact ⟨t', ih hv hrest hread', .inr ⟨position, child.extend x, u, hposition,
        childFrom_append x hchild, ihInner (sits_of_childFrom hchild).1 hsound hu, rfl⟩⟩

end View

/-! ## Whole messages -/

section Messages
variable {b : ByteArray} {root : View} (x : ByteArray)

theorem Envelope.find_append (h : Envelope.find b = .ok root)
    (hx : (b ++ x).size ≤ maxMessageSize) : Envelope.find (b ++ x) = .ok (root.extend x) := by
  obtain ⟨hmin, -, hfour, hfind⟩ := Envelope.find_eq_ok_iff.mp h
  have hword := valueAt_append b x (show 0 + 4 ≤ b.size from Nat.le_trans (by decide) hmin)
  rw [Envelope.find_eq_ok_iff, hword]
  exact ⟨Nat.le_trans hmin (View.size_le_append x b), hx, hfour, View.find_append x hfind⟩

theorem Envelope.typeByte_extend (hroot : root.Sits) (h : root.SlotInside Envelope.typeSlot 1) :
    Envelope.typeByte (root.extend x) = Envelope.typeByte root := by
  rw [typeByte, typeByte, byteAt, byteAt, View.scalar?_extend x hroot h]

theorem Envelope.message_append {message : View} (hroot : root.Sits)
    (h : Envelope.message root = .ok message) :
    Envelope.message (root.extend x) = .ok (message.extend x) := by
  rw [Envelope.message_eq_ok_iff] at h ⊢
  exact View.child?_extend x hroot h

/-- A message that verifies does so with any bytes after it. -/
theorem verify_append {type : RecordType} (h : verify b = .ok type)
    (hx : (b ++ x).size ≤ maxMessageSize) : verify (b ++ x) = .ok type := by
  obtain ⟨root, hroot, hcode, hsound, hsome⟩ := verify_eq_ok_iff.mp h
  obtain ⟨hsits, rfl, -⟩ := View.find_eq_ok_iff.mp (Envelope.find_eq_ok_iff.mp hroot).2.2.2
  refine verify_eq_ok_iff.mpr ⟨root.extend x, Envelope.find_append x hroot hx, ?_, ?_, ?_⟩
  · rw [Envelope.typeByte_extend x hsits hsound.1, hcode]
  -- sound within the first bytes, hence within all of them
  · exact (hsound.extend x hsits (Nat.le_refl _)).mono (View.size_le_append x _)
  · rw [View.position?_extend x hsits]
    exact hsome

end Messages

end ReleaseFeed.Wire

namespace ReleaseFeed.Record
open Wire

/-- A message that is decoded is decoded alike with any bytes after it. -/
theorem decode_append {b : ByteArray} {r : Record} (x : ByteArray) (h : decode b = .ok r)
    (hx : (b ++ x).size ≤ maxMessageSize) : decode (b ++ x) = .ok r := by
  obtain ⟨type, root, message, t, hverify, hroot, hmessage, hread, hr⟩ := decode_eq_ok_iff.mp h
  obtain ⟨root', message', hroot', hmessage', hrootSits, -, hsits, -, -, hsound⟩ :=
    exists_message_of_verify hverify
  cases hroot.symm.trans hroot'
  cases hmessage.symm.trans hmessage'
  exact decode_eq_ok_iff.mpr ⟨type, root.extend x, message.extend x, t, verify_append x hverify hx,
    Envelope.find_append x hroot hx, Envelope.message_append x hrootSits hmessage,
    View.read_extend x hsits hsound hread, hr⟩

end ReleaseFeed.Record
