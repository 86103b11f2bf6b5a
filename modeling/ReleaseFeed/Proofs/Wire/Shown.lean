import ReleaseFeed.Proofs.Wire.RoundTrip

/-! # What is written is what is read

A writer appends a table to whatever the buffer holds already, and tells where the
in-place part begins.  A reader that starts there finds a view that shows the table
(`View.Shows`): it has a slot for every slot of the table, an absent slot has no
position, a number or a text that is looked up is the one that was put there, and a
table that is looked up is shown by its view in turn.

`Written` says more of a view, and says it of the cursors of the writer: where the
bytes of each slot are.  Here the cursors are forgotten (`Table.Written.showsSlot`), by
induction over the table, and what remains is said through the readers alone.

The writer does not look whether a byte count fits the 4 bytes that it has.  A text of
2 ^ 32 bytes is written with the count 0, and read back empty (`vast_lost`).
-/
namespace ReleaseFeed.Wire
open Bytes

mutual

/-- A view shows a table: it has the slots of the table, and each shows what the table
holds in it. -/
inductive View.Shows : View → Table → Prop where
  | intro {v : View} {t : Table} (slots_eq : v.slots = t.length)
      (slot : ∀ slot, v.ShowsSlot slot (t.get? slot)) : v.Shows t

/-- What the readers give for a slot, by what a table holds in it. -/
inductive View.ShowsSlot : View → (slot : Nat) → Option Field → Prop where
  | absent {v : View} {slot : Nat} (position : v.position? slot = none) : v.ShowsSlot slot none
  | scalar {v : View} {slot : Nat} {s : Scalar} (position : (v.position? slot).isSome)
      (read : v.scalar? s.kind slot = some s) : v.ShowsSlot slot (some (.scalar s))
  | text {v : View} {slot : Nat} {s : String} (position : (v.position? slot).isSome)
      (read : v.text? slot = .ok (some s)) : v.ShowsSlot slot (some (.text s))
  | child {v w : View} {slot : Nat} {u : Table} (position : (v.position? slot).isSome)
      (read : v.child? slot = .ok (some w)) (shows : w.Shows u) :
      v.ShowsSlot slot (some (.child u))

end

namespace Table

/-- Behind the last slot nothing is shown, because nothing is held. -/
theorem shows_of_slots {t : Table} {v : View} (hslots : v.slots = t.length)
    (h : ∀ slot, slot < t.length → v.ShowsSlot slot (t.get? slot)) : v.Shows t := by
  refine ⟨hslots, fun slot => ?_⟩
  rcases Nat.lt_or_ge slot t.length with hlt | hge
  · exact h slot hlt
  · rw [get?_of_length_le hge]
    exact .absent (View.position?_of_le (by rwa [hslots]))

/-- Slots are shown when the first one is and those behind it are. -/
theorem showsSlot_cons {t rest : Table} {v : View} {slot : Nat}
    (hlength : t.length = rest.length + 1) (hget : ∀ i, t.get? (i + 1) = rest.get? i)
    (first : v.ShowsSlot slot (t.get? 0))
    (behind : ∀ i, i < rest.length → v.ShowsSlot (slot + 1 + i) (rest.get? i))
    (i : Nat) (hi : i < t.length) : v.ShowsSlot (slot + i) (t.get? i) := by
  cases i with
  | zero => exact first
  | succ i =>
    rw [hget, ← Nat.add_assoc, Nat.add_right_comm]
    exact behind i (by omega)

/-- A view of a written table shows what the table holds, slot by slot. -/
theorem Written.showsSlot {t : Table} {v : View} {slot q : Nat} (h : t.Written v slot q)
    (hv : v.Sits) : ∀ i, i < t.length → v.ShowsSlot (slot + i) (t.get? i) := by
  induction t generalizing v slot q with
  | done =>
    intro i hi
    exact absurd hi (Nat.not_lt_zero i)
  | absent rest ih =>
    obtain ⟨hposition, hrest⟩ := h
    exact showsSlot_cons rfl (fun _ => rfl) (.absent hposition) (ih hrest hv)
  | scalar s rest ih =>
    obtain ⟨⟨position, hslot, hat⟩, hrest⟩ := h
    refine showsSlot_cons rfl (fun _ => rfl) ?_ (ih hrest hv)
    exact .scalar (Option.isSome_of_eq_some hslot.position?_eq) (View.scalar?_of_at hv hslot hat)
  | text s rest ih =>
    obtain ⟨⟨position, hslot, -, htext⟩, hrest⟩ := h
    refine showsSlot_cons rfl (fun _ => rfl) ?_ (ih hrest hv)
    refine .text (Option.isSome_of_eq_some hslot.position?_eq) ?_
    rw [View.text?_of_some hslot.position?_eq, htext]
    rfl
  | child u rest ihInner ih =>
    obtain ⟨⟨position, hslot, hchild, hinner⟩, hrest⟩ := h
    refine showsSlot_cons rfl (fun _ => rfl) ?_ (ih hrest hv)
    -- the inner table starts anew at its own first slot
    have hshows : (u.viewAt v.buffer q).Shows u := by
      refine shows_of_slots rfl fun i hi => ?_
      have hslot' := ihInner hinner (View.sits_of_childFrom hchild).1 i hi
      rwa [Nat.zero_add] at hslot'
    refine .child (Option.isSome_of_eq_some hslot.position?_eq) ?_ hshows
    rw [View.child?_of_some hslot.position?_eq, hchild]
    rfl

/-- **A table that was written is read back at every depth.**  The bytes that the buffer
held before stay as they are; where the writer says that the table begins, a view is
found, and it shows the table.  Sizes have to fit the 2 bytes, and distances and byte
counts the 4 bytes, that they are written with. -/
theorem find_write (p : ByteArray) (t : Table) (hnarrow : t.Narrow p.size)
    (hnear : t.Near (t.start p.size + 4) (t.outlineStart p.size)) (hbrief : t.Brief) :
    (t.appendTo p).1.extract 0 p.size = p ∧
      ∃ v, View.find (t.appendTo p).1 (t.appendTo p).2 = .ok v ∧ v.Shows t := by
  rw [appendTo_eq]
  have hat : At (p ++ t.write p.size) p.size (t.write p.size) := At.of_append ..
  obtain ⟨hsits, hwritten⟩ := written_viewAt hat hnarrow hnear hbrief
  refine ⟨ByteArray.extract_append_eq_left rfl, _, hsits.find_eq, ?_⟩
  refine shows_of_slots rfl fun slot hslot => ?_
  have hshown := hwritten.showsSlot hsits slot hslot
  rwa [Nat.zero_add] at hshown

/-- A table with an absent slot, a text, and a table inside a table. -/
def nested : Table :=
  .scalar (.u8 7) (.absent (.text "né" (.child
    (.text "" (.absent (.child (.scalar (.i16 (-2)) (.scalar (.u64 9) .done)) .done))) .done)))

theorem find_write_nested :
    nested.Narrow 3 ∧ nested.Near (nested.start 3 + 4) (nested.outlineStart 3) ∧ nested.Brief ∧
      ((nested.appendTo ⟨#[1, 2, 3]⟩).1.extract 0 3 = ⟨#[1, 2, 3]⟩ ∧
        ∃ v, View.find (nested.appendTo ⟨#[1, 2, 3]⟩).1 (nested.appendTo ⟨#[1, 2, 3]⟩).2 = .ok v ∧
          v.Shows nested) :=
  have hnarrow : nested.Narrow 3 := narrow_of_widest (by decide) (by decide)
  have hend : nested.outlineStart 3 + (join (outline (nested.outlineStart 3) nested).2).size ≤
      2 ^ 32 := by decide +kernel
  ⟨hnarrow, near_of_le hend, brief_of_le hend,
    find_write ⟨#[1, 2, 3]⟩ nested hnarrow (near_of_le hend) (brief_of_le hend)⟩

/-! ## A text that is too long -/

/-- A byte count of 2 ^ 32 is written as 0, so a text of that size is found empty. -/
theorem textFrom_of_overflow {b : ByteArray} {here q : Nat} {s : String}
    (hreference : At b here (word 4 (q - here))) (htext : At b q (textBytes s)) (hle : here ≤ q)
    (hnear : q - here < 2 ^ 32) (hcount : s.toUTF8.size = 2 ^ 32) :
    View.textFrom b here = .ok "" := by
  have hend := hreference.le_size
  have hword : word 4 s.toUTF8.size = word 4 0 := by
    rw [hcount]
    rfl
  simp only [textBytes, join_cons, hword] at htext
  have hcountEnd := htext.left.le_size
  have hcountAt : valueAt b 4 q = 0 := htext.left.valueAt_word (by decide)
  rw [size_word] at hend hcountEnd
  have htarget : View.textTarget b here = q := by
    rw [View.textTarget, hreference.valueAt_word hnear]
    omega
  refine View.textFrom_eq_ok_iff.mpr ⟨hend, ?_, ?_⟩
  · rw [View.textStop, htarget, hcountAt]
    exact hcountEnd
  · rw [View.textRange, View.textStop, htarget, hcountAt, Nat.add_zero]
    exact ByteArray.extract_same

/-- A table of one text is narrow, and the distance to the text is small, however long it is. -/
theorem narrow_single (pos : Nat) (s : String) : (text s done).Narrow pos :=
  narrow_of_widest (show 1 ≤ 4000 by decide) (show 0 ≤ 4000 by decide)

theorem near_single (pos : Nat) (s : String) :
    (text s done).Near ((text s done).start pos + 4) ((text s done).outlineStart pos) := by
  have hstop : (text s done).stop pos ≤ (text s done).start pos + 4 + 15 * 1 := place_le _ _
  have hout := (text s done).outlineStart_lt pos
  have halign : (text s done).start pos + 4 ≤ alignUp ((text s done).start pos + 4) referenceSize :=
    le_alignUp (by decide)
  exact ⟨by omega, trivial⟩

/-- Behind any buffer, a text of 2 ^ 32 bytes that is alone in a table is found empty. -/
theorem text?_of_overflow (p : ByteArray) {s : String} (hcount : s.toUTF8.size = 2 ^ 32) :
    ∃ v, View.find ((text s done).appendTo p).1 ((text s done).appendTo p).2 = .ok v ∧
      v.text? 0 = .ok (some "") := by
  rw [appendTo_eq]
  have hassembled := assembled (At.of_append p ((text s done).write p.size))
  have hnarrow := narrow_single p.size s
  have hsits := sits_viewAt hassembled hnarrow.indexSize_lt hnarrow.size_lt
  have hplaced := placed_viewAt hassembled hnarrow.indexSize_lt hnarrow.size_lt
  have halign : (text s done).start p.size + 4 ≤
      alignUp ((text s done).start p.size + 4) referenceSize := le_alignUp (by decide)
  have hstop := stop_le_viewAt (p ++ (text s done).write p.size) p.size (text s done)
  have hend : alignUp ((text s done).start p.size + 4) referenceSize + referenceSize =
      (text s done).stop p.size := rfl
  have hout := (text s done).le_outlineStart p.size
  obtain ⟨hslot, hhere⟩ := View.Placed.hasSlot referenceSize hplaced halign (by omega)
  have hin := hassembled.inPlace
  have htext := hassembled.outline
  simp only [inPlace, outline, join_cons, List.headD_cons] at hin htext
  have hreference := hin.right.left
  rw [size_zeros, Nat.add_sub_cancel' halign] at hreference
  refine ⟨_, hsits.find_eq, ?_⟩
  rw [View.text?_of_some hslot.position?_eq, hhere]
  exact congrArg (some <$> ·)
    (textFrom_of_overflow hreference htext.left (by omega) (near_single p.size s).1 hcount)

/-- So no view shows such a table. -/
theorem lost_of_overflow (p : ByteArray) {s : String} (hcount : s.toUTF8.size = 2 ^ 32) :
    ∃ v, View.find ((text s done).appendTo p).1 ((text s done).appendTo p).2 = .ok v ∧
      v.text? 0 = .ok (some "") ∧ ¬ v.Shows (text s done) := by
  obtain ⟨v, hfind, htext⟩ := text?_of_overflow p hcount
  refine ⟨v, hfind, htext, ?_⟩
  rintro ⟨-, hslot⟩
  cases hslot 0 with
  | text _ hread =>
    rw [htext] at hread
    cases hread
    cases hcount

theorem size_replicate (n : Nat) : (String.ofList (List.replicate n 'a')).toUTF8.size = n := by
  have hbytes : (String.ofList (List.replicate n 'a')).utf8ByteSize = n := by
    rw [String.utf8ByteSize_ofList]
    induction n with
    | zero => rfl
    | succ n ih =>
      rw [List.replicate_succ, String.utf8Len_cons, ih]
      rfl
  exact hbytes

/-- A text of 2 ^ 32 bytes. -/
def vast : String :=
  String.ofList (List.replicate (2 ^ 32) 'a')

/-- All sizes and distances of its table fit the words that they are written with, but the text is
lost. -/
theorem vast_lost :
    (text vast done).Narrow 0 ∧
      (text vast done).Near ((text vast done).start 0 + 4) ((text vast done).outlineStart 0) ∧
      ∃ v, View.find ((text vast done).appendTo .empty).1 ((text vast done).appendTo .empty).2 =
          .ok v ∧ v.text? 0 = .ok (some "") ∧ ¬ v.Shows (text vast done) :=
  ⟨narrow_single 0 vast, near_single 0 vast, lost_of_overflow .empty (size_replicate (2 ^ 32))⟩

end Table

end ReleaseFeed.Wire
