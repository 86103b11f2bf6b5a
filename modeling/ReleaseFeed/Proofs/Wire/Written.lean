import ReleaseFeed.Proofs.Wire.Access
import ReleaseFeed.Proofs.Wire.Numbers
import ReleaseFeed.Proofs.Wire.Placement

/-! # What a view of a written table shows

A table that was written at a position is found there again: its view (`viewAt`)
agrees with the buffer (`sits_viewAt`), and every slot of the view shows what the
table holds in it (`Written`): an absent slot is absent, the bytes of a number are at
the slot's position, a text comes back from where the slot refers to, and an inner
table is found there with slots that show what it holds.

The proof is one induction over the table (`written_of_at`).  It carries two cursors,
as the writer does: `p` in the in-place part, from which the remaining slots are
placed, and `q` in what follows the table, from which the remaining texts and
tables are laid out.
-/
namespace ReleaseFeed.Wire
open Bytes

namespace View

/-- A slot is present, at a position inside the in-place part. -/
structure HasSlot (v : View) (slot position size : Nat) : Prop where
  position?_eq : v.position? slot = some position
  four_le : 4 ≤ position
  le_size : position + size ≤ v.size

/-- The slots from `slot` on are where the places say. -/
def Placed (v : View) : (slot : Nat) → List (Option Nat) → Prop
  | _, [] => True
  | slot, here :: places =>
    v.position? slot = here.map (fun at' => at' - v.start) ∧ v.Placed (slot + 1) places

theorem Placed.hasSlot {v : View} {slot here : Nat} {places : List (Option Nat)} (size : Nat)
    (h : v.Placed slot (some here :: places)) (hle : v.start + 4 ≤ here)
    (hend : here + size ≤ v.start + v.size) :
    v.HasSlot slot (here - v.start) size ∧ v.start + (here - v.start) = here :=
  ⟨⟨h.1, by omega, by omega⟩, by omega⟩

/-- The words of an index put the slots in their places. -/
theorem placed_of_at {v : View} {slot : Nat} {places : List (Option Nat)} (hv : v.Sits)
    (h : At v.buffer (v.index + 4 + 2 * slot) (join (places.map (Table.indexWord v.start))))
    (hslots : slot + places.length ≤ v.slots)
    (hplaces : ∀ here, some here ∈ places → v.start < here ∧ here < v.start + 2 ^ 16) :
    v.Placed slot places := by
  induction places generalizing slot with
  | nil => trivial
  | cons here places ih =>
    rw [List.map_cons, join_cons] at h
    rw [List.length_cons] at hslots
    refine ⟨?_, ih ?_ (by omega) fun at' hat => hplaces at' (List.mem_cons_of_mem _ hat)⟩
    · rw [hv.position?_eq]
      cases here with
      | none =>
        have hzero : valueAt v.buffer 2 (v.index + 4 + 2 * slot) = 0 :=
          h.left.valueAt_word (by decide)
        rw [if_neg fun hs => hs.2 hzero, Option.map_none]
      | some here =>
        -- no slot is placed where the table starts, so no word of a present slot is 0
        obtain ⟨hlt, hlt'⟩ := hplaces here List.mem_cons_self
        have hvalue : valueAt v.buffer 2 (v.index + 4 + 2 * slot) = here - v.start :=
          h.left.valueAt_word (by omega)
        rw [hvalue, if_pos ⟨by omega, by omega⟩, Option.map_some]
    · have hright := h.right
      rwa [Table.size_indexWord, Nat.add_assoc, ← Nat.mul_succ] at hright

end View

namespace Table

/-- The view of a table whose index was written at `pos`. -/
def viewAt (b : ByteArray) (pos : Nat) (t : Table) : View where
  buffer := b
  start := t.start pos
  index := pos
  slots := t.length
  size := t.stop pos - t.start pos

theorem stop_le_viewAt (b : ByteArray) (pos : Nat) (t : Table) :
    t.stop pos ≤ (t.viewAt b pos).start + (t.viewAt b pos).size := by
  have hstop := t.le_stop pos
  dsimp only [viewAt]
  omega

/-- The slots of a view from `slot` on show what the table holds; what they refer to is
laid out from `q` on. -/
def Written : Table → View → (slot q : Nat) → Prop
  | done, _, _, _ => True
  | absent rest, v, slot, q => v.position? slot = none ∧ rest.Written v (slot + 1) q
  | scalar s rest, v, slot, q =>
    (∃ position, v.HasSlot slot position s.kind.size ∧
      At v.buffer (v.start + position) s.bytes) ∧ rest.Written v (slot + 1) q
  | text s rest, v, slot, q =>
    (∃ position, v.HasSlot slot position referenceSize ∧
      View.textTarget v.buffer (v.start + position) = q ∧
      View.textFrom v.buffer (v.start + position) = .ok s) ∧
      rest.Written v (slot + 1) (q + (textBytes s).size)
  | child t rest, v, slot, q =>
    (∃ position, v.HasSlot slot position referenceSize ∧
      View.childFrom v.buffer (v.start + position) = .ok (t.viewAt v.buffer q) ∧
      t.Written (t.viewAt v.buffer q) 0 (t.outlineStart q)) ∧
      rest.Written v (slot + 1) (q + (t.write q).size)

variable {b : ByteArray} {pos : Nat} {t : Table}

/-- A written table agrees with its buffer. -/
theorem sits_viewAt {outline : List Nat × List ByteArray} (h : Assembled b pos t outline)
    (hindex : t.indexSize < 2 ^ 16) (hsize : t.stop pos - t.start pos < 2 ^ 16) :
    (t.viewAt b pos).Sits := by
  have hstart := t.le_start pos
  have hstart' := t.start_lt pos
  have hstop := t.le_stop pos
  have hindexEnd := h.index.le_size
  have hinPlaceEnd := h.inPlace.le_size
  have hplace :
      t.start pos + 4 + (join (inPlace (t.start pos + 4) outline.1 t)).size = t.stop pos :=
    size_inPlace ..
  rw [size_join_indexWord, length_place] at hindexEnd
  have hback : valueAt b 4 (t.start pos) = t.start pos - pos := h.back.valueAt_word (by omega)
  have hslots : valueAt b 2 pos = t.indexSize := h.indexSize.valueAt_word hindex
  have hsizeAt : valueAt b 2 (pos + 2) = t.stop pos - t.start pos := h.size.valueAt_word hsize
  refine ⟨?_, hslots, hsizeAt, hindexEnd, ?_, ?_⟩ <;> dsimp only [viewAt]
  · rw [hback, View.indexOf, if_pos (by omega), if_pos (by omega), Nat.sub_sub_self (by omega)]
  · omega
  · omega

/-- The slots of a written table are where they were placed. -/
theorem placed_viewAt {outline : List Nat × List ByteArray} (h : Assembled b pos t outline)
    (hindex : t.indexSize < 2 ^ 16) (hsize : t.stop pos - t.start pos < 2 ^ 16) :
    (t.viewAt b pos).Placed 0 (place (t.start pos + 4) t).1 := by
  refine View.placed_of_at (sits_viewAt h hindex hsize) h.index ?_ fun here hhere => ?_
  · rw [length_place, Nat.zero_add]
    exact Nat.le_refl _
  · obtain ⟨hle, hlt⟩ := mem_place hhere
    change here < t.stop pos at hlt
    exact ⟨by dsimp only [viewAt]; omega, by dsimp only [viewAt]; omega⟩

/-- A text that was written is found again. -/
theorem textFrom_of_at {here q : Nat} {s : String} (hreference : At b here (word 4 (q - here)))
    (htext : At b q (textBytes s)) (hle : here ≤ q) (hnear : q - here < 2 ^ 32)
    (hcount : s.toUTF8.size < 2 ^ 32) :
    View.textTarget b here = q ∧ View.textFrom b here = .ok s := by
  have hend := hreference.le_size
  rw [size_word] at hend
  simp only [textBytes, join_cons] at htext
  have hbytes := htext.right.left
  rw [size_word] at hbytes
  have hcountAt : valueAt b 4 q = s.toUTF8.size := htext.left.valueAt_word hcount
  have htarget : View.textTarget b here = q := by
    rw [View.textTarget, hreference.valueAt_word hnear]
    omega
  refine ⟨htarget, View.textFrom_eq_ok_iff.mpr ⟨hend, ?_, ?_⟩⟩
  · rw [View.textStop, htarget, hcountAt]
    exact hbytes.le_size
  · rw [View.textRange, View.textStop, htarget, hcountAt]
    exact hbytes.extract_eq

/-- A table that was written is found again. -/
theorem childFrom_of_at {here q : Nat} {outline : List Nat × List ByteArray}
    (hreference : At b here (word 4 (t.start q - here))) (h : Assembled b q t outline)
    (hlt : here < t.start q) (hnear : t.start q - here < 2 ^ 32)
    (hindex : t.indexSize < 2 ^ 16) (hsize : t.stop q - t.start q < 2 ^ 16) :
    View.childFrom b here = .ok (t.viewAt b q) := by
  have hend := hreference.le_size
  rw [size_word] at hend
  have hvalue : valueAt b 4 here = t.start q - here := hreference.valueAt_word hnear
  rw [View.childFrom_eq_ok_iff, hvalue, Nat.add_sub_cancel' (Nat.le_of_lt hlt)]
  exact ⟨hend, by omega, (sits_viewAt h hindex hsize).find_eq⟩

theorem written_of_at {v : View} {slot p q : Nat} (hnarrow : t.NarrowBelow q)
    (hnear : t.Near p q) (hbrief : t.Brief) (hp : v.start + 4 ≤ p) (hstop : (place p t).2 ≤ v.start + v.size)
    (hq : (place p t).2 ≤ q) (hplaces : v.Placed slot (place p t).1)
    (hin : At v.buffer p (join (inPlace p (outline q t).1 t)))
    (hout : At v.buffer q (join (outline q t).2)) : t.Written v slot q := by
  -- `hstop` keeps every later slot in the in-place part, and `hq` every reference forward
  induction t generalizing v slot p q with
  | done => trivial
  | absent rest ih => exact ⟨hplaces.1, ih hnarrow hnear hbrief hp hstop hq hplaces.2 hin hout⟩
  | scalar s rest ih =>
    have halign := le_alignUp (n := p) s.kind.size_pos
    have hle := le_place (alignUp p s.kind.size + s.kind.size) rest
    simp only [place] at hstop hq hplaces
    simp only [inPlace, join_cons] at hin
    have hbytes := hin.right.left
    have hrest := hin.right.right
    simp only [size_zeros, Scalar.size_bytes, Nat.add_sub_cancel' halign] at hbytes hrest
    obtain ⟨hslot, hhere⟩ := hplaces.hasSlot s.kind.size (by omega) (by omega)
    refine ⟨⟨_, hslot, ?_⟩, ih hnarrow hnear hbrief (by omega) hstop hq hplaces.2 hrest hout⟩
    rwa [hhere]
  | text s rest ih =>
    have halign : p ≤ alignUp p referenceSize := le_alignUp (by decide)
    have hle := le_place (alignUp p referenceSize + referenceSize) rest
    simp only [place] at hstop hq hplaces
    simp only [outline, inPlace, join_cons, List.headD_cons, List.tail_cons] at hin hout
    have hreference := hin.right.left
    have hrest := hin.right.right
    simp only [size_zeros, size_word, Nat.add_sub_cancel' halign] at hreference hrest
    obtain ⟨hslot, hhere⟩ := hplaces.hasSlot referenceSize (by omega) (by omega)
    obtain ⟨hdistance, hnear'⟩ := hnear
    obtain ⟨hcount, hbrief'⟩ := hbrief
    refine ⟨⟨_, hslot, ?_⟩,
      ih hnarrow hnear' hbrief' (by omega) hstop (by omega) hplaces.2 hrest hout.right⟩
    rw [hhere]
    exact textFrom_of_at hreference hout.left (by omega) hdistance hcount
  | child t rest iht ih =>
    have halign : p ≤ alignUp p referenceSize := le_alignUp (by decide)
    have hle := le_place (alignUp p referenceSize + referenceSize) rest
    have hstart := t.le_start q
    simp only [place] at hstop hq hplaces
    simp only [outline, inPlace, join_cons, List.headD_cons, List.tail_cons] at hin hout
    have hreference := hin.right.left
    have hrest := hin.right.right
    simp only [size_zeros, size_word, Nat.add_sub_cancel' halign] at hreference hrest
    obtain ⟨hslot, hhere⟩ := hplaces.hasSlot referenceSize (by omega) (by omega)
    obtain ⟨⟨hdistance, hnearInner⟩, hnear'⟩ := hnear
    obtain ⟨hbriefInner, hbrief'⟩ := hbrief
    obtain ⟨⟨hindex, hsize, hinner⟩, hnarrow'⟩ := hnarrow
    -- both cursors start anew in the inner table, and here go on behind it
    have hassembled := assembled hout.left
    refine ⟨⟨_, hslot, ?_, ?_⟩,
      ih hnarrow' hnear' hbrief' (by omega) hstop (by omega) hplaces.2 hrest hout.right⟩
    · rw [hhere]
      have hlt : alignUp p referenceSize < t.start q := by
        simp only [referenceSize] at *
        omega
      exact childFrom_of_at hreference hassembled hlt hdistance hindex hsize
    · exact iht hinner hnearInner hbriefInner (Nat.le_refl _) (stop_le_viewAt _ q t)
        (t.le_outlineStart q) (placed_viewAt hassembled hindex hsize) hassembled.inPlace hassembled.outline

/-- A written table is found again, and its view shows what it holds. -/
theorem written_viewAt (h : At b pos (t.write pos)) (hnarrow : t.Narrow pos)
    (hnear : t.Near (t.start pos + 4) (t.outlineStart pos)) (hbrief : t.Brief) :
    (t.viewAt b pos).Sits ∧ t.Written (t.viewAt b pos) 0 (t.outlineStart pos) := by
  have hassembled := assembled h
  exact ⟨sits_viewAt hassembled hnarrow.indexSize_lt hnarrow.size_lt,
    written_of_at hnarrow.below hnear hbrief (Nat.le_refl _) (stop_le_viewAt b pos t)
      (t.le_outlineStart pos) (placed_viewAt hassembled hnarrow.indexSize_lt hnarrow.size_lt)
      hassembled.inPlace hassembled.outline⟩

end Table

end ReleaseFeed.Wire
