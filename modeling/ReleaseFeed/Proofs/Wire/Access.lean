import ReleaseFeed.Proofs.Outcome
import ReleaseFeed.Proofs.Text.Utf8
import ReleaseFeed.Proofs.Wire.Words
import ReleaseFeed.Wire.Envelope

/-! # What a successful access has found

A reader of a buffer goes from the envelope to a table, from a table to a slot,
and from a slot to a text or to another table.  Each of these accesses checks
what it is about to look at and fails otherwise.  Here every one of them is
inverted, once: `find_eq_ok_iff`, `textFrom_eq_ok_iff`, `childFrom_eq_ok_iff`,
`Envelope.find_eq_ok_iff` and `Envelope.message_eq_ok_iff` say exactly when it
succeeds and with what result, and mention only numbers that bytes of the buffer
spell (`Bytes.valueAt`).

What a view that was found satisfies is the structure `View.Sits`: the index is
where the reference to it leads, the sizes are the ones that the index gives, and
both the index and the in-place part lie inside the buffer.
-/
namespace ReleaseFeed.Wire
open Bytes

namespace View
variable {b : ByteArray}

/-- A word that lies inside is the number that its bytes spell. -/
theorem wordAt_eq {n pos : Nat} (h : pos + n ≤ b.size) : wordAt b n pos = valueAt b n pos := by
  rw [wordAt, word?_eq_some h, Option.getD_some]

/-! ## Tables -/

/-- A view that agrees with its buffer. -/
structure Sits (v : View) : Prop where
  /-- The in-place part starts with the reference to the index. -/
  index : indexOf v.start (valueAt v.buffer 4 v.start) = .ok v.index
  slots : valueAt v.buffer 2 v.index = 4 + 2 * v.slots
  size : valueAt v.buffer 2 (v.index + 2) = v.size
  index_le : v.index + 4 + 2 * v.slots ≤ v.buffer.size
  four_le : 4 ≤ v.size
  inPlace_le : v.start + v.size ≤ v.buffer.size

theorem find_eq_ok_iff {start : Nat} {v : View} :
    find b start = .ok v ↔ v.Sits ∧ v.buffer = b ∧ v.start = start := by
  simp only [find, guard_eq_ok, bind_eq_ok, pure_eq_ok, Nat.not_lt, not_or, gt_iff_lt,
    Decidable.not_not]
  constructor
  · rintro ⟨hstart, index, hindex, hle, ⟨hfour, heven, hslots⟩, ⟨hsize, hinPlace⟩, rfl⟩
    have hword : wordAt b 2 index = valueAt b 2 index := wordAt_eq (by omega)
    refine ⟨⟨?_, ?_, ?_, ?_, hsize, hinPlace⟩, rfl, rfl⟩ <;> dsimp only
    · rw [← wordAt_eq hstart, hindex]
    · omega
    · exact (wordAt_eq (by omega)).symm
    · omega
  · rintro ⟨⟨hindex, hslots, hsize, hindex_le, hfour, hinPlace⟩, rfl, rfl⟩
    have hword : wordAt v.buffer 2 v.index = 4 + 2 * v.slots := by
      rw [wordAt_eq (by omega), hslots]
    have hsize' : wordAt v.buffer 2 (v.index + 2) = v.size := by
      rw [wordAt_eq (by omega), hsize]
    refine ⟨by omega, v.index, ?_, by omega, by omega, by omega, ?_⟩
    · rw [wordAt_eq (by omega), hindex]
    · obtain ⟨buffer, start, index, slots, size⟩ := v
      dsimp only at hword hsize' ⊢
      rw [hword, hsize', Nat.add_sub_cancel_left, Nat.mul_div_cancel_left _ (by decide)]

theorem Sits.find_eq {v : View} (h : v.Sits) : find v.buffer v.start = .ok v :=
  find_eq_ok_iff.mpr ⟨h, rfl, rfl⟩

/-- Where a slot of a view sits is in the view's index. -/
theorem Sits.position?_eq {v : View} (h : v.Sits) (slot : Nat) :
    v.position? slot =
      if slot < v.slots ∧ valueAt v.buffer 2 (v.index + 4 + 2 * slot) ≠ 0 then
        some (valueAt v.buffer 2 (v.index + 4 + 2 * slot)) else none := by
  have hindex := h.index_le
  by_cases hslot : slot < v.slots
  · rw [position?, if_pos hslot, wordAt_eq (by omega)]
    split
    · next hzero => rw [if_neg (fun hs => hs.2 hzero)]
    · next position hne => rw [if_pos ⟨hslot, hne⟩]
  · rw [position?, if_neg hslot, if_neg (fun hs => hslot hs.1)]

/-! ## Texts -/

/-- Where the text begins that position `pos` refers to: with its byte count. -/
def textTarget (b : ByteArray) (pos : Nat) : Nat :=
  pos + valueAt b 4 pos

/-- Where the bytes of that text end. -/
def textStop (b : ByteArray) (pos : Nat) : Nat :=
  textTarget b pos + 4 + valueAt b 4 (textTarget b pos)

/-- The bytes of that text. -/
def textRange (b : ByteArray) (pos : Nat) : ByteArray :=
  b.extract (textTarget b pos + 4) (textStop b pos)

theorem textFrom_eq_ok_iff {pos : Nat} {s : String} :
    textFrom b pos = .ok s ↔
      pos + 4 ≤ b.size ∧ textStop b pos ≤ b.size ∧ textRange b pos = s.toUTF8 := by
  simp only [textFrom, guard_eq_ok, Nat.not_lt, gt_iff_lt, textRange, textStop, textTarget]
  constructor
  · rintro ⟨hpos, htarget, hstop, h⟩
    rw [wordAt_eq hpos] at htarget hstop h
    rw [wordAt_eq htarget] at hstop h
    split at h
    · next text htext =>
      rw [pure_eq_ok] at h
      exact ⟨hpos, hstop, Text.fromUTF8?_eq_some_iff.mp (h ▸ htext)⟩
    · exact nomatch h
  · rintro ⟨hpos, hstop, hrange⟩
    have htarget : pos + valueAt b 4 pos + 4 ≤ b.size := Nat.le_trans (Nat.le_add_right _ _) hstop
    rw [wordAt_eq hpos, wordAt_eq htarget, Text.fromUTF8?_eq_some_iff.mpr hrange]
    exact ⟨hpos, htarget, hstop, rfl⟩

/-- The bytes of a text that was found where its slot refers to. -/
theorem textStop_eq {pos : Nat} {s : String} (h : textFrom b pos = .ok s) :
    textStop b pos = textTarget b pos + 4 + s.toUTF8.size := by
  obtain ⟨-, hstop, hrange⟩ := textFrom_eq_ok_iff.mp h
  have hsize := congrArg ByteArray.size hrange
  rw [textRange, ByteArray.size_extract, Nat.min_eq_left hstop, textStop] at hsize
  rw [textStop]
  omega

/-! ## Inner tables -/

theorem childFrom_eq_ok_iff {pos : Nat} {v : View} :
    childFrom b pos = .ok v ↔
      pos + 4 ≤ b.size ∧ valueAt b 4 pos ≠ 0 ∧ find b (pos + valueAt b 4 pos) = .ok v := by
  simp only [childFrom, guard_eq_ok, Nat.not_lt, gt_iff_lt]
  constructor
  · rintro ⟨hpos, h⟩
    rw [wordAt_eq hpos] at h
    split at h
    · exact nomatch h
    · next hne => exact ⟨hpos, hne, h⟩
  · rintro ⟨hpos, hne, h⟩
    rw [wordAt_eq hpos]
    refine ⟨hpos, ?_⟩
    split
    · next hzero => exact absurd hzero hne
    · exact h

end View

/-! ## Envelopes -/

/-- A fault of the structure that is turned into a reason to refuse is no success. -/
theorem lift_eq_ok {α : Type} {x : Except Damage α} {a : α} :
    (liftM x : Except Error α) = .ok a ↔ x = .ok a := by
  cases x with
  | error e => exact ⟨nofun, nofun⟩
  | ok a' => exact ⟨fun h => congrArg _ (Except.ok.inj h), fun h => congrArg _ (Except.ok.inj h)⟩

namespace Envelope
variable {b : ByteArray}

theorem find_eq_ok_iff {root : View} :
    find b = .ok root ↔ minMessageSize ≤ b.size ∧ b.size ≤ maxMessageSize ∧
      4 ≤ valueAt b 4 0 ∧ View.find b (valueAt b 4 0) = .ok root := by
  simp only [find, guard_eq_ok, lift_eq_ok, Nat.not_lt, not_or, gt_iff_lt]
  constructor
  · rintro ⟨hmin, hmax, ⟨hfour, hroot⟩, h⟩
    have hword : View.wordAt b 4 0 = valueAt b 4 0 :=
      View.wordAt_eq (Nat.le_trans (by decide) hmin)
    rw [hword] at hfour h
    exact ⟨hmin, hmax, hfour, h⟩
  · rintro ⟨hmin, hmax, hfour, h⟩
    rw [View.wordAt_eq (Nat.le_trans (by decide) hmin)]
    -- a table that was found leaves room for more than its reference to the index
    obtain ⟨hsits, hb, hstart⟩ := View.find_eq_ok_iff.mp h
    have hle := hsits.inPlace_le
    have hsize := hsits.four_le
    rw [hb, hstart] at hle
    exact ⟨hmin, hmax, ⟨hfour, by omega⟩, h⟩

theorem message_eq_ok_iff {root message : View} :
    Envelope.message root = .ok message ↔ root.child? messageSlot = .ok (some message) := by
  rw [Envelope.message, bind_eq_ok]
  simp only [lift_eq_ok]
  constructor
  · rintro ⟨child, hchild, h⟩
    cases child with
    | none => exact nomatch h
    | some view => rw [pure_eq_ok] at h; rw [hchild, h]
  · intro h
    exact ⟨some message, h, rfl⟩

end Envelope

end ReleaseFeed.Wire
