import ReleaseFeed.Proofs.Wire.Words
import ReleaseFeed.Wire.Table

/-! # Where the parts of a written table stand

A table is assembled from seven parts, then from what its slots refer to.  The
sizes of the parts add up to the positions that the writer computes for them
(`size_inPlace`, `size_assemble`), so each part stands in the finished buffer where
its position says (`Assembled`).  Nothing here depends on what the buffer holds
before and after the table.

Positions are computed without a bound, but they are written as words: `Narrow`
says that the index and the in-place part of a table, and of each table inside it,
are small enough for 2 bytes, `Near` that each distance is small enough for 4, and
`Brief` that each byte count of a text is.  A table that ends below 2 ^ 32 is near and
brief (`near_of_le`, `brief_of_le`); one with few slots at every level is narrow
(`narrow_of_widest`).
-/
namespace ReleaseFeed.Bytes

theorem alignUp_lt {n size : Nat} (h : 0 < size) : alignUp n size < n + size := by
  have hle := Nat.div_mul_le_self (n + (size - 1)) size
  unfold alignUp
  omega

end ReleaseFeed.Bytes

namespace ReleaseFeed.Wire
open Bytes

theorem ScalarKind.size_pos (kind : ScalarKind) : 0 < kind.size := by
  cases kind <;> decide

theorem ScalarKind.size_le (kind : ScalarKind) : kind.size ≤ 8 := by
  cases kind <;> decide

namespace Table

/-! ## The in-place part -/

theorem length_place (pos : Nat) (t : Table) : (place pos t).1.length = t.length := by
  induction t generalizing pos with
  | done => rfl
  | absent rest ih | scalar _ rest ih | text _ rest ih | child _ rest _ ih =>
    simp [place, length, ih]

theorem le_place (pos : Nat) (t : Table) : pos ≤ (place pos t).2 := by
  induction t generalizing pos with
  | done => exact Nat.le_refl _
  | absent rest ih => exact ih pos
  | scalar v rest ih =>
    have halign := le_alignUp (n := pos) v.kind.size_pos
    have hrest := ih (alignUp pos v.kind.size + v.kind.size)
    simp only [place]
    omega
  | text _ rest ih | child _ rest _ ih =>
    have halign : pos ≤ alignUp pos referenceSize := le_alignUp (by decide)
    have hrest := ih (alignUp pos referenceSize + referenceSize)
    simp only [place]
    omega

/-- A slot takes at most 15 bytes, padding included. -/
theorem place_le (pos : Nat) (t : Table) : (place pos t).2 ≤ pos + 15 * t.length := by
  induction t generalizing pos with
  | done => exact Nat.le_refl _
  | absent rest ih =>
    have hrest := ih pos
    simp only [place, length]
    omega
  | scalar v rest ih =>
    have hsize := v.kind.size_le
    have halign := alignUp_lt (n := pos) v.kind.size_pos
    have hrest := ih (alignUp pos v.kind.size + v.kind.size)
    simp only [place, length]
    omega
  | text _ rest ih | child _ rest _ ih =>
    have halign : alignUp pos referenceSize < pos + referenceSize := alignUp_lt (by decide)
    have hrest := ih (alignUp pos referenceSize + referenceSize)
    simp only [place, length, referenceSize] at *
    omega

/-- A slot that is placed is inside. -/
theorem mem_place {pos here : Nat} {t : Table} (h : some here ∈ (place pos t).1) :
    pos ≤ here ∧ here < (place pos t).2 := by
  induction t generalizing pos with
  | done => exact absurd h List.not_mem_nil
  | absent rest ih =>
    rcases List.mem_cons.mp h with h | h
    · exact nomatch h
    · exact ih h
  | scalar v rest ih =>
    have hsize := v.kind.size_pos
    have halign := le_alignUp (n := pos) hsize
    have hrest := le_place (alignUp pos v.kind.size + v.kind.size) rest
    rcases List.mem_cons.mp h with h | h
    · rw [Option.some.inj h]
      exact ⟨halign, by simp only [place]; omega⟩
    · obtain ⟨hle, hlt⟩ := ih h
      exact ⟨by omega, hlt⟩
  | text _ rest ih | child _ rest _ ih =>
    have halign : pos ≤ alignUp pos referenceSize := le_alignUp (by decide)
    have hrest := le_place (alignUp pos referenceSize + referenceSize) rest
    rcases List.mem_cons.mp h with h | h
    · rw [Option.some.inj h]
      exact ⟨halign, by simp only [place, referenceSize] at *; omega⟩
    · obtain ⟨hle, hlt⟩ := ih h
      exact ⟨by omega, hlt⟩

theorem size_inPlace (pos : Nat) (targets : List Nat) (t : Table) :
    pos + (join (inPlace pos targets t)).size = (place pos t).2 := by
  induction t generalizing pos targets with
  | done => rfl
  | absent rest ih => exact ih pos targets
  | scalar v rest ih =>
    have halign := le_alignUp (n := pos) v.kind.size_pos
    have hrest := ih (alignUp pos v.kind.size + v.kind.size) targets
    simp only [inPlace, place, join_cons, ByteArray.size_append, size_zeros, Scalar.size_bytes]
    omega
  | text _ rest ih | child _ rest _ ih =>
    have halign : pos ≤ alignUp pos referenceSize := le_alignUp (by decide)
    have hrest := ih (alignUp pos referenceSize + referenceSize) targets.tail
    simp only [inPlace, place, join_cons, ByteArray.size_append, size_zeros, size_word]
    omega

/-! ## The whole table -/

theorem le_start (pos : Nat) (t : Table) : pos + t.indexSize ≤ t.start pos :=
  le_alignUp (by decide)

theorem start_lt (pos : Nat) (t : Table) : t.start pos < pos + t.indexSize + 4 :=
  alignUp_lt (by decide)

theorem le_stop (pos : Nat) (t : Table) : t.start pos + 4 ≤ t.stop pos :=
  le_place _ _

theorem le_outlineStart (pos : Nat) (t : Table) : t.stop pos ≤ t.outlineStart pos :=
  le_alignUp (by decide)

theorem outlineStart_lt (pos : Nat) (t : Table) : t.outlineStart pos < t.stop pos + 4 :=
  alignUp_lt (by decide)

/-- The word in the index of a slot that is placed, or is absent. -/
def indexWord (start : Nat) : Option Nat → ByteArray
  | some here => word 2 (here - start)
  | none => word 2 0

@[simp] theorem size_indexWord (start : Nat) (here : Option Nat) :
    (indexWord start here).size = 2 := by
  cases here <;> exact size_word _ _

theorem size_join_indexWord (start : Nat) (places : List (Option Nat)) :
    (join (places.map (indexWord start))).size = 2 * places.length := by
  induction places with
  | nil => rfl
  | cons here places ih =>
    rw [List.map_cons, join_cons, ByteArray.size_append, size_indexWord, ih, List.length_cons]
    omega

theorem assemble_eq (pos : Nat) (t : Table) (outline : List Nat × List ByteArray) :
    assemble pos t outline = join (word 2 t.indexSize :: word 2 (t.stop pos - t.start pos)
      :: join ((place (t.start pos + 4) t).1.map (indexWord (t.start pos)))
      :: zeros (t.start pos - (pos + t.indexSize)) :: word 4 (t.start pos - pos)
      :: join (inPlace (t.start pos + 4) outline.1 t)
      :: zeros (t.outlineStart pos - t.stop pos) :: outline.2) :=
  rfl

theorem size_assemble (pos : Nat) (t : Table) (outline : List Nat × List ByteArray) :
    pos + (assemble pos t outline).size = t.outlineStart pos + (join outline.2).size := by
  have hstart := t.le_start pos
  have hstop := t.le_stop pos
  have hout := t.le_outlineStart pos
  have hplace :
      t.start pos + 4 + (join (inPlace (t.start pos + 4) outline.1 t)).size = t.stop pos :=
    size_inPlace ..
  rw [assemble_eq]
  simp only [join_cons, ByteArray.size_append, size_word, size_zeros, size_join_indexWord,
    length_place]
  rw [indexSize] at hstart ⊢
  omega

/-- A table ends where what its slots refer to ends. -/
theorem end_write (q : Nat) (t : Table) : q + (t.write q).size =
    t.outlineStart q + (join (outline (t.outlineStart q) t).2).size :=
  size_assemble ..

theorem dvd_textBytes {q : Nat} (hq : 4 ∣ q) (s : String) : 4 ∣ q + (textBytes s).size := by
  have hle : s.toUTF8.size + 1 ≤ alignUp (s.toUTF8.size + 1) 4 := le_alignUp (by decide)
  have hdvd : 4 ∣ alignUp (s.toUTF8.size + 1) 4 := dvd_alignUp _ _
  simp only [textBytes, join_cons, join_nil, ByteArray.size_append, size_word, size_zeros,
    ByteArray.size_empty]
  omega

/-- From a multiple of 4 on, what the slots refer to ends at a multiple of 4. -/
theorem dvd_outline {q : Nat} {t : Table} (hq : 4 ∣ q) : 4 ∣ q + (join (outline q t).2).size := by
  induction t generalizing q with
  | done => exact hq
  | absent rest ih | scalar _ rest ih => exact ih hq
  | text s rest ih =>
    simp only [outline, join_cons, ByteArray.size_append]
    rw [← Nat.add_assoc]
    exact ih (dvd_textBytes hq s)
  | child t rest iht ih =>
    have hinner : 4 ∣ q + (t.write q).size := end_write q t ▸ iht (dvd_alignUp _ _)
    simp only [outline, join_cons, ByteArray.size_append]
    rw [← Nat.add_assoc]
    exact ih hinner

/-- The parts of an assembled table stand at their positions. -/
structure Assembled (b : ByteArray) (pos : Nat) (t : Table) (outline : List Nat × List ByteArray) :
    Prop where
  indexSize : At b pos (word 2 t.indexSize)
  size : At b (pos + 2) (word 2 (t.stop pos - t.start pos))
  index : At b (pos + 4) (join ((place (t.start pos + 4) t).1.map (indexWord (t.start pos))))
  pad : At b (pos + t.indexSize) (zeros (t.start pos - (pos + t.indexSize)))
  back : At b (t.start pos) (word 4 (t.start pos - pos))
  inPlace : At b (t.start pos + 4) (join (inPlace (t.start pos + 4) outline.1 t))
  padEnd : At b (t.stop pos) (zeros (t.outlineStart pos - t.stop pos))
  outline : At b (t.outlineStart pos) (join outline.2)

theorem assembled {b : ByteArray} {pos : Nat} {t : Table} {outline : List Nat × List ByteArray}
    (h : At b pos (assemble pos t outline)) : Assembled b pos t outline := by
  have hstart := t.le_start pos
  have hstop := t.le_stop pos
  have hout := t.le_outlineStart pos
  have hplace : t.start pos + 4 + (join (Table.inPlace (t.start pos + 4) outline.1 t)).size =
      t.stop pos := size_inPlace ..
  rw [assemble_eq] at h
  simp only [join_cons] at h
  -- each part stands where the one before it ends
  have hsize := h.right
  have hindex := hsize.right
  have hpad := hindex.right
  have hback := hpad.right
  have hinPlace := hback.right
  have hpad' := hinPlace.right
  have hout' := hpad'.right
  simp only [size_word, size_zeros, size_join_indexWord, length_place] at *
  -- the positions of the writer are these ends
  have hindexEnd : pos + 2 + 2 + 2 * t.length = pos + t.indexSize := by
    rw [Table.indexSize]
    omega
  rw [hindexEnd] at hpad hback hinPlace hpad' hout'
  rw [Nat.add_sub_cancel' hstart] at hback hinPlace hpad' hout'
  rw [hplace] at hpad' hout'
  rw [Nat.add_sub_cancel' hout] at hout'
  exact ⟨h.left, hsize.left, hindex.left, hpad.left, hback.left, hinPlace.left, hpad'.left, hout'⟩

/-! ## What the words can hold -/

/-- The tables that slots refer to, laid out from `q` on, have indices and in-place
parts whose sizes fit 2 bytes, and so have the tables inside them. -/
def NarrowBelow : Table → (q : Nat) → Prop
  | done, _ => True
  | absent rest, q | scalar _ rest, q => rest.NarrowBelow q
  | text s rest, q => rest.NarrowBelow (q + (textBytes s).size)
  | child t rest, q =>
    (t.indexSize < 2 ^ 16 ∧ t.stop q - t.start q < 2 ^ 16 ∧ t.NarrowBelow (t.outlineStart q)) ∧
      rest.NarrowBelow (q + (t.write q).size)

/-- The sizes of a table whose index is at `pos`, and of those inside it, fit 2 bytes. -/
structure Narrow (pos : Nat) (t : Table) : Prop where
  indexSize_lt : t.indexSize < 2 ^ 16
  size_lt : t.stop pos - t.start pos < 2 ^ 16
  below : t.NarrowBelow (t.outlineStart pos)

/-- The distances from slots, in place from `p` on, to what they refer to, laid out
from `q` on, fit 4 bytes. -/
def Near : Table → (p q : Nat) → Prop
  | done, _, _ => True
  | absent rest, p, q => rest.Near p q
  | scalar v rest, p, q => rest.Near (alignUp p v.kind.size + v.kind.size) q
  | text s rest, p, q =>
    q - alignUp p referenceSize < 2 ^ 32 ∧
      rest.Near (alignUp p referenceSize + referenceSize) (q + (textBytes s).size)
  | child t rest, p, q =>
    (t.start q - alignUp p referenceSize < 2 ^ 32 ∧ t.Near (t.start q + 4) (t.outlineStart q)) ∧
      rest.Near (alignUp p referenceSize + referenceSize) (q + (t.write q).size)

/-- The byte counts of the texts, at any depth, fit 4 bytes. -/
def Brief : Table → Prop
  | done => True
  | absent rest | scalar _ rest => rest.Brief
  | text s rest => s.toUTF8.size < 2 ^ 32 ∧ rest.Brief
  | child t rest => t.Brief ∧ rest.Brief

/-- The most slots of a table that a slot refers to, at any depth. -/
def widest : Table → Nat
  | done => 0
  | absent rest | scalar _ rest | text _ rest => rest.widest
  | child t rest => max (max t.length t.widest) rest.widest

theorem size_textBytes (s : String) :
    s.toUTF8.size + 4 < (textBytes s).size ∧ (textBytes s).size ≤ s.toUTF8.size + 8 := by
  have hle : s.toUTF8.size + 1 ≤ alignUp (s.toUTF8.size + 1) 4 := le_alignUp (by decide)
  have hlt : alignUp (s.toUTF8.size + 1) 4 < s.toUTF8.size + 1 + 4 := alignUp_lt (by decide)
  simp only [textBytes, join_cons, join_nil, ByteArray.size_append, size_word, size_zeros,
    ByteArray.size_empty]
  omega

/-- A table at whose end the position is still below 2 ^ 32 is near. -/
theorem near_of_le {p q : Nat} {t : Table} (h : q + (join (outline q t).2).size ≤ 2 ^ 32) :
    t.Near p q := by
  induction t generalizing p q with
  | done => trivial
  | absent rest ih | scalar _ rest ih => exact ih h
  | text s rest ih =>
    have hsize := size_textBytes s
    simp only [outline, join_cons, ByteArray.size_append] at h
    exact ⟨by omega, ih (by omega)⟩
  | child t rest iht ih =>
    have hsize := end_write q t
    have hstart : t.start q < t.outlineStart q := by
      have hstop := t.le_stop q
      have hout := t.le_outlineStart q
      omega
    simp only [outline, join_cons, ByteArray.size_append] at h
    -- `t.write q` is what `outline` puts first, under another name
    change q + ((t.write q).size + (join (outline (q + (t.write q).size) rest).2).size) ≤
      2 ^ 32 at h
    exact ⟨⟨by omega, iht (by omega)⟩, ih (by omega)⟩

/-- A table at whose end the position is still below 2 ^ 32 has no longer texts. -/
theorem brief_of_le {q : Nat} {t : Table} (h : q + (join (outline q t).2).size ≤ 2 ^ 32) :
    t.Brief := by
  induction t generalizing q with
  | done => trivial
  | absent rest ih | scalar _ rest ih => exact ih h
  | text s rest ih =>
    have hsize := size_textBytes s
    simp only [outline, join_cons, ByteArray.size_append] at h
    exact ⟨by omega, ih (q := q + (textBytes s).size) (by omega)⟩
  | child t rest iht ih =>
    have hsize := end_write q t
    simp only [outline, join_cons, ByteArray.size_append] at h
    -- `t.write q` is what `outline` puts first, under another name
    change q + ((t.write q).size + (join (outline (q + (t.write q).size) rest).2).size) ≤
      2 ^ 32 at h
    exact ⟨iht (q := t.outlineStart q) (by omega), ih (q := q + (t.write q).size) (by omega)⟩

theorem indexSize_lt {t : Table} (h : t.length ≤ 4000) : t.indexSize < 2 ^ 16 := by
  unfold indexSize
  omega

theorem stop_sub_start_lt {t : Table} (pos : Nat) (h : t.length ≤ 4000) :
    t.stop pos - t.start pos < 2 ^ 16 := by
  have hstop : t.stop pos ≤ t.start pos + 4 + 15 * t.length := place_le _ _
  omega

theorem narrowBelow_of_widest {q : Nat} {t : Table} (h : t.widest ≤ 4000) : t.NarrowBelow q := by
  induction t generalizing q with
  | done => trivial
  | absent rest ih | scalar _ rest ih | text _ rest ih => exact ih h
  | child t rest iht ih =>
    simp only [widest, Nat.max_le] at h
    obtain ⟨⟨hlength, hinner⟩, hrest⟩ := h
    exact ⟨⟨indexSize_lt hlength, stop_sub_start_lt q hlength, iht hinner⟩, ih hrest⟩

/-- Tables with few slots are narrow wherever they are put. -/
theorem narrow_of_widest {pos : Nat} {t : Table} (hlength : t.length ≤ 4000)
    (hinner : t.widest ≤ 4000) : Narrow pos t :=
  ⟨indexSize_lt hlength, stop_sub_start_lt pos hlength, narrowBelow_of_widest hinner⟩

end Table

end ReleaseFeed.Wire
