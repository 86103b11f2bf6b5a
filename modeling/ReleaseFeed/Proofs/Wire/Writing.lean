import ReleaseFeed.Proofs.Wire.Placement
import ReleaseFeed.Wire.Writer

/-! # What the writer leaves in a buffer

The writer puts a table behind whatever the buffer holds, patches the index that it has left blank, and
then the hole of each text and each inner table once it knows where that is.  A patch replaces bytes in
the middle of a buffer and no others (`patch_append`), so at every moment the buffer is made of the bytes
that were there before, the table as far as it is written, and what its slots refer to, as far as that is.

Before anything is referred to, the table is written as one whose distances are all 0 (`frame_eq`).  From
then on there are holes from `p` on in the in-place part, and the next text or table goes to the end of the
buffer, at `q`; filling the first hole moves both on (`Fills.cons`).  In the end the buffer holds what it held
before and the bytes of `Table.write` (`appendTo_eq`).
-/
namespace ReleaseFeed.Bytes

theorem zeros_zero : zeros 0 = .empty := rfl

theorem zeros_add (m n : Nat) : zeros (m + n) = zeros m ++ zeros n := by
  refine ByteArray.ext ?_
  rw [ByteArray.data_append, zeros, zeros, zeros, ← Array.replicate_append_replicate]

theorem word_zero (n : Nat) : word n 0 = zeros n := by
  induction n with
  | zero => rfl
  | succ n ih =>
    rw [word, Nat.zero_div, ih, Nat.add_comm n 1, zeros_add]
    rfl

/-- Buffers can be padded up to any size. -/
theorem size_align {size : Nat} (h : 0 < size) (b : ByteArray) :
    (align b size).size = alignUp b.size size := by
  have hle := le_alignUp (n := b.size) h
  rw [align, ByteArray.size_append, size_zeros]
  omega

theorem alignUp_of_dvd {n size : Nat} (hsize : 0 < size) (h : size ∣ n) : alignUp n size = n := by
  obtain ⟨k, rfl⟩ := h
  rw [alignUp, Nat.mul_add_div hsize, Nat.div_eq_of_lt (by omega), Nat.add_zero, Nat.mul_comm]

theorem alignUp_add {n size : Nat} (hsize : 0 < size) (h : size ∣ n) (m : Nat) :
    alignUp (n + m) size = n + alignUp m size := by
  obtain ⟨k, rfl⟩ := h
  rw [alignUp, alignUp, Nat.add_assoc, Nat.mul_add_div hsize, Nat.add_mul, Nat.mul_comm k]

theorem align_of_dvd {b : ByteArray} {size : Nat} (hsize : 0 < size) (h : size ∣ b.size) :
    align b size = b := by
  rw [align, alignUp_of_dvd hsize h, Nat.sub_self]
  exact ByteArray.append_empty

theorem push_zero (b : ByteArray) : b.push 0 = b ++ zeros 1 := by
  refine ByteArray.ext ?_
  rw [ByteArray.data_push, ByteArray.data_append, Array.push_eq_append]
  rfl

/-- A patch replaces bytes by as many others, and leaves those before and behind them. -/
theorem patch_append {front old part : ByteArray} {pos : Nat} (hpos : pos = front.size)
    (hsize : old.size = part.size) (back : ByteArray) :
    patch (front ++ (old ++ back)) pos part = front ++ (part ++ back) := by
  subst hpos
  have hpart : part.extract 0 (0 + part.size) = part := by
    rw [Nat.zero_add]
    exact ByteArray.extract_zero_size
  have hback : (front ++ (old ++ back)).extract (front.size + min part.size (part.size - 0))
      (front ++ (old ++ back)).size = back := by
    rw [Nat.sub_zero, Nat.min_self, ← ByteArray.append_assoc]
    exact ByteArray.extract_append_eq_right (by rw [ByteArray.size_append, hsize])
      ByteArray.size_append
  rw [patch, ByteArray.copySlice_eq_append, ByteArray.extract_append_eq_left rfl, hpart,
    ByteArray.append_assoc]
  exact congrArg (fun behind => front ++ (part ++ behind)) hback

/-- Words replace as many zeros as they are long. -/
theorem patchWords_append {front : ByteArray} {pos : Nat} (hpos : pos = front.size)
    (values : List Nat) (back : ByteArray) :
    patchWords (front ++ (zeros (2 * values.length) ++ back)) pos values =
      front ++ (join (values.map (word 2)) ++ back) := by
  induction values generalizing front pos with
  | nil => rw [patchWords, List.length_nil, Nat.mul_zero, zeros_zero, List.map_nil, join_nil]
  | cons v values ih =>
    have hnext := ih (show pos + 2 = (front ++ word 2 v).size by
      rw [hpos, ByteArray.size_append, size_word])
    rw [patchWords, List.length_cons, Nat.mul_add, Nat.add_comm, Nat.mul_one, zeros_add,
      ByteArray.append_assoc, patch_append hpos (by rw [size_zeros, size_word]),
      ← ByteArray.append_assoc, hnext, List.map_cons, join_cons]
    simp only [ByteArray.append_assoc]

end ReleaseFeed.Bytes

namespace ReleaseFeed.Wire.Table
open Bytes
variable {b : ByteArray} {pos p q : Nat} {t : Table}

/-! ## The index and the in-place part -/

/-- How far from `start` a slot is placed; 0 for an absent one. -/
def offset (start : Nat) : Option Nat → Nat
  | some here => here - start
  | none => 0

theorem word_offset (start : Nat) (here : Option Nat) :
    word 2 (offset start here) = indexWord start here := by
  cases here <;> rfl

/-- Where from `pos` on the slots go that refer to something. -/
def holesFrom : (pos : Nat) → Table → List Nat
  | _, done => []
  | pos, absent rest => holesFrom pos rest
  | pos, scalar v rest => holesFrom (alignUp pos v.kind.size + v.kind.size) rest
  | pos, text _ rest | pos, child _ rest =>
    alignUp pos referenceSize :: holesFrom (alignUp pos referenceSize + referenceSize) rest

/-- Slots are put where they are placed, and all distances are 0 so far. -/
theorem lay_eq (b : ByteArray) (start : Nat) (t : Table) :
    t.lay b start = ⟨b ++ join (inPlace b.size [] t), (place b.size t).1.map (offset start),
      holesFrom b.size t⟩ := by
  induction t generalizing b with
  | done => simp [lay, inPlace, place, holesFrom]
  | absent rest ih =>
    rw [lay, ih]
    rfl
  | scalar v rest ih =>
    have hsize := size_align v.kind.size_pos b
    rw [lay]
    dsimp only
    rw [ih, ByteArray.size_append, hsize, Scalar.size_bytes, align]
    simp only [inPlace, place, holesFrom, join_cons, List.map_cons, offset,
      ByteArray.append_assoc]
  | text _ rest ih | child _ rest _ ih =>
    have hsize : (align b referenceSize).size = alignUp b.size referenceSize :=
      size_align (by decide) b
    rw [lay]
    dsimp only
    rw [ih, ByteArray.size_append, hsize, size_zeros, align]
    simp only [inPlace, place, holesFrom, join_cons, List.map_cons, offset, List.headD_nil,
      List.tail_nil, Nat.zero_sub, word_zero, ByteArray.append_assoc]

/-- The part of a table before its slots. -/
def head (pos : Nat) (t : Table) : ByteArray :=
  join [word 2 t.indexSize, word 2 (t.stop pos - t.start pos),
    join ((place (t.start pos + 4) t).1.map (indexWord (t.start pos))),
    zeros (t.start pos - (pos + t.indexSize)), word 4 (t.start pos - pos)]

theorem size_head (pos : Nat) (t : Table) : pos + (t.head pos).size = t.start pos + 4 := by
  have hstart := t.le_start pos
  simp only [head, join_cons, join_nil, ByteArray.size_append, size_word, size_zeros,
    size_join_indexWord, length_place, ByteArray.size_empty]
  rw [indexSize] at hstart ⊢
  omega

theorem assemble_eq_head (pos : Nat) (t : Table) (outline : List Nat × List ByteArray) :
    assemble pos t outline = t.head pos ++ (join (inPlace (t.start pos + 4) outline.1 t) ++
      (zeros (t.outlineStart pos - t.stop pos) ++ join outline.2)) := by
  simp only [assemble_eq, head, join_cons, join_nil, ByteArray.append_empty,
    ByteArray.append_assoc]

/-- A blank index is patched word by word. -/
theorem patch_index {indexSize : Nat} {offsets : List Nat}
    (h : indexSize = 4 + 2 * offsets.length) (b : ByteArray) (size : Nat) (back : ByteArray) :
    patchWords (patch (patch (b ++ (zeros indexSize ++ back)) b.size (word 2 indexSize))
      (b.size + 2) (word 2 size)) (b.size + 4) offsets =
    b ++ (word 2 indexSize ++ (word 2 size ++ (join (offsets.map (word 2)) ++ back))) := by
  have hblank : zeros indexSize = zeros 2 ++ (zeros 2 ++ zeros (2 * offsets.length)) := by
    rw [← zeros_add, ← zeros_add, ← Nat.add_assoc, ← h]
  rw [hblank, ByteArray.append_assoc, ByteArray.append_assoc, patch_append rfl (by simp),
    ← ByteArray.append_assoc (a := b), patch_append (by simp) (by simp),
    ← ByteArray.append_assoc (b := word 2 size), patchWords_append (by simp)]
  simp only [ByteArray.append_assoc]

/-- The table is put behind the buffer as one that refers to nothing yet. -/
theorem frame_eq (b : ByteArray) (t : Table) : t.frame b =
    ⟨b ++ assemble b.size t ([], []), t.start b.size, holesFrom (t.start b.size + 4) t⟩ := by
  have hstart : (align (b ++ zeros t.indexSize) 4).size = t.start b.size := by
    rw [size_align (by decide), ByteArray.size_append, size_zeros]
    rfl
  have hstop : t.start b.size + 4 + (join (inPlace (t.start b.size + 4) [] t)).size =
      t.stop b.size := size_inPlace ..
  have hlength : t.indexSize =
      4 + 2 * ((place (t.start b.size + 4) t).1.map (offset (t.start b.size))).length := by
    rw [List.length_map, length_place, indexSize]
  have hwords : ((place (t.start b.size + 4) t).1.map (offset (t.start b.size))).map (word 2) =
      (place (t.start b.size + 4) t).1.map (indexWord (t.start b.size)) := by
    rw [List.map_map]
    exact List.map_congr_left fun here _ => word_offset _ here
  -- the buffer before the index is patched
  have hblank : align (align (b ++ zeros t.indexSize) 4 ++ word 4 (t.start b.size - b.size) ++
        join (inPlace (t.start b.size + 4) [] t)) 4 =
      b ++ (zeros t.indexSize ++ (zeros (t.start b.size - (b.size + t.indexSize)) ++
        (word 4 (t.start b.size - b.size) ++ (join (inPlace (t.start b.size + 4) [] t) ++
          zeros (t.outlineStart b.size - t.stop b.size))))) := by
    rw [align, ByteArray.size_append, ByteArray.size_append, hstart, size_word, hstop, align,
      ByteArray.size_append, size_zeros]
    simp only [ByteArray.append_assoc]
    rfl
  rw [frame]
  dsimp only
  rw [hstart, lay_eq, ByteArray.size_append, hstart, size_word]
  dsimp only
  rw [hblank, ByteArray.size_append, ByteArray.size_append, hstart, size_word, hstop,
    patch_index hlength, hwords]
  simp only [assemble_eq, join_cons, join_nil, ByteArray.append_empty]

/-! ## What the slots refer to -/

theorem appendText_eq (h : 4 ∣ b.size) (s : String) :
    appendText b s = (b ++ textBytes s, b.size) := by
  have hend : alignUp (b.size + (4 + (s.toUTF8.size + 1))) 4 =
      b.size + 4 + alignUp (s.toUTF8.size + 1) 4 := by
    rw [← Nat.add_assoc, alignUp_add (by decide) (by omega)]
  have hle : s.toUTF8.size + 1 ≤ alignUp (s.toUTF8.size + 1) 4 := le_alignUp (by decide)
  have hpad : alignUp (s.toUTF8.size + 1) 4 - s.toUTF8.size =
      1 + (alignUp (b.size + (4 + (s.toUTF8.size + 1))) 4 -
        (b.size + (4 + (s.toUTF8.size + 1)))) := by
    omega
  rw [appendText, align_of_dvd (by decide) h, push_zero, align]
  simp only [textBytes, join_cons, join_nil, ByteArray.append_empty, ByteArray.size_append,
    size_word, size_zeros, ByteArray.append_assoc, hpad, zeros_add]

/-- Whatever stands before and behind the in-place part of a table, its holes are filled as they should
be, and what they refer to goes to the end. -/
def Fills (t : Table) : Prop :=
  ∀ (front mid : ByteArray) (p q : Nat), front.size = p →
    p + (join (inPlace p [] t)).size + mid.size = q → 4 ∣ q →
    fill (front ++ (join (inPlace p [] t) ++ mid)) (holesFrom p t) t =
      front ++ (join (inPlace p (outline q t).1 t) ++ (mid ++ join (outline q t).2))

/-- With its holes filled, what refers to nothing yet is the whole table. -/
theorem Fills.assemble (h : t.Fills) (b : ByteArray) :
    fill (b ++ Table.assemble b.size t ([], [])) (holesFrom (t.start b.size + 4) t) t =
      b ++ t.write b.size := by
  have hhead := size_head b.size t
  have hstop : t.start b.size + 4 + (join (inPlace (t.start b.size + 4) [] t)).size =
      t.stop b.size := size_inPlace ..
  have hout := t.le_outlineStart b.size
  have hfill := h (b ++ t.head b.size) (zeros (t.outlineStart b.size - t.stop b.size))
    (t.start b.size + 4) (t.outlineStart b.size) (by rw [ByteArray.size_append, hhead])
    (by rw [hstop, size_zeros]; omega) (dvd_alignUp _ _)
  rw [write, assemble_eq_head, assemble_eq_head, ← ByteArray.append_assoc, join_nil,
    ByteArray.append_empty, hfill, ByteArray.append_assoc]

/-- The first hole of a table is filled once that which it refers to has been put behind the buffer, and
the one after it becomes the first. -/
theorem Fills.cons {rest : Table} (h : rest.Fills) {front mid : ByteArray} {here : Nat}
    (hhere : p ≤ here) (hp : front.size = p)
    (hq : p + (join (zeros (here - p) :: word referenceSize 0
      :: inPlace (here + referenceSize) [] rest)).size + mid.size = q)
    (part : ByteArray) (hdvd : 4 ∣ q + part.size) (target : Nat) :
    fill (refer here (front ++ (join (zeros (here - p) :: word referenceSize 0
        :: inPlace (here + referenceSize) [] rest) ++ mid) ++ part, target))
      (holesFrom (here + referenceSize) rest) rest =
    front ++ (join (zeros (here - p) :: word referenceSize (target - here)
        :: inPlace (here + referenceSize) (outline (q + part.size) rest).1 rest) ++
      (mid ++ (part ++ join (outline (q + part.size) rest).2))) := by
  have hfront : here = (front ++ zeros (here - p)).size := by
    rw [ByteArray.size_append, size_zeros]
    omega
  simp only [join_cons, ByteArray.size_append, size_zeros, size_word] at hq
  have hrest := h (front ++ zeros (here - p) ++ word referenceSize (target - here)) (mid ++ part)
    (here + referenceSize) (q + part.size) (by rw [ByteArray.size_append, ← hfront, size_word])
    (by rw [ByteArray.size_append]; omega) hdvd
  simp only [join_cons, ByteArray.append_assoc] at hrest ⊢
  rw [refer, ← ByteArray.append_assoc (a := front), patch_append hfront (by simp),
    ByteArray.append_assoc, hrest]

/-- Each text and each table is referred to from its hole, at any depth. -/
theorem fills (t : Table) : t.Fills := by
  induction t with
  | done =>
    intro front mid p q _ _ _
    simp [fill, inPlace, outline]
  | absent rest ih => exact ih
  | scalar v rest ih =>
    intro front mid p q hp hq hdvd
    have halign := le_alignUp (n := p) v.kind.size_pos
    simp only [inPlace, join_cons, ByteArray.size_append, size_zeros, Scalar.size_bytes] at hq
    have hrest := ih (front ++ zeros (alignUp p v.kind.size - p) ++ v.bytes) mid
      (alignUp p v.kind.size + v.kind.size) q
      (by simp only [ByteArray.size_append, size_zeros, Scalar.size_bytes]; omega) (by omega) hdvd
    simp only [fill, holesFrom, inPlace, outline, join_cons, ByteArray.append_assoc] at hrest ⊢
    exact hrest
  | text s rest ih =>
    intro front mid p q hp hq hdvd
    have hsize : (front ++ (join (inPlace p [] (text s rest)) ++ mid)).size = q := by
      rw [ByteArray.size_append, ByteArray.size_append, hp, ← Nat.add_assoc, hq]
    rw [fill, appendText_eq (hsize ▸ hdvd), hsize]
    simp only [inPlace, List.headD_nil, List.tail_nil, Nat.zero_sub] at hq ⊢
    have hnext := ih.cons (le_alignUp (by decide)) hp hq _ (dvd_textBytes hdvd s) q
    simp only [holesFrom, outline, List.headD_cons, List.tail_cons, join_cons] at hnext ⊢
    exact hnext
  | child t rest iht ih =>
    intro front mid p q hp hq hdvd
    have hsize : (front ++ (join (inPlace p [] (child t rest)) ++ mid)).size = q := by
      rw [ByteArray.size_append, ByteArray.size_append, hp, ← Nat.add_assoc, hq]
    have hend : 4 ∣ q + (t.write q).size := end_write q t ▸ dvd_outline (dvd_alignUp _ _)
    rw [fill, frame_eq]
    dsimp only
    rw [iht.assemble, hsize]
    simp only [inPlace, List.headD_nil, List.tail_nil, Nat.zero_sub] at hq ⊢
    have hnext := ih.cons (le_alignUp (by decide)) hp hq _ hend (t.start q)
    simp only [holesFrom, outline, List.headD_cons, List.tail_cons, join_cons] at hnext ⊢
    exact hnext

/-- **The writer leaves the buffer as it was and puts the bytes of the table behind it.** -/
theorem appendTo_eq (b : ByteArray) (t : Table) :
    t.appendTo b = (b ++ t.write b.size, t.start b.size) := by
  rw [appendTo, frame_eq]
  dsimp only
  rw [(fills t).assemble]

end ReleaseFeed.Wire.Table
