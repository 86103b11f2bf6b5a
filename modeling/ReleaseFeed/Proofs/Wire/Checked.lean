import ReleaseFeed.Proofs.Wire.Access
import ReleaseFeed.Wire.Codec

/-! # What a check establishes

`View.check` follows a layout through a buffer: from slot to slot, and from a
slot that holds a table into that table.  `Sound` is what it establishes, told
without any reader: every slot of the layout that is present lies inside the
in-place part of its table, every text lies inside the buffer and is UTF-8, and
every inner table lies inside the buffer and is sound for its own layout.  The
check passes exactly then (`check_eq_ok_iff`), by induction on the layout.

The bound `n` of `Sound` says how many bytes of the buffer are looked at.  A
check of a whole buffer takes all of them; a sound table stays sound for more
(`Sound.mono`), and when bytes are appended.

A reader that follows the same layout finds everything that it looks for
(`read_of_sound`), so it never fails after a check (`exists_decode_of_verify`).
-/
namespace ReleaseFeed.Wire
open Bytes

namespace View

/-- A slot, if present, lies inside the in-place part of its table and behind the
reference to the index. -/
def SlotInside (v : View) (slot size : Nat) : Prop :=
  ∀ position, v.position? slot = some position → 4 ≤ position ∧ position + size ≤ v.size

/-- The index and the in-place part of a table lie in the first `n` bytes. -/
structure Below (v : View) (n : Nat) : Prop where
  index_le : v.index + 4 + 2 * v.slots ≤ n
  inPlace_le : v.start + v.size ≤ n

/-- The slots of a layout, the first of which is `slot`, lie inside the table, and
all that they refer to lies in the first `n` bytes and is what the layout says. -/
def Sound (n : Nat) : Layout → View → Nat → Prop
  | .done, _, _ => True
  | .scalar kind rest, v, slot => v.SlotInside slot kind.size ∧ Sound n rest v (slot + 1)
  | .text rest, v, slot =>
    (v.SlotInside slot Table.referenceSize ∧
      ∀ position, v.position? slot = some position →
        textStop v.buffer (v.start + position) ≤ n ∧
          (textRange v.buffer (v.start + position)).IsValidUTF8) ∧
      Sound n rest v (slot + 1)
  | .table inner rest, v, slot =>
    (v.SlotInside slot Table.referenceSize ∧
      ∀ position, v.position? slot = some position →
        ∃ child, childFrom v.buffer (v.start + position) = .ok child ∧ child.Below n ∧
          Sound n inner child 0) ∧
      Sound n rest v (slot + 1)

theorem Sits.below {v : View} (h : v.Sits) : v.Below v.buffer.size :=
  ⟨h.index_le, h.inPlace_le⟩

theorem Below.mono {v : View} {m n : Nat} (h : v.Below m) (hle : m ≤ n) : v.Below n :=
  ⟨Nat.le_trans h.index_le hle, Nat.le_trans h.inPlace_le hle⟩

/-- What is sound within some bytes is sound within more. -/
theorem Sound.mono {m n : Nat} {layout : Layout} {v : View} {slot : Nat}
    (h : Sound m layout v slot) (hle : m ≤ n) : Sound n layout v slot := by
  induction layout generalizing v slot with
  | done => trivial
  | scalar kind rest ih => exact ⟨h.1, ih h.2⟩
  | text rest ih =>
    obtain ⟨⟨hinside, htext⟩, hrest⟩ := h
    refine ⟨⟨hinside, fun position hposition => ?_⟩, ih hrest⟩
    exact ⟨Nat.le_trans (htext position hposition).1 hle, (htext position hposition).2⟩
  | table inner rest ihInner ih =>
    obtain ⟨⟨hinside, htable⟩, hrest⟩ := h
    refine ⟨⟨hinside, fun position hposition => ?_⟩, ih hrest⟩
    obtain ⟨child, hchild, hbelow, hsound⟩ := htable position hposition
    exact ⟨child, hchild, hbelow.mono hle, ihInner hsound⟩

/-! ## Slots -/

/-- A slot that lies inside its table ends before the table does. -/
theorem SlotInside.add_le {v : View} {slot size position n : Nat} (h : v.SlotInside slot size)
    (hbelow : v.Below n) (hposition : v.position? slot = some position) :
    v.start + position + size ≤ n := by
  have hin := (h position hposition).2
  have hle := hbelow.inPlace_le
  omega

theorem checkSlot_eq_ok_iff {v : View} {slot size : Nat} :
    v.checkSlot slot size = .ok () ↔ v.SlotInside slot size := by
  unfold checkSlot SlotInside
  cases hposition : v.position? slot with
  | none => exact ⟨fun _ => nofun, fun _ => rfl⟩
  | some position =>
    dsimp only
    split
    · next hout =>
      refine ⟨nofun, fun h => ?_⟩
      have hin := h position rfl
      omega
    · next hin =>
      refine ⟨fun _ p hp => ?_, fun _ => rfl⟩
      rw [← Option.some.inj hp]
      omega

theorem text?_of_none {v : View} {slot : Nat} (h : v.position? slot = none) :
    v.text? slot = .ok none := by
  rw [text?, h]

theorem text?_of_some {v : View} {slot position : Nat} (h : v.position? slot = some position) :
    v.text? slot = some <$> textFrom v.buffer (v.start + position) := by
  rw [text?, h]

theorem child?_of_none {v : View} {slot : Nat} (h : v.position? slot = none) :
    v.child? slot = .ok none := by
  rw [child?, h]

theorem child?_of_some {v : View} {slot position : Nat} (h : v.position? slot = some position) :
    v.child? slot = some <$> childFrom v.buffer (v.start + position) := by
  rw [child?, h]

/-- A text can be read when it lies inside the buffer and is UTF-8. -/
theorem exists_textFrom_eq_ok_iff {b : ByteArray} {pos : Nat} :
    (∃ s, textFrom b pos = .ok s) ↔ textStop b pos ≤ b.size ∧ (textRange b pos).IsValidUTF8 := by
  simp only [textFrom_eq_ok_iff]
  constructor
  · rintro ⟨s, -, hstop, hrange⟩
    exact ⟨hstop, hrange ▸ s.isValidUTF8⟩
  · rintro ⟨hstop, hvalid⟩
    refine ⟨.ofByteArray _ hvalid, ?_, hstop, rfl⟩
    unfold textStop textTarget at hstop
    omega

theorem discard_text?_eq_ok_iff {v : View} {slot : Nat} :
    discard (v.text? slot) = .ok () ↔
      ∀ position, v.position? slot = some position →
        textStop v.buffer (v.start + position) ≤ v.buffer.size ∧
          (textRange v.buffer (v.start + position)).IsValidUTF8 := by
  cases hposition : v.position? slot with
  | none => rw [text?_of_none hposition]; exact ⟨fun _ => nofun, fun _ => rfl⟩
  | some position =>
    simp only [text?_of_some hposition, Option.some.injEq, forall_eq',
      ← exists_textFrom_eq_ok_iff]
    cases textFrom v.buffer (v.start + position) with
    | error e => exact ⟨nofun, fun ⟨_, h⟩ => nomatch h⟩
    | ok s => exact ⟨fun _ => ⟨s, rfl⟩, fun _ => rfl⟩

/-- A table that was reached from a slot agrees with the buffer of the slot. -/
theorem sits_of_childFrom {b : ByteArray} {pos : Nat} {v : View} (h : childFrom b pos = .ok v) :
    v.Sits ∧ v.buffer = b := by
  obtain ⟨hsits, hbuffer, _⟩ := find_eq_ok_iff.mp (childFrom_eq_ok_iff.mp h).2.2
  exact ⟨hsits, hbuffer⟩

/-! ## Whole layouts -/

/-- A check of a layout passes exactly when the table is sound for it. -/
theorem check_eq_ok_iff {layout : Layout} {v : View} {slot : Nat} :
    check layout v slot = .ok () ↔ Sound v.buffer.size layout v slot := by
  induction layout generalizing v slot with
  | done => exact ⟨fun _ => trivial, fun _ => rfl⟩
  | scalar kind rest ih => rw [check, seq_eq_ok, checkSlot_eq_ok_iff, ih, Sound]
  | text rest ih =>
    rw [check, seq_eq_ok, checkSlot_eq_ok_iff, seq_eq_ok, ih, Sound, and_assoc]
    exact and_congr_right fun _ => and_congr_left fun _ => discard_text?_eq_ok_iff
  | table inner rest ihInner ih =>
    rw [check, seq_eq_ok, checkSlot_eq_ok_iff, bind_eq_ok, Sound, and_assoc]
    refine and_congr_right fun _ => ?_
    cases hposition : v.position? slot with
    | none =>
      rw [child?_of_none hposition]
      constructor
      · rintro ⟨_, ⟨⟩, h⟩
        exact ⟨nofun, ih.mp h⟩
      · rintro ⟨-, hrest⟩
        exact ⟨none, rfl, ih.mpr hrest⟩
    | some position =>
      simp only [child?_of_some hposition, map_eq_ok]
      constructor
      · rintro ⟨_, ⟨child, hchild, rfl⟩, h⟩
        obtain ⟨hinner, hrest⟩ := seq_eq_ok.mp h
        obtain ⟨hsits, hbuffer⟩ := sits_of_childFrom hchild
        refine ⟨fun p hp => ?_, ih.mp hrest⟩
        cases hp
        -- the inner table was checked against its own buffer, which is the same
        rw [← hbuffer] at hchild ⊢
        exact ⟨child, hchild, hsits.below, ihInner.mp hinner⟩
      · rintro ⟨htable, hrest⟩
        obtain ⟨child, hchild, -, hsound⟩ := htable position rfl
        rw [← (sits_of_childFrom hchild).2] at hsound
        exact ⟨_, ⟨child, hchild, rfl⟩, seq_eq_ok.mpr ⟨ihInner.mpr hsound, ih.mpr hrest⟩⟩

/-! ## Reading a layout, slot by slot -/

theorem read_scalar_eq_ok_iff {kind : ScalarKind} {rest : Layout} {v : View} {slot : Nat}
    {t : Table} (hbelow : v.Below v.buffer.size) (hinside : v.SlotInside slot kind.size) :
    read (.scalar kind rest) v slot = .ok t ↔ ∃ t', read rest v (slot + 1) = .ok t' ∧
      (v.position? slot = none ∧ t = .absent t' ∨
        ∃ position, v.position? slot = some position ∧
          t = .scalar (.ofImage kind (valueAt v.buffer kind.size (v.start + position))) t') := by
  rw [read, bind_eq_ok]
  refine exists_congr fun t' => and_congr_right fun _ => ?_
  cases hposition : v.position? slot with
  | none =>
    rw [scalar?, hposition]
    constructor
    · intro h
      exact .inl ⟨rfl, (Except.ok.inj h).symm⟩
    · rintro (⟨-, rfl⟩ | ⟨_, h, -⟩)
      · rfl
      · exact nomatch h
  | some position =>
    have hword := word?_eq_some (hinside.add_le hbelow hposition)
    rw [scalar?, hposition, Option.bind_eq_bind, Option.bind_some, hword]
    constructor
    · intro h
      exact .inr ⟨position, rfl, (Except.ok.inj h).symm⟩
    · rintro (⟨h, -⟩ | ⟨_, ⟨⟩, rfl⟩)
      · exact nomatch h
      · rfl

theorem read_text_eq_ok_iff {rest : Layout} {v : View} {slot : Nat} {t : Table} :
    read (.text rest) v slot = .ok t ↔ ∃ t', read rest v (slot + 1) = .ok t' ∧
      (v.position? slot = none ∧ t = .absent t' ∨
        ∃ position s, v.position? slot = some position ∧
          textFrom v.buffer (v.start + position) = .ok s ∧ t = .text s t') := by
  rw [read, bind_eq_ok]
  cases hposition : v.position? slot with
  | none =>
    rw [text?_of_none hposition]
    constructor
    · rintro ⟨_, ⟨⟩, h⟩
      obtain ⟨t', hrest, ht⟩ := bind_eq_ok.mp h
      exact ⟨t', hrest, .inl ⟨rfl, (Except.ok.inj ht).symm⟩⟩
    · rintro ⟨t', hrest, ⟨-, rfl⟩ | ⟨_, _, h, -⟩⟩
      · exact ⟨none, rfl, bind_eq_ok.mpr ⟨t', hrest, rfl⟩⟩
      · exact nomatch h
  | some position =>
    simp only [text?_of_some hposition, map_eq_ok]
    constructor
    · rintro ⟨_, ⟨s, hs, rfl⟩, h⟩
      obtain ⟨t', hrest, ht⟩ := bind_eq_ok.mp h
      exact ⟨t', hrest, .inr ⟨position, s, rfl, hs, (Except.ok.inj ht).symm⟩⟩
    · rintro ⟨t', hrest, ⟨h, -⟩ | ⟨_, s, ⟨⟩, hs, rfl⟩⟩
      · exact nomatch h
      · exact ⟨_, ⟨s, hs, rfl⟩, bind_eq_ok.mpr ⟨t', hrest, rfl⟩⟩

theorem read_table_eq_ok_iff {inner rest : Layout} {v : View} {slot : Nat} {t : Table} :
    read (.table inner rest) v slot = .ok t ↔ ∃ t', read rest v (slot + 1) = .ok t' ∧
      (v.position? slot = none ∧ t = .absent t' ∨
        ∃ position child u, v.position? slot = some position ∧
          childFrom v.buffer (v.start + position) = .ok child ∧ read inner child 0 = .ok u ∧
          t = .child u t') := by
  rw [read, bind_eq_ok]
  cases hposition : v.position? slot with
  | none =>
    rw [child?_of_none hposition]
    constructor
    · rintro ⟨_, ⟨⟩, h⟩
      obtain ⟨t', hrest, ht⟩ := bind_eq_ok.mp h
      exact ⟨t', hrest, .inl ⟨rfl, (Except.ok.inj ht).symm⟩⟩
    · rintro ⟨t', hrest, ⟨-, rfl⟩ | ⟨_, _, _, h, -⟩⟩
      · exact ⟨none, rfl, bind_eq_ok.mpr ⟨t', hrest, rfl⟩⟩
      · exact nomatch h
  | some position =>
    simp only [child?_of_some hposition, map_eq_ok]
    constructor
    · rintro ⟨_, ⟨child, hchild, rfl⟩, h⟩
      obtain ⟨u, hu, h⟩ := bind_eq_ok.mp h
      obtain ⟨t', hrest, ht⟩ := bind_eq_ok.mp h
      exact ⟨t', hrest, .inr ⟨position, child, u, rfl, hchild, hu, (Except.ok.inj ht).symm⟩⟩
    · rintro ⟨t', hrest, ⟨h, -⟩ | ⟨_, child, u, ⟨⟩, hchild, hu, rfl⟩⟩
      · exact nomatch h
      · exact ⟨_, ⟨child, hchild, rfl⟩, bind_eq_ok.mpr ⟨u, hu, bind_eq_ok.mpr ⟨t', hrest, rfl⟩⟩⟩

/-- All the slots of a sound table can be read. -/
theorem read_of_sound {n : Nat} {layout : Layout} {v : View} {slot : Nat} (hv : v.Sits)
    (h : Sound n layout v slot) (hn : n ≤ v.buffer.size) : ∃ t, read layout v slot = .ok t := by
  induction layout generalizing v slot with
  | done => exact ⟨.done, rfl⟩
  | scalar kind rest ih =>
    obtain ⟨t, ht⟩ := ih hv h.2 hn
    cases hposition : v.position? slot with
    | none => exact ⟨_, (read_scalar_eq_ok_iff hv.below h.1).mpr ⟨t, ht, .inl ⟨hposition, rfl⟩⟩⟩
    | some position =>
      exact ⟨_, (read_scalar_eq_ok_iff hv.below h.1).mpr ⟨t, ht, .inr ⟨position, hposition, rfl⟩⟩⟩
  | text rest ih =>
    obtain ⟨⟨-, htext⟩, hrest⟩ := h
    obtain ⟨t, ht⟩ := ih hv hrest hn
    cases hposition : v.position? slot with
    | none => exact ⟨_, read_text_eq_ok_iff.mpr ⟨t, ht, .inl ⟨hposition, rfl⟩⟩⟩
    | some position =>
      obtain ⟨hstop, hvalid⟩ := htext position hposition
      obtain ⟨s, hs⟩ := exists_textFrom_eq_ok_iff.mpr ⟨Nat.le_trans hstop hn, hvalid⟩
      exact ⟨_, read_text_eq_ok_iff.mpr ⟨t, ht, .inr ⟨position, s, hposition, hs, rfl⟩⟩⟩
  | table inner rest ihInner ih =>
    obtain ⟨⟨-, htable⟩, hrest⟩ := h
    obtain ⟨t, ht⟩ := ih hv hrest hn
    cases hposition : v.position? slot with
    | none => exact ⟨_, read_table_eq_ok_iff.mpr ⟨t, ht, .inl ⟨hposition, rfl⟩⟩⟩
    | some position =>
      obtain ⟨child, hchild, -, hsound⟩ := htable position hposition
      obtain ⟨hsits, hbuffer⟩ := sits_of_childFrom hchild
      obtain ⟨u, hu⟩ := ihInner hsits hsound (by rwa [hbuffer])
      exact ⟨_, read_table_eq_ok_iff.mpr
        ⟨t, ht, .inr ⟨position, child, u, hposition, hchild, hu, rfl⟩⟩⟩

/-- A view is sound for the slots of a layout, and they are read as a table. -/
structure Found (layout : Layout) (v : View) (slot : Nat) (t : Table) : Prop where
  sits : v.Sits
  sound : Sound v.buffer.size layout v slot
  read : read layout v slot = .ok t

/-- What a number slot gives. -/
theorem found_scalar_iff {kind : ScalarKind} {rest : Layout} {v : View} {slot : Nat} {t : Table} :
    Found (.scalar kind rest) v slot t ↔ v.SlotInside slot kind.size ∧
      ∃ t', Found rest v (slot + 1) t' ∧
        (v.position? slot = none ∧ t = .absent t' ∨
          ∃ position, v.position? slot = some position ∧
            t = .scalar (.ofImage kind (valueAt v.buffer kind.size (v.start + position))) t') := by
  constructor
  · rintro ⟨hsits, ⟨hinside, hrest⟩, hread⟩
    obtain ⟨t', hread', ht⟩ := (read_scalar_eq_ok_iff hsits.below hinside).mp hread
    exact ⟨hinside, t', ⟨hsits, hrest, hread'⟩, ht⟩
  · rintro ⟨hinside, t', ⟨hsits, hrest, hread'⟩, ht⟩
    exact ⟨hsits, ⟨hinside, hrest⟩,
      (read_scalar_eq_ok_iff hsits.below hinside).mpr ⟨t', hread', ht⟩⟩

/-- What a text slot gives. -/
theorem found_text_iff {rest : Layout} {v : View} {slot : Nat} {t : Table} :
    Found (.text rest) v slot t ↔ v.SlotInside slot Table.referenceSize ∧
      ∃ t', Found rest v (slot + 1) t' ∧
        (v.position? slot = none ∧ t = .absent t' ∨
          ∃ position s, v.position? slot = some position ∧
            textFrom v.buffer (v.start + position) = .ok s ∧ t = .text s t') := by
  constructor
  · rintro ⟨hsits, ⟨⟨hinside, -⟩, hrest⟩, hread⟩
    obtain ⟨t', hread', ht⟩ := read_text_eq_ok_iff.mp hread
    exact ⟨hinside, t', ⟨hsits, hrest, hread'⟩, ht⟩
  · rintro ⟨hinside, t', ⟨hsits, hrest, hread'⟩, ht⟩
    refine ⟨hsits, ⟨⟨hinside, fun position hposition => ?_⟩, hrest⟩,
      read_text_eq_ok_iff.mpr ⟨t', hread', ht⟩⟩
    -- that the text was read says that it lies inside and is UTF-8
    obtain ⟨hnone, -⟩ | ⟨_, s, hsome, hs, -⟩ := ht
    · exact nomatch hnone.symm.trans hposition
    · cases hsome.symm.trans hposition
      exact exists_textFrom_eq_ok_iff.mp ⟨s, hs⟩

/-- What a slot with a table gives. -/
theorem found_table_iff {inner rest : Layout} {v : View} {slot : Nat} {t : Table} :
    Found (.table inner rest) v slot t ↔ v.SlotInside slot Table.referenceSize ∧
      ∃ t', Found rest v (slot + 1) t' ∧
        (v.position? slot = none ∧ t = .absent t' ∨
          ∃ position child u, v.position? slot = some position ∧
            childFrom v.buffer (v.start + position) = .ok child ∧ Found inner child 0 u ∧
            t = .child u t') := by
  constructor
  · rintro ⟨hsits, ⟨⟨hinside, htable⟩, hrest⟩, hread⟩
    obtain ⟨t', hread', ht⟩ := read_table_eq_ok_iff.mp hread
    refine ⟨hinside, t', ⟨hsits, hrest, hread'⟩, ht.imp id ?_⟩
    rintro ⟨position, child, u, hposition, hchild, hu, rfl⟩
    obtain ⟨w, hw, -, hsound⟩ := htable position hposition
    cases hw.symm.trans hchild
    obtain ⟨hsits', hbuffer⟩ := sits_of_childFrom hchild
    rw [← hbuffer] at hsound
    exact ⟨position, child, u, hposition, hchild, ⟨hsits', hsound, hu⟩, rfl⟩
  · rintro ⟨hinside, t', ⟨hsits, hrest, hread'⟩, ht⟩
    refine ⟨hsits, ⟨⟨hinside, fun position hposition => ?_⟩, hrest⟩,
      read_table_eq_ok_iff.mpr ⟨t', hread', ht.imp id ?_⟩⟩
    · obtain ⟨hnone, -⟩ | ⟨_, child, u, hsome, hchild, hu, -⟩ := ht
      · exact nomatch hnone.symm.trans hposition
      · cases hsome.symm.trans hposition
        have hsound := hu.sound
        have hbelow := hu.sits.below
        rw [(sits_of_childFrom hchild).2] at hsound hbelow
        exact ⟨child, hchild, hbelow, hsound⟩
    · rintro ⟨position, child, u, hposition, hchild, hu, rfl⟩
      exact ⟨position, child, u, hposition, hchild, hu.read, rfl⟩

theorem slotInside_of_none {v : View} {slot size : Nat} (h : v.position? slot = none) :
    v.SlotInside slot size := by
  intro position hposition
  exact nomatch h.symm.trans hposition

end View

/-! ## Whole messages -/

/-- The type slot of an envelope is checked once more with the rest of it. -/
theorem verify_eq_ok_iff {b : ByteArray} {type : RecordType} :
    verify b = .ok type ↔ ∃ root, Envelope.find b = .ok root ∧
      RecordType.ofCode? (Envelope.typeByte root) = some type ∧
      View.Sound b.size (Envelope.layout type) root 0 ∧
      (root.position? Envelope.messageSlot).isSome := by
  rw [verify, bind_eq_ok]
  refine exists_congr fun root => and_congr_right fun hroot => ?_
  have hbuffer : root.buffer = b :=
    (View.find_eq_ok_iff.mp (Envelope.find_eq_ok_iff.mp hroot).2.2.2).2.1
  simp only [seq_eq_ok, lift_eq_ok, View.check_eq_ok_iff, hbuffer]
  constructor
  -- what the first check says of the type slot is said again by the second
  · rintro ⟨-, h⟩
    split at h
    · exact nomatch h
    · next type' hcode =>
      simp only [seq_eq_ok, lift_eq_ok, View.check_eq_ok_iff, hbuffer, guard_eq_ok,
        pure_eq_ok] at h
      obtain ⟨hsound, hsome, rfl⟩ := h
      rw [Option.isNone_iff_eq_none] at hsome
      exact ⟨hcode, hsound, Option.isSome_iff_ne_none.mpr hsome⟩
  · rintro ⟨hcode, hsound, hsome⟩
    rw [hcode]
    have hpresent : ¬ (root.position? Envelope.messageSlot).isNone := fun hnone =>
      Option.isSome_iff_ne_none.mp hsome (Option.isNone_iff_eq_none.mp hnone)
    simp only [seq_eq_ok, lift_eq_ok, View.check_eq_ok_iff, hbuffer, guard_eq_ok, pure_eq_ok]
    exact ⟨⟨hsound.1, trivial⟩, hsound, hpresent, trivial⟩

/-- A message that verifies has the table of a record, and it is sound. -/
theorem exists_message_of_verify {b : ByteArray} {type : RecordType} (h : verify b = .ok type) :
    ∃ root message, Envelope.find b = .ok root ∧ Envelope.message root = .ok message ∧
      root.Sits ∧ root.buffer = b ∧ message.Sits ∧ message.buffer = b ∧
      View.Sound b.size (Envelope.layout type) root 0 ∧
      View.Sound b.size type.layout message 0 := by
  obtain ⟨root, hroot, -, hsound, hsome⟩ := verify_eq_ok_iff.mp h
  obtain ⟨hroot', hbuffer, -⟩ := View.find_eq_ok_iff.mp (Envelope.find_eq_ok_iff.mp hroot).2.2.2
  obtain ⟨position, hposition⟩ := Option.isSome_iff_exists.mp hsome
  obtain ⟨message, hchild, -, hinner⟩ := hsound.2.1.2 position hposition
  obtain ⟨hsits, hbuffer'⟩ := View.sits_of_childFrom hchild
  refine ⟨root, message, hroot, ?_, hroot', hbuffer, hsits, hbuffer'.trans hbuffer, hsound, hinner⟩
  rw [Envelope.message_eq_ok_iff, View.child?_of_some hposition, hchild]
  rfl

end ReleaseFeed.Wire

namespace ReleaseFeed.Record
open Wire

theorem decode_eq_ok_iff {b : ByteArray} {r : Record} :
    decode b = .ok r ↔ ∃ type root message t, verify b = .ok type ∧ Envelope.find b = .ok root ∧
      Envelope.message root = .ok message ∧ message.read type.layout 0 = .ok t ∧
      ofTable type t = r := by
  simp only [decode, bind_eq_ok, lift_eq_ok, pure_eq_ok]
  constructor
  · rintro ⟨type, hverify, root, hroot, message, hmessage, t, hread, hr⟩
    exact ⟨type, root, message, t, hverify, hroot, hmessage, hread, hr⟩
  · rintro ⟨type, root, message, t, hverify, hroot, hmessage, hread, hr⟩
    exact ⟨type, hverify, root, hroot, message, hmessage, t, hread, hr⟩

/-- No step after a check fails. -/
theorem exists_decode_of_verify {b : ByteArray} {type : RecordType} (h : verify b = .ok type) :
    ∃ r, decode b = .ok r := by
  obtain ⟨root, message, hroot, hmessage, -, -, hsits, hbuffer, -, hsound⟩ :=
    exists_message_of_verify h
  obtain ⟨t, hread⟩ := View.read_of_sound hsits hsound (Nat.le_of_eq (congrArg _ hbuffer.symm))
  exact ⟨_, decode_eq_ok_iff.mpr ⟨type, root, message, t, h, hroot, hmessage, hread, rfl⟩⟩

/-- A log message with a text and with a timestamp that has no offset, and nothing else. -/
def sparse : ByteArray :=
  ⟨#[12, 0, 0, 0, 8, 0, 12, 0, 8, 0, 4, 0, 8, 0, 0, 0, 24, 0, 0, 0, 3, 0, 0, 0,
    14, 0, 12, 0, 4, 0, 0, 0, 0, 0, 0, 0, 8, 0, 0, 0, 16, 0, 0, 0, 16, 0, 0, 0, 24, 0, 0, 0,
    6, 0, 12, 0, 4, 0, 0, 0, 8, 0, 0, 0, 7, 0, 0, 0, 0, 0, 0, 0, 2, 0, 0, 0, 111, 107]⟩

theorem decode_sparse :
    decode sparse = .ok (.log { timestamp := ⟨7, 0⟩, message := "ok" }) := by
  decide +kernel

end ReleaseFeed.Record
