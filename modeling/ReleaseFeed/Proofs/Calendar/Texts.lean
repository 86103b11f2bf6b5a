import ReleaseFeed.Proofs.Calendar.Readings
import ReleaseFeed.Proofs.Text.Numbers

/-! # Texts of timestamps

A timestamp is shown as a date, a time and an offset where it has all three, and by its raw parts where it
has not.  From either text it is found again, by the numbers in it and the marks between them
(`readZoned?_zonedText`, `readRaw?_rawText`), and a `T` tells the two kinds of text apart
(`zonedText_ne_rawText`).  So no two timestamps have the same text (`Timestamp.lossless`).
-/
namespace ReleaseFeed
open Text

/-! ## Dates and times -/

namespace Date

/-- The sign of a year that is not written with four digits alone. -/
def yearMarks (year : Int) : List Char :=
  if 0 ≤ year ∧ year ≤ 9999 then [] else if year < 0 then ['-'] else ['+']

theorem marks_yearText (year : Int) : marks (yearText year).toList = yearMarks year := by
  have hminus : "-".toList = ['-'] := by decide
  have hplus : "+".toList = ['+'] := by decide
  unfold yearText yearMarks
  split_ifs
  · exact marks_padded 4 _
  · rw [String.toList_append, hminus, List.singleton_append, marks_cons_mark rfl, marks_padded]
  · rw [String.toList_append, hplus, List.singleton_append, marks_cons_mark rfl, marks_padded]

theorem numbers_yearText (year : Int) : numbers (yearText year).toList = [year.natAbs] := by
  have hminus : "-".toList = ['-'] := by decide
  have hplus : "+".toList = ['+'] := by decide
  unfold yearText
  split_ifs
  · exact numbers_padded 4 _
  · rw [String.toList_append, hminus, List.singleton_append, numbers_cons_mark rfl, numbers_padded]
  · rw [String.toList_append, hplus, List.singleton_append, numbers_cons_mark rfl, numbers_padded]

end Date

namespace Timestamp

/-! ## The two kinds of text -/

/-- A reading with its offset: date, time to the microsecond, sign and size of the offset. -/
def zonedText (w : WallClock) (offset : Int) : String :=
  w.date.text ++ "T" ++ w.time.clockText ++ "." ++ padded 6 (w.time.nanos / 1000) ++ zoneText offset

/-- Microseconds and offset as they are. -/
def rawText (micros : Nat) (offset : Int) : String :=
  toString micros ++ "us" ++ signed offset ++ "m"

/-- The sign of an offset. -/
def signMark (offset : Int) : Char :=
  if offset < 0 then '-' else '+'

/-- The number behind a sign. -/
def behindSign (sign : Char) (n : Nat) : Int :=
  if sign = '-' then -n else n

theorem behindSign_signMark (n : Int) : behindSign (signMark n) n.natAbs = n := by
  unfold behindSign signMark
  split_ifs <;> first | omega | simp_all

/-- The characters of a text of the first kind, one number after the other. -/
theorem toList_zonedText {w : WallClock} (h : w.time.Valid) (offset : Int) :
    (zonedText w offset).toList =
      (Date.yearText w.date.year).toList ++ '-' :: ((padded 2 w.date.month).toList ++
        '-' :: ((padded 2 w.date.day).toList ++ 'T' :: ((padded 2 w.time.hour).toList ++
        ':' :: ((padded 2 w.time.minute).toList ++ ':' :: ((padded 2 w.time.second).toList ++
        '.' :: ((padded 6 (w.time.nanos / 1000)).toList ++
        signMark offset :: ((padded 2 (offset.natAbs / 60)).toList ++
        ':' :: (padded 2 (offset.natAbs % 60)).toList))))))) := by
  have hsign : (if offset < 0 then "-" else "+").toList = [signMark offset] := by
    unfold signMark
    split_ifs <;> decide
  have hhyphen : "-".toList = ['-'] := by decide
  have hT : "T".toList = ['T'] := by decide
  have hcolon : ":".toList = [':'] := by decide
  have hpoint : ".".toList = ['.'] := by decide
  simp only [zonedText, Date.text, TimeOfDay.clockText, zoneText, if_pos h.nanos_lt,
    String.toList_append, hsign, hhyphen, hT, hcolon, hpoint, List.append_assoc,
    List.cons_append, List.nil_append]

theorem toList_rawText (micros : Nat) (offset : Int) : (rawText micros offset).toList =
    (toString micros).toList ++ 'u' :: 's' :: signMark offset ::
      ((toString offset.natAbs).toList ++ ['m']) := by
  have hus : "us".toList = ['u', 's'] := by decide
  have hm : "m".toList = ['m'] := by decide
  have hsigned : (signed offset).toList = signMark offset :: (toString offset.natAbs).toList := by
    have hminus : "-".toList = ['-'] := by decide
    have hplus : "+".toList = ['+'] := by decide
    unfold signed signMark
    split_ifs
    · rw [String.toList_append, hminus, List.singleton_append]
    · rw [String.toList_append, hplus, List.singleton_append]
  simp only [rawText, String.toList_append, hus, hm, hsigned, List.append_assoc, List.cons_append,
    List.nil_append]

theorem not_isDigit_signMark (offset : Int) : isDigit (signMark offset) = false := by
  unfold signMark
  split_ifs <;> rfl

theorem numbers_zonedText {w : WallClock} (h : w.time.Valid) (offset : Int) :
    numbers (zonedText w offset).toList =
      [w.date.year.natAbs, w.date.month, w.date.day, w.time.hour, w.time.minute, w.time.second,
        w.time.nanos / 1000, offset.natAbs / 60, offset.natAbs % 60] := by
  rw [toList_zonedText h, numbers_append_mark rfl, numbers_append_mark rfl, numbers_append_mark rfl,
    numbers_append_mark rfl, numbers_append_mark rfl, numbers_append_mark rfl,
    numbers_append_mark (not_isDigit_signMark offset), numbers_append_mark rfl,
    Date.numbers_yearText]
  simp only [numbers_padded, List.singleton_append]

theorem marks_zonedText {w : WallClock} (h : w.time.Valid) (offset : Int) :
    marks (zonedText w offset).toList =
      Date.yearMarks w.date.year ++ ['-', '-', 'T', ':', ':', '.', signMark offset, ':'] := by
  rw [toList_zonedText h, marks_append_mark rfl, marks_append_mark rfl, marks_append_mark rfl,
    marks_append_mark rfl, marks_append_mark rfl, marks_append_mark rfl,
    marks_append_mark (not_isDigit_signMark offset), marks_append_mark rfl, Date.marks_yearText]
  simp only [marks_padded, List.nil_append]

theorem numbers_rawText (micros : Nat) (offset : Int) :
    numbers (rawText micros offset).toList = [micros, offset.natAbs] := by
  rw [toList_rawText, numbers_append_mark rfl, numbers_cons_mark rfl,
    numbers_cons_mark (not_isDigit_signMark offset), numbers_append_mark rfl, numbers_nat,
    numbers_nat]
  rfl

theorem marks_rawText (micros : Nat) (offset : Int) :
    marks (rawText micros offset).toList = ['u', 's', signMark offset, 'm'] := by
  rw [toList_rawText, marks_append_mark rfl, marks_cons_mark rfl,
    marks_cons_mark (not_isDigit_signMark offset), marks_append_mark rfl, marks_nat, marks_nat]
  rfl

/-- The two kinds of text are never the same. -/
theorem zonedText_ne_rawText (w : WallClock) (offset : Int) (micros : Nat) (minutes : Int) :
    zonedText w offset ≠ rawText micros minutes := by
  intro hsame
  have hmem : 'T' ∈ (zonedText w offset).toList := by
    have hT : "T".toList = ['T'] := by decide
    simp [zonedText, hT]
  have hmark : 'T' ∈ marks (rawText micros minutes).toList := by
    rw [← hsame]
    exact List.mem_filter.mpr ⟨hmem, rfl⟩
  rw [marks_rawText, signMark] at hmark
  split_ifs at hmark
  · exact absurd hmark (by decide)
  · exact absurd hmark (by decide)

/-! ## Reading -/

/-- The reading and the offset that a text of the first kind shows. -/
def readZoned? (s : String) : Option (WallClock × Int) :=
  match numbers s.toList, marks s.toList with
  | [year, month, day, hour, minute, second, micros, zoneHours, zoneMinutes],
    [_, _, _, _, _, _, zoneSign, _] =>
    some (⟨⟨year, month, day⟩, ⟨hour, minute, second, micros * 1000⟩⟩,
      behindSign zoneSign (zoneHours * 60 + zoneMinutes))
  | [year, month, day, hour, minute, second, micros, zoneHours, zoneMinutes],
    [yearSign, _, _, _, _, _, _, zoneSign, _] =>
    some (⟨⟨behindSign yearSign year, month, day⟩, ⟨hour, minute, second, micros * 1000⟩⟩,
      behindSign zoneSign (zoneHours * 60 + zoneMinutes))
  | _, _ => none

/-- The microseconds and the offset that a text of the second kind shows. -/
def readRaw? (s : String) : Option (Nat × Int) :=
  match numbers s.toList, marks s.toList with
  | [micros, minutes], [_, _, sign, _] => some (micros, behindSign sign minutes)
  | _, _ => none

theorem readZoned?_zonedText {w : WallClock} (h : w.time.Valid) (hcut : w.time.nanos % 1000 = 0)
    (offset : Int) : readZoned? (zonedText w offset) = some (w, offset) := by
  have hmicros : w.time.nanos / 1000 * 1000 = w.time.nanos := by omega
  have hoffset : behindSign (signMark offset) (offset.natAbs / 60 * 60 + offset.natAbs % 60) =
      offset := by
    rw [Nat.div_add_mod', behindSign_signMark]
  rw [readZoned?, numbers_zonedText h, marks_zonedText h, Date.yearMarks]
  split_ifs with hfour hneg
  · have hyear : (w.date.year.natAbs : Int) = w.date.year := by omega
    simp only [List.nil_append, hmicros, hoffset, hyear]
  · have hyear : behindSign '-' w.date.year.natAbs = w.date.year := by
      rw [behindSign, if_pos rfl]
      omega
    simp only [List.singleton_append, hmicros, hoffset, hyear]
  · have hyear : behindSign '+' w.date.year.natAbs = w.date.year := by
      rw [behindSign, if_neg (by decide)]
      omega
    simp only [List.singleton_append, hmicros, hoffset, hyear]

theorem readRaw?_rawText (micros : Nat) (offset : Int) :
    readRaw? (rawText micros offset) = some (micros, offset) := by
  rw [readRaw?, numbers_rawText, marks_rawText]
  dsimp only
  rw [behindSign_signMark]

/-! ## Which text a timestamp has -/

/-- The offset is less than a day, and the calendar has both the reading and the reading in UTC. -/
structure Zoned (t : Timestamp) : Prop where
  offset_lt : t.offset.toInt.natAbs < 24 * 60
  reading : ∃ w : WallClock, w.Valid ∧ w.micros = t.micros.toNat
  shifted : ∃ w : WallClock, w.Valid ∧ w.micros = t.micros.toNat - t.offset.toInt * 60_000_000

variable {t t' : Timestamp}

theorem zoned_iff : t.Zoned ↔ t.instant?.isSome = true := by
  have hparts : t.instant?.isSome = true ↔ t.hasZone = true ∧ t.wallClock?.isSome = true ∧
      (WallClock.ofMicros? t.utcMicros).isSome = true := by
    rw [instant?]
    split_ifs with h
    · simpa only [Bool.and_eq_true, and_assoc, Option.isSome_some, true_iff] using h
    · simpa only [Bool.and_eq_true, and_assoc, Option.isSome_none, Bool.false_eq_true, false_iff]
        using h
  rw [hparts, wallClock?, WallClock.isSome_ofMicros?_iff, WallClock.isSome_ofMicros?_iff, hasZone,
    decide_eq_true_eq]
  exact ⟨fun h => ⟨h.offset_lt, h.reading, h.shifted⟩, fun h => ⟨h.1, h.2.1, h.2.2⟩⟩

/-- A text of the first kind shows the reading itself, and is read as that. -/
theorem text_of_zoned (h : t.Zoned) :
    ∃ w, t.wallClock? = some w ∧ t.text = zonedText w t.offset.toInt ∧
      readZoned? t.text = some (w, t.offset.toInt) := by
  obtain ⟨instant, hinstant⟩ := Option.isSome_iff_exists.mp (zoned_iff.mp h)
  obtain ⟨w, hw⟩ := Option.isSome_iff_exists.mp (WallClock.isSome_ofMicros?_iff.mpr h.reading)
  have hwall : t.wallClock? = some w := hw
  have htext : t.text = zonedText w t.offset.toInt := by
    rw [text, hinstant, hwall]
    rfl
  obtain ⟨hvalid, hcut, -⟩ := WallClock.ofMicros?_eq_some_iff.mp hw
  exact ⟨w, hwall, htext, by rw [htext, readZoned?_zonedText hvalid.time hcut]⟩

theorem text_of_not_zoned (h : ¬ t.Zoned) :
    t.text = rawText t.micros.toNat t.offset.toInt := by
  have hnone : t.instant? = none := by
    rwa [zoned_iff, Option.not_isSome_iff_eq_none] at h
  rw [text, hnone]
  rfl

theorem read_text_of_not_zoned (h : ¬ t.Zoned) :
    readRaw? t.text = some (t.micros.toNat, t.offset.toInt) := by
  rw [text_of_not_zoned h, readRaw?_rawText]

theorem text_ne_of_zoned (h : t.Zoned) (h' : ¬ t'.Zoned) : t.text ≠ t'.text := by
  obtain ⟨w, -, htext, -⟩ := text_of_zoned h
  rw [htext, text_of_not_zoned h']
  exact zonedText_ne_rawText w _ _ _

/-- A timestamp is found again from its text. -/
theorem eq_of_text_eq (h : t.text = t'.text) : t = t' := by
  by_cases hzoned : t.Zoned
  · by_cases hzoned' : t'.Zoned
    · obtain ⟨w, hwall, -, hread⟩ := text_of_zoned hzoned
      obtain ⟨w', hwall', -, hread'⟩ := text_of_zoned hzoned'
      rw [h, hread', Option.some_inj, Prod.mk.injEq] at hread
      obtain ⟨rfl, hoffset⟩ := hread
      rw [← ofWallClock_of_wallClock? hwall, ← ofWallClock_of_wallClock? hwall',
        Int16.toInt_inj.mp hoffset]
    · exact absurd h (text_ne_of_zoned hzoned hzoned')
  · by_cases hzoned' : t'.Zoned
    · exact absurd h.symm (text_ne_of_zoned hzoned' hzoned)
    · have hread := read_text_of_not_zoned hzoned
      rw [h, read_text_of_not_zoned hzoned', Option.some_inj, Prod.mk.injEq] at hread
      obtain ⟨hmicros, hoffset⟩ := hread
      obtain ⟨micros, offset⟩ := t
      obtain ⟨micros', offset'⟩ := t'
      rw [mk.injEq, ← UInt64.toNat_inj, ← Int16.toInt_inj]
      exact ⟨hmicros.symm, hoffset.symm⟩

/-- What the text of a timestamp tells. -/
structure Lossless (t t' : Timestamp) : Prop where
  distinct : t.text = t'.text → t = t'
  /-- The first kind of text shows the reading itself, whatever the offset is. -/
  zoned : t.Zoned → ∃ w, t.wallClock? = some w ∧ t.text = zonedText w t.offset.toInt ∧
    readZoned? t.text = some (w, t.offset.toInt)
  /-- The second kind shows the parts as they are. -/
  raw : ¬ t.Zoned → t.text = rawText t.micros.toNat t.offset.toInt ∧
    readRaw? t.text = some (t.micros.toNat, t.offset.toInt)
  zoned_iff : t.Zoned ↔ ∃ w offset, t.text = zonedText w offset
  /-- No text of the first kind is one of the second. -/
  apart : ∀ w offset micros minutes, zonedText w offset ≠ rawText micros minutes

/-- **No two timestamps have the same text.** -/
theorem lossless (t t' : Timestamp) : Lossless t t' where
  distinct := eq_of_text_eq
  zoned := text_of_zoned
  raw h := ⟨text_of_not_zoned h, read_text_of_not_zoned h⟩
  zoned_iff := by
    constructor
    · intro h
      obtain ⟨w, -, htext, -⟩ := text_of_zoned h
      exact ⟨w, _, htext⟩
    · rintro ⟨w, offset, htext⟩
      by_contra h
      rw [text_of_not_zoned h] at htext
      exact zonedText_ne_rawText w offset _ _ htext.symm
  apart := zonedText_ne_rawText

end Timestamp

end ReleaseFeed
