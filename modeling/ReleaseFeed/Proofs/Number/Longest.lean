import ReleaseFeed.Proofs.Number.Offsets
import ReleaseFeed.Proofs.Wire.Numbers

/-! # Readings and counts are the longest numbers

A reading at the start of a text is the value of the longest number that the text starts with,
and a count is that of the longest run of digits with a sign (`readsLongest`).  There is none if
the text starts with no number, or if the number is too large: a decimal that rounds to infinity
(`Decimal.isFinite_toFloat`: there is no other way for one not to be finite), or a whole number
of more than 32 bits.
-/
namespace ReleaseFeed.Number
open Text

/-! ## Readings -/

theorem Decimal.magnitudeBits_le (d : Decimal) : d.magnitudeBits ≤ infinityBits := by
  rw [magnitudeBits]
  split_ifs
  · exact Nat.zero_le _
  · exact le_rfl
  · exact Nat.zero_le _
  · exact Nat.min_le_left _ _

/-- A decimal is rounded to a finite number or to infinity. -/
theorem Decimal.isFinite_toFloat (d : Decimal) : d.toFloat.isFinite = !d.toFloat.isInf := by
  refine Wire.isFinite_ofBits fun hexp => ?_
  have hle := d.magnitudeBits_le
  rw [show infinityBits = 2047 * 2 ^ 52 from rfl] at hle
  rw [UInt64.toNat_ofNat'] at hexp ⊢
  cases hnegative : d.negative <;> simp [hnegative] at hexp ⊢
  · omega
  · omega

/-- A decimal that is too large to be a reading. -/
def Numeral.Overflows (n : Numeral) : Prop :=
  n.isWord = false ∧ n.toFloat.isInf = true

instance (n : Numeral) : Decidable n.Overflows :=
  inferInstanceAs (Decidable (_ ∧ _))

theorem readingAtStart?_of_scan {cs rest : List Char} {n : Numeral}
    (h : Numeral.scan? (trimStart cs) = some (n, rest)) :
    readingAtStart? cs = if n.Overflows then none else some n.toFloat := by
  rw [readingAtStart?, h]
  cases n with
  | word sign letters => rfl
  | decimal sign whole fraction exponent =>
    have hfinite : (Numeral.decimal sign whole fraction exponent).toFloat.isFinite =
        !(Numeral.decimal sign whole fraction exponent).toFloat.isInf :=
      Decimal.isFinite_toFloat _
    simp only [Numeral.isWord, Numeral.Overflows, hfinite, Bool.false_or, true_and]
    cases (Numeral.decimal sign whole fraction exponent).toFloat.isInf <;> rfl

theorem readingAtStart?_of_longest {cs : List Char} {n : Numeral} (hn : n.WellFormed)
    (hlongest : LongestStart Spells n.spelling (trimStart cs)) :
    readingAtStart? cs = if n.Overflows then none else some n.toFloat := by
  obtain ⟨rest, hscan⟩ := Numeral.scan?_eq_some_iff.mpr ⟨hn, hlongest⟩
  exact readingAtStart?_of_scan hscan

theorem readingAtStart?_eq_none_iff {cs : List Char} : readingAtStart? cs = none ↔
    (∀ found, found <+: trimStart cs → ¬ Spells found) ∨
      ∃ n : Numeral, n.WellFormed ∧ LongestStart Spells n.spelling (trimStart cs) ∧
        n.Overflows := by
  constructor
  · intro hnone
    cases hscan : Numeral.scan? (trimStart cs) with
    | none => exact .inl (Numeral.scan?_eq_none_iff.mp hscan)
    | some found =>
      obtain ⟨n, rest⟩ := found
      obtain ⟨hn, hlongest⟩ := Numeral.scan?_eq_some_iff.mp ⟨rest, hscan⟩
      refine .inr ⟨n, hn, hlongest, ?_⟩
      by_contra hfinite
      rw [readingAtStart?_of_scan hscan, if_neg hfinite] at hnone
      cases hnone
  · rintro (hnone | ⟨n, hn, hlongest, hover⟩)
    · rw [readingAtStart?, Numeral.scan?_eq_none_iff.mpr hnone]
    · rw [readingAtStart?_of_longest hn hlongest, if_pos hover]

/-! ## Counts -/

/-- The number fits a signed word of 32 bits. -/
def FitsInt32 (value : Int) : Prop :=
  -2 ^ 31 ≤ value ∧ value < 2 ^ 31

instance (value : Int) : Decidable (FitsInt32 value) :=
  inferInstanceAs (Decidable (_ ∧ _))

theorem countAtStart?_of_split {cs sign digits rest : List Char}
    (h : splitWhole (trimStart cs) = (sign, digits, rest)) :
    countAtStart? cs =
      if digits ≠ [] ∧ FitsInt32 (signedValue sign digits) then some (signedValue sign digits)
      else none := by
  obtain ⟨hsign, hdigits⟩ := Prod.mk.inj h
  simp only [countAtStart?, hsign, hdigits]
  generalize signedValue sign digits = value
  have hnone : (digits.isEmpty || decide (value < -0x8000_0000) || decide (0x8000_0000 ≤ value)) =
      true ↔ ¬ (digits ≠ [] ∧ FitsInt32 value) := by
    rw [Bool.or_eq_true, Bool.or_eq_true, List.isEmpty_iff, decide_eq_true_eq, decide_eq_true_eq,
      FitsInt32]
    by_cases hempty : digits = []
    · simp [hempty]
    · simp only [hempty, false_or, ne_eq, not_false_eq_true, true_and]
      omega
  by_cases hfits : digits ≠ [] ∧ FitsInt32 value
  · rw [if_pos hfits, if_neg (by rw [hnone]; exact not_not_intro hfits)]
  · rw [if_neg hfits, if_pos (hnone.mpr hfits)]

/-- Where a whole number is found, the count is its value, if it fits. -/
theorem countAtStart?_of_longest {cs sign digits : List Char} (hwhole : IsWhole sign digits)
    (hlongest : LongestStart SpellsWhole (sign ++ digits) (trimStart cs)) :
    countAtStart? cs =
      if FitsInt32 (signedValue sign digits) then some (signedValue sign digits) else none := by
  rcases hsplit : splitWhole (trimStart cs) with ⟨sign', digits', rest⟩
  by_cases hne : digits' = []
  · subst hne
    exact absurd hlongest.inGrammar (not_spellsWhole_of_splitWhole hsplit _ hlongest.starts)
  · obtain ⟨hwhole', hlongest'⟩ := longestStart_of_splitWhole hsplit hne
    obtain ⟨rfl, rfl⟩ := hwhole.unique hwhole' (hlongest.unique hlongest')
    rw [countAtStart?_of_split hsplit]
    simp only [ne_eq, hne, not_false_eq_true, true_and]

theorem countAtStart?_eq_none_iff {cs : List Char} : countAtStart? cs = none ↔
    (∀ found, found <+: trimStart cs → ¬ SpellsWhole found) ∨
      ∃ sign digits, IsWhole sign digits ∧
        LongestStart SpellsWhole (sign ++ digits) (trimStart cs) ∧
        ¬ FitsInt32 (signedValue sign digits) := by
  constructor
  · intro hnone
    rcases hsplit : splitWhole (trimStart cs) with ⟨sign, digits, rest⟩
    by_cases hne : digits = []
    · subst hne
      exact .inl (not_spellsWhole_of_splitWhole hsplit)
    · obtain ⟨hwhole, hlongest⟩ := longestStart_of_splitWhole hsplit hne
      refine .inr ⟨sign, digits, hwhole, hlongest, fun hfits => ?_⟩
      rw [countAtStart?_of_longest hwhole hlongest, if_pos hfits] at hnone
      cases hnone
  · rintro (hnone | ⟨sign, digits, hwhole, hlongest, hfits⟩)
    · rcases hsplit : splitWhole (trimStart cs) with ⟨sign, digits, rest⟩
      rw [countAtStart?_of_split hsplit, if_neg]
      rintro ⟨hne, -⟩
      obtain ⟨-, hlongest⟩ := longestStart_of_splitWhole hsplit hne
      exact hnone _ hlongest.starts hlongest.inGrammar
    · rw [countAtStart?_of_longest hwhole hlongest, if_neg hfits]

/-! ## The longest numbers -/

/-- What is read at the start of a text. -/
structure ReadsLongest (cs : List Char) : Prop where
  /-- A reading is the value of the longest number, unless that is a decimal that overflows. -/
  reading : ∀ n : Numeral, n.WellFormed → LongestStart Spells n.spelling (trimStart cs) →
    readingAtStart? cs = if n.Overflows then none else some n.toFloat
  reading_none : readingAtStart? cs = none ↔
    (∀ found, found <+: trimStart cs → ¬ Spells found) ∨
      ∃ n : Numeral, n.WellFormed ∧ LongestStart Spells n.spelling (trimStart cs) ∧ n.Overflows
  /-- A count is the value of the longest whole number, if it fits. -/
  count : ∀ sign digits, IsWhole sign digits →
    LongestStart SpellsWhole (sign ++ digits) (trimStart cs) →
    countAtStart? cs =
      if FitsInt32 (signedValue sign digits) then some (signedValue sign digits) else none
  count_none : countAtStart? cs = none ↔
    (∀ found, found <+: trimStart cs → ¬ SpellsWhole found) ∨
      ∃ sign digits, IsWhole sign digits ∧
        LongestStart SpellsWhole (sign ++ digits) (trimStart cs) ∧
        ¬ FitsInt32 (signedValue sign digits)
  /-- The scan over the bytes takes no bad slice, and cuts out the longest number. -/
  reading_cut : (numeralText? (trimStart cs) = some none ∧
      ∀ found, found <+: trimStart cs → ¬ Spells found) ∨
    ∃ text, numeralText? (trimStart cs) = some (some text) ∧
      LongestStart Spells text (trimStart cs)
  count_cut : (wholeText? (trimStart cs) = some none ∧
      ∀ found, found <+: trimStart cs → ¬ SpellsWhole found) ∨
    ∃ text, wholeText? (trimStart cs) = some (some text) ∧
      LongestStart SpellsWhole text (trimStart cs)

/-- **What is read at the start of a text is the longest number there.** -/
theorem readsLongest (s : String) : ReadsLongest s.toList where
  reading _ hn hlongest := readingAtStart?_of_longest hn hlongest
  reading_none := readingAtStart?_eq_none_iff
  count _ _ hwhole hlongest := countAtStart?_of_longest hwhole hlongest
  count_none := countAtStart?_eq_none_iff
  reading_cut := by
    rw [numeralText?_eq]
    cases hscan : Numeral.scan? (trimStart s.toList) with
    | none => exact .inl ⟨rfl, Numeral.scan?_eq_none_iff.mp hscan⟩
    | some found => exact .inr ⟨_, rfl, (Numeral.scan?_eq_some_iff.mp ⟨found.2, hscan⟩).2⟩
  count_cut := by
    rcases hsplit : splitWhole (trimStart s.toList) with ⟨sign, digits, rest⟩
    rw [wholeText?_eq hsplit]
    by_cases hne : digits = []
    · subst hne
      exact .inl ⟨rfl, not_spellsWhole_of_splitWhole hsplit⟩
    · rw [if_neg hne]
      exact .inr ⟨_, rfl, (longestStart_of_splitWhole hsplit hne).2⟩

end ReleaseFeed.Number
