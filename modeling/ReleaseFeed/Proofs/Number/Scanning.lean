import Mathlib.Data.List.TakeWhile
import ReleaseFeed.Number.Numeral
import ReleaseFeed.Proofs.Text.Digits

/-! # The longest number at the start of a text

`Numeral.WellFormed` is the grammar of numbers, over the parts of a number, and `Spells` is the
set of texts that it spells.  Scanning takes the longest of them that the text starts with: what
is taken is in the grammar and is the start of the text (`scan?_sound`), and if the text starts
with a number, that much of it is taken at least (`scan?_append`).  Both are put together from
one lemma of each sort for every part of a number.  A number is scanned as itself if nothing
follows it (`scan?_spelling`), so a text spells one number only.
-/
namespace ReleaseFeed.Number
open Text

/-! ## Grammar -/

/-- A sign, which may be left out. -/
def IsSign (cs : List Char) : Prop :=
  cs ∈ [[], ['+'], ['-']]

/-- Digits only; none at all will do. -/
def AllDigits (cs : List Char) : Prop :=
  ∀ c ∈ cs, isDigit c = true

/-- A sign and at least one digit. -/
structure IsWhole (sign digits : List Char) : Prop where
  isSign : IsSign sign
  allDigits : AllDigits digits
  ne_nil : digits ≠ []

/-- An `e` in either case, and the power. -/
structure Exponent.WellFormed (x : Exponent) : Prop where
  mark : x.mark = 'e' ∨ x.mark = 'E'
  whole : IsWhole x.sign x.digits

/-- The numbers that there are. -/
inductive Numeral.WellFormed : Numeral → Prop where
  /-- A word in any case. -/
  | word {sign letters : List Char} (hsign : IsSign sign)
      (hword : ∃ w ∈ words, letters.map lowerAscii = w.toList) : WellFormed (.word sign letters)
  /-- Digits with an optional point among them, before or behind them; at least one digit. -/
  | decimal {sign whole : List Char} {fraction : Option (List Char)} {exponent : Option Exponent}
      (hsign : IsSign sign) (hwhole : AllDigits whole) (hplaces : AllDigits (fraction.getD []))
      (hdigits : whole ++ fraction.getD [] ≠ []) (hexponent : ∀ x ∈ exponent, x.WellFormed) :
      WellFormed (.decimal sign whole fraction exponent)

/-- The text is a number. -/
def Spells (cs : List Char) : Prop :=
  ∃ n : Numeral, n.WellFormed ∧ n.spelling = cs

/-- The text is a whole number. -/
def SpellsWhole (cs : List Char) : Prop :=
  ∃ sign digits, IsWhole sign digits ∧ sign ++ digits = cs

/-- Of the texts in a grammar, the longest that a text starts with. -/
structure LongestStart (grammar : List Char → Prop) (found cs : List Char) : Prop where
  starts : found <+: cs
  inGrammar : grammar found
  longest : ∀ other, other <+: cs → grammar other → other.length ≤ found.length

theorem LongestStart.unique {grammar : List Char → Prop} {found found' cs : List Char}
    (h : LongestStart grammar found cs) (h' : LongestStart grammar found' cs) : found = found' :=
  (List.prefix_of_prefix_length_le h.starts h'.starts
    (h'.longest _ h.starts h.inGrammar)).eq_of_length_le
    (h.longest _ h'.starts h'.inGrammar)

/-! ## Signs and digits -/

theorem splitSign_sound (cs : List Char) :
    IsSign (splitSign cs).1 ∧ (splitSign cs).1 ++ (splitSign cs).2 = cs := by
  rw [splitSign.eq_def]
  split
  · exact ⟨by simp [IsSign], rfl⟩
  · exact ⟨by simp [IsSign], rfl⟩
  · exact ⟨by simp [IsSign], rfl⟩

theorem splitSign_of_ne {c : Char} {rest : List Char} (hplus : c ≠ '+') (hminus : c ≠ '-') :
    splitSign (c :: rest) = ([], c :: rest) := by
  rw [splitSign.eq_def]
  split
  next h => exact absurd (List.cons.inj h).1 hplus
  next h => exact absurd (List.cons.inj h).1 hminus
  next => rfl

/-- A sign is taken whole, before anything that is no sign. -/
theorem splitSign_append {sign : List Char} (h : IsSign sign) {c : Char} {rest : List Char}
    (hplus : c ≠ '+') (hminus : c ≠ '-') :
    splitSign (sign ++ c :: rest) = (sign, c :: rest) := by
  simp only [IsSign, List.mem_cons, List.not_mem_nil, or_false] at h
  rcases h with rfl | rfl | rfl
  · exact splitSign_of_ne hplus hminus
  · rfl
  · rfl

theorem splitDigits_sound (cs : List Char) :
    AllDigits (splitDigits cs).1 ∧ (splitDigits cs).1 ++ (splitDigits cs).2 = cs :=
  ⟨fun _ hc => List.mem_takeWhile_imp hc, List.takeWhile_append_dropWhile⟩

/-- Digits are taken whole, with those that follow them. -/
theorem splitDigits_append {digits : List Char} (h : AllDigits digits) (cs : List Char) :
    splitDigits (digits ++ cs) = (digits ++ (splitDigits cs).1, (splitDigits cs).2) := by
  rw [splitDigits, splitDigits, List.takeWhile_append_of_pos h, List.dropWhile_append_of_pos h]

theorem splitDigits_of_not {c : Char} {rest : List Char} (h : isDigit c = false) :
    splitDigits (c :: rest) = ([], c :: rest) := by
  have hc : ¬ isDigit c = true := by simp [h]
  rw [splitDigits, List.takeWhile_cons_of_neg hc, List.dropWhile_cons_of_neg hc]

/-- What does not go on with a digit or a point. -/
def Stops (cs : List Char) : Prop :=
  ∀ c ∈ cs.head?, isDigit c = false ∧ c ≠ '.'

theorem splitDigits_of_stops {cs : List Char} (h : Stops cs) : splitDigits cs = ([], cs) := by
  cases cs with
  | nil => rfl
  | cons c rest => exact splitDigits_of_not (h c rfl).1

/-- The first of some digits is none of the other characters of a number. -/
theorem ne_sign_of_isDigit {c : Char} (h : isDigit c = true) : c ≠ '+' ∧ c ≠ '-' :=
  ⟨ne_of_isDigit h rfl, ne_of_isDigit h rfl⟩

/-! ## Whole numbers -/

/-- The sign and the digits at the start, and what follows them. -/
def splitWhole (cs : List Char) : List Char × List Char × List Char :=
  ((splitSign cs).1, splitDigits (splitSign cs).2)

theorem splitWhole_sound {cs sign digits rest : List Char}
    (h : splitWhole cs = (sign, digits, rest)) :
    IsSign sign ∧ AllDigits digits ∧ sign ++ (digits ++ rest) = cs := by
  obtain ⟨hsign, hafterSign⟩ := splitSign_sound cs
  obtain ⟨hdigits, hafterDigits⟩ := splitDigits_sound (splitSign cs).2
  obtain ⟨rfl, hrest⟩ := Prod.mk.inj h
  rw [hrest] at hdigits hafterDigits
  exact ⟨hsign, hdigits, by rw [hafterDigits, hafterSign]⟩

namespace IsWhole
variable {sign digits : List Char}

theorem splitSign_append (h : IsWhole sign digits) (cs : List Char) :
    splitSign (sign ++ (digits ++ cs)) = (sign, digits ++ cs) := by
  obtain ⟨d, ds, rfl⟩ := List.exists_cons_of_ne_nil h.ne_nil
  have hd := ne_sign_of_isDigit (h.allDigits d List.mem_cons_self)
  exact Number.splitSign_append h.isSign hd.1 hd.2

/-- A whole number is taken whole, with the digits that follow it. -/
theorem splitWhole_append (h : IsWhole sign digits) (cs : List Char) :
    splitWhole (sign ++ (digits ++ cs)) =
      (sign, digits ++ (splitDigits cs).1, (splitDigits cs).2) := by
  rw [splitWhole, h.splitSign_append, splitDigits_append h.allDigits]

/-- A text spells one whole number only. -/
theorem unique {sign' digits' : List Char} (h : IsWhole sign digits) (h' : IsWhole sign' digits')
    (heq : sign ++ digits = sign' ++ digits') : sign = sign' ∧ digits = digits' := by
  have hsplit := h.splitSign_append []
  rw [List.append_nil, heq, ← List.append_nil digits', h'.splitSign_append, List.append_nil]
    at hsplit
  obtain ⟨hsign, hdigits⟩ := Prod.mk.inj hsplit
  exact ⟨hsign.symm, hdigits.symm⟩

end IsWhole

/-- Splitting takes the longest whole number that a text starts with. -/
theorem longestStart_of_splitWhole {cs sign digits rest : List Char}
    (h : splitWhole cs = (sign, digits, rest)) (hne : digits ≠ []) :
    IsWhole sign digits ∧ LongestStart SpellsWhole (sign ++ digits) cs := by
  obtain ⟨hsign, hdigits, hcs⟩ := splitWhole_sound h
  have hwhole : IsWhole sign digits := ⟨hsign, hdigits, hne⟩
  refine ⟨hwhole, ⟨rest, by rw [List.append_assoc, hcs]⟩, ⟨_, _, hwhole, rfl⟩, ?_⟩
  rintro _ ⟨tail, htail⟩ ⟨sign', digits', hwhole', rfl⟩
  have hsplit := hwhole'.splitWhole_append tail
  rw [← List.append_assoc, htail, h] at hsplit
  cases hsplit
  rw [List.length_append, List.length_append, List.length_append]
  omega

/-- A text that has no digits behind the sign starts with no whole number. -/
theorem not_spellsWhole_of_splitWhole {cs sign rest : List Char}
    (h : splitWhole cs = (sign, [], rest)) : ∀ found, found <+: cs → ¬ SpellsWhole found := by
  rintro _ ⟨tail, htail⟩ ⟨sign', digits', hwhole', rfl⟩
  have hsplit := hwhole'.splitWhole_append tail
  rw [← List.append_assoc, htail, h] at hsplit
  obtain ⟨-, hdigits⟩ := Prod.mk.inj hsplit
  exact hwhole'.ne_nil (List.append_eq_nil_iff.mp (Prod.mk.inj hdigits).1.symm).1

/-! ## Words -/

theorem splitWord?_sound {cs letters rest : List Char} (h : splitWord? cs = some (letters, rest)) :
    (∃ w ∈ words, letters.map lowerAscii = w.toList) ∧ letters ++ rest = cs := by
  rw [splitWord?, Option.map_eq_some_iff] at h
  obtain ⟨w, hfind, hsplit⟩ := h
  rw [List.splitAt_eq, Prod.mk.injEq] at hsplit
  obtain ⟨rfl, rfl⟩ := hsplit
  have hmatch := List.find?_some hfind
  exact ⟨⟨w, List.mem_of_find?_eq_some hfind, eq_of_beq hmatch⟩, List.take_append_drop _ _⟩

theorem length_of_map_lowerAscii {letters : List Char} {w : String}
    (h : letters.map lowerAscii = w.toList) : letters.length = w.length := by
  rw [← List.length_map (f := lowerAscii), h, String.length_toList]

/-- Every word starts with one of two letters. -/
theorem head_of_mem_words {w : String} (hw : w ∈ words) :
    ∃ c rest, w.toList = c :: rest ∧ (c = 'i' ∨ c = 'n') := by
  have hheads : ∀ v ∈ words, v.toList.head? ∈ [some 'i', some 'n'] := by decide
  have hhead := hheads w hw
  simp only [List.mem_cons, List.not_mem_nil, or_false, List.head?_eq_some_iff] at hhead
  rcases hhead with ⟨rest, hrest⟩ | ⟨rest, hrest⟩
  · exact ⟨_, rest, hrest, .inl rfl⟩
  · exact ⟨_, rest, hrest, .inr rfl⟩

theorem letters_eq_cons {letters : List Char} {w : String} (hw : w ∈ words)
    (hletters : letters.map lowerAscii = w.toList) :
    ∃ c rest, letters = c :: rest ∧ (lowerAscii c = 'i' ∨ lowerAscii c = 'n') := by
  obtain ⟨first, more, hfirst, hin⟩ := head_of_mem_words hw
  rw [hfirst, List.map_eq_cons_iff] at hletters
  obtain ⟨c, rest, rfl, rfl, -⟩ := hletters
  exact ⟨c, rest, rfl, hin⟩

/-- A word is found where it stands, or one that it is the start of. -/
theorem splitWord?_append {letters : List Char} {w : String} (hw : w ∈ words)
    (hletters : letters.map lowerAscii = w.toList) (cs : List Char) :
    ∃ more rest, splitWord? (letters ++ cs) = some (letters ++ more, rest) ∧
      (cs = [] → more = []) := by
  have hlength := length_of_map_lowerAscii hletters
  have hfits : (((letters ++ cs).take w.length).map lowerAscii == w.toList) = true := by
    rw [← hlength, List.take_left, hletters]
    exact beq_self_eq_true _
  -- only the longest word is found before another one
  have hfound : ∃ w', words.find? (fun v =>
      ((letters ++ cs).take v.length).map lowerAscii == v.toList) = some w' ∧
        w.length ≤ w'.length := by
    by_cases hinfinity : w = "infinity"
    · subst hinfinity
      exact ⟨_, List.find?_cons_of_pos hfits, Nat.le_refl _⟩
    · have hsome : (words.find? fun v =>
          ((letters ++ cs).take v.length).map lowerAscii == v.toList).isSome :=
        List.find?_isSome.mpr ⟨w, hw, hfits⟩
      obtain ⟨w', hfind⟩ := Option.isSome_iff_exists.mp hsome
      have hshort : ∀ v ∈ words, 3 ≤ v.length ∧ (v ≠ "infinity" → v.length = 3) := by decide
      have hw' := (hshort w' (List.mem_of_find?_eq_some hfind)).1
      exact ⟨w', hfind, by rwa [(hshort w hw).2 hinfinity]⟩
  obtain ⟨w', hfind, hle⟩ := hfound
  refine ⟨cs.take (w'.length - letters.length), cs.drop (w'.length - letters.length), ?_, ?_⟩
  · rw [splitWord?, hfind, Option.map_some, List.splitAt_eq, List.take_append, List.drop_append,
      List.take_of_length_le (by omega), List.drop_of_length_le (by omega), List.nil_append]
  · rintro rfl
    exact List.take_nil

/-- No word starts with a digit or a point. -/
theorem splitWord?_of_not_letter {c : Char} {rest : List Char} (h : isDigit c = true ∨ c = '.') :
    splitWord? (c :: rest) = none := by
  have hcapital : ¬ 'A' ≤ c := by
    rcases h with h | rfl
    · rw [isDigit, Bool.and_eq_true, decide_eq_true_eq, decide_eq_true_eq] at h
      exact fun hA => absurd (Char.le_trans hA h.2) (by decide)
    · decide
  have hlower : lowerAscii c = c := by
    rw [lowerAscii, if_neg (by simp [hcapital])]
  have hnone : words.find? (fun w => ((c :: rest).take w.length).map lowerAscii == w.toList) =
      none := by
    refine List.find?_eq_none.mpr fun w hw hfits => ?_
    obtain ⟨d, ds, htake, hd⟩ := letters_eq_cons hw (eq_of_beq hfits)
    have hcd : c = d := by
      cases hlength : w.length with
      | zero =>
        rw [hlength] at htake
        cases htake
      | succ k =>
        rw [hlength, List.take_succ_cons] at htake
        exact (List.cons.inj htake).1
    subst hcd
    rw [hlower] at hd
    rcases hd with rfl | rfl <;> exact absurd h (by decide)
  rw [splitWord?, hnone, Option.map_none]

/-! ## Exponents -/

theorem splitExponent_sound (cs : List Char) :
    (∀ x ∈ (splitExponent cs).1, x.WellFormed) ∧
      (splitExponent cs).1.elim [] Exponent.spelling ++ (splitExponent cs).2 = cs := by
  cases cs with
  | nil => exact ⟨nofun, rfl⟩
  | cons mark afterMark =>
    rw [splitExponent]
    split
    case isFalse => exact ⟨nofun, rfl⟩
    case isTrue hmark =>
      obtain ⟨hsign, hafterSign⟩ := splitSign_sound afterMark
      obtain ⟨hdigits, hafterDigits⟩ := splitDigits_sound (splitSign afterMark).2
      dsimp only
      split
      case isTrue => exact ⟨nofun, rfl⟩
      case isFalse hne =>
        refine ⟨?_, ?_⟩
        · rintro x hx
          cases hx
          exact ⟨hmark, hsign, hdigits, fun h => hne (List.isEmpty_iff.mpr h)⟩
        · show mark :: ((splitSign afterMark).1 ++ (splitDigits (splitSign afterMark).2).1) ++
            (splitDigits (splitSign afterMark).2).2 = mark :: afterMark
          rw [List.cons_append, List.append_assoc, hafterDigits, hafterSign]

/-- An exponent is taken whole, with the digits that follow it. -/
theorem splitExponent_append {x : Exponent} (h : x.WellFormed) (cs : List Char) :
    splitExponent (x.spelling ++ cs) =
      (some { x with digits := x.digits ++ (splitDigits cs).1 }, (splitDigits cs).2) := by
  obtain ⟨mark, sign, digits⟩ := x
  obtain ⟨hmark, hwhole⟩ := h
  have hsome : (digits ++ (splitDigits cs).1).isEmpty = false := by simp [hwhole.ne_nil]
  rw [Exponent.spelling, List.cons_append, List.append_assoc, splitExponent, if_pos hmark,
    hwhole.splitSign_append]
  dsimp only
  rw [splitDigits_append hwhole.allDigits, hsome]
  rfl

/-! ## Digits and the point -/

theorem splitMantissa?_sound {cs whole rest : List Char} {fraction : Option (List Char)}
    (h : splitMantissa? cs = some (whole, fraction, rest)) :
    AllDigits whole ∧ AllDigits (fraction.getD []) ∧ whole ++ fraction.getD [] ≠ [] ∧
      whole ++ (fraction.elim [] ('.' :: ·) ++ rest) = cs := by
  obtain ⟨hwhole, hafterWhole⟩ := splitDigits_sound cs
  rw [splitMantissa?] at h
  dsimp only at h
  split at h
  next afterPoint hpoint =>
    obtain ⟨hplaces, hafterPlaces⟩ := splitDigits_sound afterPoint
    split at h
    case isTrue => cases h
    case isFalse hne =>
      cases h
      refine ⟨hwhole, hplaces, fun hnil => hne ?_, ?_⟩
      · rw [List.append_eq_nil_iff] at hnil
        rw [hnil.1, show (splitDigits afterPoint).1 = [] from hnil.2]
        rfl
      · show _ ++ ('.' :: (splitDigits afterPoint).1 ++ _) = cs
        rw [List.cons_append, hafterPlaces, ← hpoint, hafterWhole]
  next =>
    split at h
    case isTrue => cases h
    case isFalse hne =>
      cases h
      refine ⟨hwhole, nofun, fun hnil => hne ?_, hafterWhole⟩
      rw [Option.getD_none, List.append_nil] at hnil
      rw [hnil]
      rfl

theorem splitMantissa?_of_point {cs whole afterPoint : List Char}
    (h : splitDigits cs = (whole, '.' :: afterPoint)) :
    splitMantissa? cs =
      if whole.isEmpty && (splitDigits afterPoint).1.isEmpty then none
      else some (whole, some (splitDigits afterPoint).1, (splitDigits afterPoint).2) := by
  rw [splitMantissa?, h]
  rfl

theorem splitMantissa?_of_no_point {cs whole rest : List Char} (h : splitDigits cs = (whole, rest))
    (hpoint : rest.head? ≠ some '.') :
    splitMantissa? cs = if whole.isEmpty then none else some (whole, none, rest) := by
  rw [splitMantissa?, h]
  dsimp only
  split
  next => exact absurd rfl hpoint
  next => rfl

/-- Digits with a point among them are taken whole, with the digits that follow them. -/
theorem splitMantissa?_append_point {whole places : List Char} (hwhole : AllDigits whole)
    (hplaces : AllDigits places) (hne : whole ++ places ≠ []) (cs : List Char) :
    splitMantissa? (whole ++ ('.' :: places ++ cs)) =
      some (whole, some (places ++ (splitDigits cs).1), (splitDigits cs).2) := by
  have hdigits : splitDigits (whole ++ ('.' :: places ++ cs)) = (whole, '.' :: (places ++ cs)) := by
    rw [splitDigits_append hwhole, List.cons_append, splitDigits_of_not (by decide),
      List.append_nil]
  have hsome : ¬ (whole.isEmpty && (places ++ (splitDigits cs).1).isEmpty) = true := by
    rw [Bool.and_eq_true, List.isEmpty_iff, List.isEmpty_iff]
    rintro ⟨rfl, hnil⟩
    exact hne (List.append_eq_nil_iff.mp hnil).1
  rw [splitMantissa?_of_point hdigits, splitDigits_append hplaces, if_neg hsome]

/-- Digits are taken whole, with the digits that follow them, and perhaps a point and more. -/
theorem splitMantissa?_append_digits {whole : List Char} (hwhole : AllDigits whole)
    (hne : whole ≠ []) (cs : List Char) :
    ∃ fraction rest, splitMantissa? (whole ++ cs) =
      some (whole ++ (splitDigits cs).1, fraction, rest) ∧
        (Stops cs → fraction = none ∧ rest = cs) := by
  have hdigits := splitDigits_append hwhole cs
  have hsome : (whole ++ (splitDigits cs).1).isEmpty = false := by simp [hne]
  by_cases hpoint : (splitDigits cs).2.head? = some '.'
  · obtain ⟨afterPoint, hrest⟩ := List.head?_eq_some_iff.mp hpoint
    rw [hrest] at hdigits
    refine ⟨some (splitDigits afterPoint).1, (splitDigits afterPoint).2, ?_, fun hstops => ?_⟩
    · rw [splitMantissa?_of_point hdigits, hsome, Bool.false_and, if_neg Bool.false_ne_true]
    · rw [splitDigits_of_stops hstops] at hpoint
      exact absurd rfl (hstops '.' hpoint).2
  · refine ⟨none, (splitDigits cs).2, ?_, fun hstops => ⟨rfl, ?_⟩⟩
    · rw [splitMantissa?_of_no_point hdigits hpoint, hsome, if_neg Bool.false_ne_true]
    · rw [splitDigits_of_stops hstops]

/-- The digits and the point of a number are taken whole, and nothing more if they stop there. -/
theorem splitMantissa?_append {whole : List Char} {fraction : Option (List Char)}
    (hwhole : AllDigits whole) (hplaces : AllDigits (fraction.getD []))
    (hne : whole ++ fraction.getD [] ≠ []) (cs : List Char) :
    ∃ whole' fraction' rest,
      splitMantissa? (whole ++ (fraction.elim [] ('.' :: ·) ++ cs)) =
          some (whole', fraction', rest) ∧
        (whole ++ fraction.elim [] ('.' :: ·)).length ≤
          (whole' ++ fraction'.elim [] ('.' :: ·)).length ∧
        (Stops cs → whole' = whole ∧ fraction' = fraction ∧ rest = cs) := by
  cases fraction with
  | some places =>
    refine ⟨_, _, _, splitMantissa?_append_point hwhole hplaces hne cs, ?_, fun hstops => ?_⟩
    · simp
    · rw [splitDigits_of_stops hstops, List.append_nil]
      exact ⟨rfl, rfl, rfl⟩
  | none =>
    rw [Option.getD_none, List.append_nil] at hne
    obtain ⟨fraction', rest, hsplit, hstops⟩ := splitMantissa?_append_digits hwhole hne cs
    refine ⟨_, fraction', rest, hsplit, ?_, fun h => ?_⟩
    · simp only [Option.elim_none, List.append_nil, List.length_append]
      omega
    · obtain ⟨rfl, rfl⟩ := hstops h
      rw [splitDigits_of_stops h, List.append_nil]
      exact ⟨rfl, rfl, rfl⟩

/-- A number without a word starts with a digit or a point. -/
theorem mantissa_eq_cons {whole : List Char} {fraction : Option (List Char)}
    (hwhole : AllDigits whole) (hne : whole ++ fraction.getD [] ≠ []) (cs : List Char) :
    ∃ c rest, whole ++ (fraction.elim [] ('.' :: ·) ++ cs) = c :: rest ∧
      (isDigit c = true ∨ c = '.') := by
  cases whole with
  | cons d ds => exact ⟨d, _, rfl, .inl (hwhole d List.mem_cons_self)⟩
  | nil =>
    cases fraction with
    | some places => exact ⟨'.', _, rfl, .inr rfl⟩
    | none => exact absurd rfl hne

/-! ## Numbers -/

namespace Numeral

/-- What is scanned is a number, and the start of the text. -/
theorem scan?_sound {cs rest : List Char} {n : Numeral} (h : scan? cs = some (n, rest)) :
    n.WellFormed ∧ n.spelling ++ rest = cs := by
  obtain ⟨hsign, hafterSign⟩ := splitSign_sound cs
  rw [scan?] at h
  dsimp only at h
  split at h
  next letters rest' hword =>
    cases h
    obtain ⟨hletters, hafterWord⟩ := splitWord?_sound hword
    refine ⟨.word hsign hletters, ?_⟩
    rw [spelling, List.append_assoc, hafterWord, hafterSign]
  next =>
    split at h
    next => cases h
    next whole fraction rest' hmantissa =>
      cases h
      obtain ⟨hwhole, hplaces, hne, hafterMantissa⟩ := splitMantissa?_sound hmantissa
      obtain ⟨hexponent, hafterExponent⟩ := splitExponent_sound rest'
      refine ⟨.decimal hsign hwhole hplaces hne hexponent, ?_⟩
      rw [spelling, List.append_assoc, List.append_assoc, List.append_assoc, hafterExponent,
        hafterMantissa, hafterSign]

theorem scan?_of_mantissa {cs sign afterSign whole rest : List Char}
    {fraction : Option (List Char)} (hsign : splitSign cs = (sign, afterSign))
    (hword : splitWord? afterSign = none)
    (hmantissa : splitMantissa? afterSign = some (whole, fraction, rest)) :
    scan? cs =
      some (decimal sign whole fraction (splitExponent rest).1, (splitExponent rest).2) := by
  simp only [scan?, hsign, hword, hmantissa]

theorem stops_spelling {x : Exponent} (h : x.WellFormed) (cs : List Char) :
    Stops (x.spelling ++ cs) := by
  rintro c hc
  cases hc
  rcases h.mark with hmark | hmark <;> rw [hmark] <;> decide

/-- A word is scanned where one stands, behind the sign. -/
theorem scan?_word {sign letters : List Char} {w : String} (hsign : IsSign sign) (hw : w ∈ words)
    (hletters : letters.map lowerAscii = w.toList) (cs : List Char) :
    ∃ more rest, scan? (sign ++ (letters ++ cs)) = some (word sign (letters ++ more), rest) ∧
      (cs = [] → more = []) := by
  obtain ⟨more, rest, hword, hnil⟩ := splitWord?_append hw hletters cs
  refine ⟨more, rest, ?_, hnil⟩
  obtain ⟨c, tail, rfl, hc⟩ := letters_eq_cons hw hletters
  have hnosign : c ≠ '+' ∧ c ≠ '-' := by
    constructor <;> (rintro rfl; exact absurd hc (by decide))
  have hsplit : splitSign (sign ++ (c :: tail ++ cs)) = (sign, c :: tail ++ cs) :=
    splitSign_append hsign hnosign.1 hnosign.2
  simp only [scan?, hsplit, hword]

/-- Digits and the point are scanned where they stand, behind the sign, and what follows them is
scanned as an exponent. -/
theorem scan?_digits {sign whole : List Char} {fraction : Option (List Char)}
    (hsign : IsSign sign) (hwhole : AllDigits whole) (hplaces : AllDigits (fraction.getD []))
    (hne : whole ++ fraction.getD [] ≠ []) (cs : List Char) :
    ∃ whole' fraction' rest,
      scan? (sign ++ (whole ++ (fraction.elim [] ('.' :: ·) ++ cs))) =
          some (decimal sign whole' fraction' (splitExponent rest).1, (splitExponent rest).2) ∧
        (whole ++ fraction.elim [] ('.' :: ·)).length ≤
          (whole' ++ fraction'.elim [] ('.' :: ·)).length ∧
        (Stops cs → whole' = whole ∧ fraction' = fraction ∧ rest = cs) := by
  obtain ⟨whole', fraction', rest, hmantissa, hrest⟩ := splitMantissa?_append hwhole hplaces hne cs
  refine ⟨whole', fraction', rest, ?_, hrest⟩
  obtain ⟨c, tail, hbody, hc⟩ := mantissa_eq_cons hwhole hne cs
  rw [hbody] at hmantissa ⊢
  have hnosign : c ≠ '+' ∧ c ≠ '-' := by
    rcases hc with hc | rfl
    · exact ne_sign_of_isDigit hc
    · decide
  exact scan?_of_mantissa (splitSign_append hsign hnosign.1 hnosign.2)
    (splitWord?_of_not_letter hc) hmantissa

/-- If a text starts with a number, that much of it is scanned at least, and just the number if
nothing follows. -/
theorem scan?_append {n : Numeral} (h : n.WellFormed) (cs : List Char) :
    ∃ n' rest, scan? (n.spelling ++ cs) = some (n', rest) ∧
      n.spelling.length ≤ n'.spelling.length ∧ (cs = [] → n' = n) := by
  cases h with
  | @word sign letters hsign hword =>
    obtain ⟨w, hw, hletters⟩ := hword
    obtain ⟨more, rest, hscan, hnil⟩ := scan?_word hsign hw hletters cs
    refine ⟨.word sign (letters ++ more), rest, ?_, ?_, fun hcs => ?_⟩
    · rw [spelling, List.append_assoc, hscan]
    · simp only [spelling, List.length_append]
      omega
    · rw [hnil hcs, List.append_nil]
  | @decimal sign whole fraction exponent hsign hwhole hplaces hne hexponent =>
    -- what follows the digits and the point
    set after := exponent.elim [] Exponent.spelling ++ cs with hafter
    obtain ⟨whole', fraction', rest, hscan, hlength, hstops⟩ :=
      scan?_digits hsign hwhole hplaces hne after
    have hcs : spelling (.decimal sign whole fraction exponent) ++ cs =
        sign ++ (whole ++ (fraction.elim [] ('.' :: ·) ++ after)) := by
      simp only [spelling, hafter, List.append_assoc]
    refine ⟨_, _, hcs ▸ hscan, ?_⟩
    cases exponent with
    | none =>
      refine ⟨?_, fun hnil => ?_⟩
      · simp only [spelling, Option.elim_none, List.append_nil, List.append_assoc]
        simp only [List.length_append] at hlength ⊢
        omega
      · subst hnil
        obtain ⟨rfl, rfl, rfl⟩ := hstops nofun
        rfl
    | some x =>
      have hx := hexponent x rfl
      obtain ⟨rfl, rfl, rfl⟩ := hstops (stops_spelling hx cs)
      rw [hafter, Option.elim_some, splitExponent_append hx]
      refine ⟨?_, fun hnil => ?_⟩
      · simp only [spelling, Option.elim_some, Exponent.spelling, List.length_append,
          List.length_cons]
        omega
      · subst hnil
        simp [splitDigits]

/-- A number is scanned as itself. -/
theorem scan?_spelling {n : Numeral} (h : n.WellFormed) : scan? n.spelling = some (n, []) := by
  obtain ⟨n', rest, hscan, -, hsame⟩ := scan?_append h []
  rw [List.append_nil] at hscan
  obtain rfl := hsame rfl
  have hrest := (scan?_sound hscan).2
  rw [hscan, List.append_right_eq_self.mp hrest]

/-- A text spells one number only. -/
theorem spelling_injOn {n m : Numeral} (hn : n.WellFormed) (hm : m.WellFormed)
    (h : n.spelling = m.spelling) : n = m := by
  have hscan := scan?_spelling hn
  rw [h, scan?_spelling hm] at hscan
  cases hscan
  rfl

/-- **Scanning takes the longest number that a text starts with.** -/
theorem scan?_eq_some_iff {cs : List Char} {n : Numeral} :
    (∃ rest, scan? cs = some (n, rest)) ↔ n.WellFormed ∧ LongestStart Spells n.spelling cs := by
  constructor
  · rintro ⟨rest, hscan⟩
    obtain ⟨hn, rfl⟩ := scan?_sound hscan
    refine ⟨hn, List.prefix_append _ _, ⟨n, hn, rfl⟩, ?_⟩
    rintro _ ⟨tail, htail⟩ ⟨m, hm, rfl⟩
    obtain ⟨n', rest', hscan', hle, -⟩ := scan?_append hm tail
    rw [htail, hscan] at hscan'
    cases hscan'
    exact hle
  · rintro ⟨hn, ⟨tail, rfl⟩, -, hlongest⟩
    obtain ⟨n', rest, hscan, hle, -⟩ := scan?_append hn tail
    obtain ⟨hn', hrest⟩ := scan?_sound hscan
    have hge := hlongest n'.spelling ⟨rest, hrest⟩ ⟨n', hn', rfl⟩
    have hspelling : n'.spelling = n.spelling :=
      List.append_inj_left hrest (Nat.le_antisymm hge hle)
    exact ⟨rest, spelling_injOn hn' hn hspelling ▸ hscan⟩

/-- An exponent without digits is no part of the number. -/
example : scan? "3e+x".toList = some (.decimal [] ['3'] none none, "e+x".toList) := by decide

theorem scan?_eq_none_iff {cs : List Char} :
    scan? cs = none ↔ ∀ found, found <+: cs → ¬ Spells found := by
  constructor
  · rintro hnone _ ⟨tail, rfl⟩ ⟨m, hm, rfl⟩
    obtain ⟨n', rest, hscan, -⟩ := scan?_append hm tail
    rw [hnone] at hscan
    cases hscan
  · intro h
    cases hscan : scan? cs with
    | none => rfl
    | some found =>
      obtain ⟨hn, hrest⟩ := scan?_sound hscan
      exact absurd ⟨_, hn, rfl⟩ (h _ ⟨_, hrest⟩)

end Numeral

end ReleaseFeed.Number
