import ReleaseFeed.Proofs.Text.Digits
import ReleaseFeed.Text.Quoted

/-! # Texts that stay on one line

A line ends at a control character that is white space as well: a line feed, a vertical tab, a
form feed, a carriage return or a next line (`isLineBreak`).  So a text stays on one line if it
has no control characters, or no white space, and these are the two ways in which the texts of
the feed are written: escaped, or as they are where they have no white space
(`noControl_onOneLine`, `noControl_quoted`, `oneLine_of_not_isSpace`).

What the program writes by itself are digits and a few marks between them (`DigitsAnd`), and
from the list of the marks one sees which characters do not occur (`DigitsAnd.lacks`).  They are
`Plain`, and so are the labels: besides control characters they lack the bar, which stands between
the parts of a log record.
-/
namespace ReleaseFeed.Text
variable {c : Char} {s t : String} {marks more : List Char}

/-- A control character that ends a line. -/
def isLineBreak (c : Char) : Bool :=
  (0x0A ≤ c.toNat && c.toNat ≤ 0x0D) || c.toNat == 0x85

/-- No character ends a line. -/
def OneLine (s : String) : Prop :=
  ∀ c ∈ s.toList, isLineBreak c = false

instance (s : String) : Decidable (OneLine s) :=
  List.decidableBAll (fun c => isLineBreak c = false) s.toList

theorem OneLine.append (hs : OneLine s) (ht : OneLine t) : OneLine (s ++ t) := by
  intro c hc
  rw [String.toList_append, List.mem_append] at hc
  exact hc.elim (hs c) (ht c)

theorem not_isLineBreak_of_not_isControl (h : isControl c = false) : isLineBreak c = false := by
  simp only [isControl, isLineBreak, Bool.or_eq_false_iff, Bool.and_eq_false_iff,
    decide_eq_false_iff_not, beq_eq_false_iff_ne] at h ⊢
  omega

theorem not_isLineBreak_of_not_isSpace (h : isSpace c = false) : isLineBreak c = false := by
  simp only [isSpace, loneSpaces, isLineBreak, Bool.or_eq_false_iff, Bool.and_eq_false_iff,
    decide_eq_false_iff_not, beq_eq_false_iff_ne, List.contains_cons] at h ⊢
  omega

/-- No character is a control character. -/
def NoControl (s : String) : Prop :=
  ∀ c ∈ s.toList, isControl c = false

theorem NoControl.oneLine (h : NoControl s) : OneLine s :=
  fun c hc => not_isLineBreak_of_not_isControl (h c hc)

theorem noControl_ofList_iff {cs : List Char} :
    NoControl (String.ofList cs) ↔ ∀ c ∈ cs, isControl c = false := by
  rw [NoControl, String.toList_ofList]

theorem oneLine_of_not_isSpace (h : ∀ c ∈ s.toList, isSpace c = false) : OneLine s :=
  fun c hc => not_isLineBreak_of_not_isSpace (h c hc)

/-! ## Escapes -/

theorem mem_toDigits {b n : Nat} (hb : 1 < b) (hc : c ∈ Nat.toDigits b n) :
    ∃ d < b, c = Nat.digitChar d := by
  induction n using Nat.strongRecOn with
  | ind n ih =>
    rw [Nat.toDigits_eq_if hb] at hc
    by_cases hsmall : n < b
    · rw [if_pos hsmall] at hc
      exact ⟨n, hsmall, List.mem_singleton.mp hc⟩
    · rw [if_neg hsmall, List.mem_append] at hc
      rcases hc with hfront | hlast
      · exact ih (n / b) (Nat.div_lt_self (by omega) hb) hfront
      · exact ⟨n % b, Nat.mod_lt n (by omega), List.mem_singleton.mp hlast⟩

/-- The characters of an escape besides hexadecimal digits. -/
def escapeMarks : List Char :=
  ['\\', 'u', '\x7b', '\x7d', '0', 't', 'r', 'n']

theorem not_isControl_of_mem_escapeMarks (h : c ∈ escapeMarks) : isControl c = false := by
  have hnone : escapeMarks.any isControl = false := by decide
  exact Bool.eq_false_iff.mpr (List.any_eq_false.mp hnone c h)

theorem escapeLetter?_mem {letter : Char} (h : escapeLetter? c = some letter) :
    letter ∈ escapeMarks := by
  unfold escapeLetter? at h
  split_ifs at h
  all_goals
    cases h
    decide

theorem not_isControl_of_mem_escape {shown : Char} (h : shown ∈ escape c) :
    isControl shown = false := by
  rw [escape] at h
  cases hletter : escapeLetter? c with
  | some letter =>
    rw [hletter] at h
    rcases List.mem_cons.mp h with rfl | h
    · rfl
    · rw [List.mem_singleton.mp h]
      exact not_isControl_of_mem_escapeMarks (escapeLetter?_mem hletter)
  | none =>
    rw [hletter] at h
    simp only [codeEscape, hex, List.mem_append, List.mem_singleton] at h
    rcases h with (hopen | hdigit) | rfl
    · have hmark : shown ∈ escapeMarks :=
        List.mem_append_left ['\x7d', '0', 't', 'r', 'n'] hopen
      exact not_isControl_of_mem_escapeMarks hmark
    · obtain ⟨d, hd, rfl⟩ := mem_toDigits (by decide) hdigit
      have hdigits : ∀ d < 16, isControl (Nat.digitChar d) = false := by decide
      exact hdigits d hd
    · rfl

theorem noControl_onOneLine (s : String) : NoControl (onOneLine s) := by
  refine noControl_ofList_iff.mpr fun c hc => ?_
  obtain ⟨c', -, hshown⟩ := List.mem_flatMap.mp hc
  rw [lineChar] at hshown
  by_cases hcontrol : isControl c' = true
  · rw [if_pos hcontrol] at hshown
    exact not_isControl_of_mem_escape hshown
  · rw [if_neg hcontrol] at hshown
    rw [List.mem_singleton.mp hshown]
    exact Bool.eq_false_iff.mpr hcontrol

theorem not_isControl_of_mem_quotedChar {shown : Char} (h : shown ∈ quotedChar c) :
    isControl shown = false := by
  rw [quotedChar] at h
  split_ifs at h with hquote hescaped
  · rcases List.mem_cons.mp h with rfl | h
    · rfl
    · rw [List.mem_singleton.mp h]
      rcases hquote with rfl | rfl
      · rfl
      · rfl
  · exact not_isControl_of_mem_escape h
  · rw [Bool.or_eq_true, not_or, Bool.not_eq_true', Bool.not_eq_false] at hescaped
    rw [List.mem_singleton.mp h]
    exact not_isControl_of_isPrintable hescaped.2

theorem noControl_quoted (s : String) : NoControl (quoted s) := by
  refine noControl_ofList_iff.mpr fun c hc => ?_
  rcases List.mem_cons.mp hc with rfl | hc
  · rfl
  rcases List.mem_append.mp hc with hinner | hlast
  · obtain ⟨c', -, hshown⟩ := List.mem_flatMap.mp hinner
    exact not_isControl_of_mem_quotedChar hshown
  · rw [List.mem_singleton.mp hlast]
    rfl

/-! ## Digits and marks -/

/-- Every character is a decimal digit or one of these marks. -/
def DigitsAnd (marks : List Char) (s : String) : Prop :=
  ∀ c ∈ s.toList, isDigit c = true ∨ c ∈ marks

instance (marks : List Char) (s : String) : Decidable (DigitsAnd marks s) :=
  List.decidableBAll (fun c => isDigit c = true ∨ c ∈ marks) s.toList

theorem DigitsAnd.append (hs : DigitsAnd marks s) (ht : DigitsAnd marks t) :
    DigitsAnd marks (s ++ t) := by
  intro c hc
  rw [String.toList_append, List.mem_append] at hc
  exact hc.elim (hs c) (ht c)

theorem DigitsAnd.mono (h : DigitsAnd marks s) (hmarks : marks ⊆ more) : DigitsAnd more s :=
  fun c hc => (h c hc).imp_right fun hmark => hmarks hmark

/-- A character that is neither a digit nor one of the marks does not occur. -/
theorem DigitsAnd.lacks (h : DigitsAnd marks s) {p : Char → Bool}
    (hdigits : ∀ c, isDigit c = true → p c = false) (hmarks : marks.any p = false) :
    ∀ c ∈ s.toList, p c = false := by
  intro c hc
  rcases h c hc with hdigit | hmark
  · exact hdigits c hdigit
  · exact Bool.eq_false_iff.mpr (List.any_eq_false.mp hmarks c hmark)

theorem not_isLineBreak_of_isDigit (h : isDigit c = true) : isLineBreak c = false := by
  have hrange := isDigit_iff_toNat.mp h
  simp only [isLineBreak, Bool.or_eq_false_iff, Bool.and_eq_false_iff, decide_eq_false_iff_not,
    beq_eq_false_iff_ne]
  omega

theorem DigitsAnd.oneLine (h : DigitsAnd marks s) (hmarks : marks.any isLineBreak = false) :
    OneLine s :=
  h.lacks (fun _ => not_isLineBreak_of_isDigit) hmarks

theorem digitsAnd_padded (width n : Nat) : DigitsAnd marks (padded width n) :=
  fun _ hc => .inl (isDigit_of_mem_padded width n hc)

theorem digitsAnd_nat (n : Nat) : DigitsAnd marks (toString n) := by
  rw [toString_eq_padded]
  exact digitsAnd_padded 0 n

theorem digitsAnd_signed (n : Int) : DigitsAnd ['+', '-'] (signed n) := by
  rw [signed]
  split_ifs
  · exact DigitsAnd.append (by decide) (digitsAnd_nat _)
  · exact DigitsAnd.append (by decide) (digitsAnd_nat _)

/-! ## Parts between bars -/

/-- No character is a control character or a bar. -/
def Plain (s : String) : Prop :=
  ∀ c ∈ s.toList, (isControl c || c = '|') = false

instance (s : String) : Decidable (Plain s) :=
  List.decidableBAll (fun c => (isControl c || c = '|') = false) s.toList

namespace Plain

theorem append (hs : Plain s) (ht : Plain t) : Plain (s ++ t) := by
  intro c hc
  rw [String.toList_append, List.mem_append] at hc
  exact hc.elim (hs c) (ht c)

theorem noControl (h : Plain s) : NoControl s :=
  fun c hc => (Bool.or_eq_false_iff.mp (h c hc)).1

theorem ne_bar (h : Plain s) : ∀ c ∈ s.toList, c ≠ '|' :=
  fun c hc => of_decide_eq_false (Bool.or_eq_false_iff.mp (h c hc)).2

end Plain

theorem plain_of_digitsAnd (h : DigitsAnd marks s)
    (hmarks : marks.any (fun c => isControl c || c = '|') = false) : Plain s := by
  refine h.lacks (fun c hdigit => ?_) hmarks
  have hrange := isDigit_iff_toNat.mp hdigit
  simp only [isControl, Bool.or_eq_false_iff, Bool.and_eq_false_iff, decide_eq_false_iff_not]
  exact ⟨by omega, ne_of_isDigit hdigit rfl⟩

theorem plain_nat (n : Nat) : Plain (toString n) :=
  plain_of_digitsAnd (digitsAnd_nat n : DigitsAnd [] _) rfl

end ReleaseFeed.Text
