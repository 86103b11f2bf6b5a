import ReleaseFeed.Proofs.Text.Lines

/-! # Quoted texts and back

A quoted text is read from its opening quote on, one character after the other: what a backslash
stands before is an escape, and the first quote without one ends the text.  `unquote?` undoes what
`quoted` does (`unquote?_quoted`).  Each written form is the form of one character
(`unquoteFrom_quotedChar`), so different texts are different in quotes, too.

A scan that only looks for the end of the quotes gets along with less: after an escape it is inside
again (`through_quoted`).
-/
namespace ReleaseFeed.Text

/-! ## Undoing escapes -/

/-- How far an escape has been read. -/
inductive EscapeState where
  /-- No backslash stands before. -/
  | outside
  | afterBackslash
  /-- The brace before a code point comes next. -/
  | beforeBrace
  /-- The hexadecimal digits so far. -/
  | digits (value : Nat)

/-- The character that the letter of an escape stands for. -/
def unescaped? (letter : Char) : Option Char :=
  if letter = '0' then some '\x00'
  else if letter = 't' then some '\t'
  else if letter = 'r' then some '\r'
  else if letter = 'n' then some '\n'
  else if letter = '"' ∨ letter = '\\' then some letter
  else none

/-- The value of a hexadecimal digit. -/
def hexDigit? (c : Char) : Option Nat :=
  if isDigit c then some (digitValue c)
  else if 'a' ≤ c ∧ c ≤ 'f' then some (c.toNat - 'a'.toNat + 10)
  else none

/-- The text up to the closing quote, which is the last character. -/
def unquoteFrom : EscapeState → List Char → Option (List Char)
  | .outside, c :: rest =>
    if c = '"' then if rest.isEmpty then some [] else none
    else if c = '\\' then unquoteFrom .afterBackslash rest
    else (unquoteFrom .outside rest).map (c :: ·)
  | .afterBackslash, c :: rest =>
    if c = 'u' then unquoteFrom .beforeBrace rest
    else (unescaped? c).bind fun shown => (unquoteFrom .outside rest).map (shown :: ·)
  | .beforeBrace, c :: rest => if c = '\x7b' then unquoteFrom (.digits 0) rest else none
  | .digits value, c :: rest =>
    if c = '\x7d' then (unquoteFrom .outside rest).map (Char.ofNat value :: ·)
    else (hexDigit? c).bind fun digit => unquoteFrom (.digits (16 * value + digit)) rest
  | _, [] => none

/-- The text that is in quotes; nothing for what is no quoted text. -/
def unquote? : List Char → Option (List Char)
  | '"' :: rest => unquoteFrom .outside rest
  | _ => none

theorem unquoteFrom_digit {d : Nat} (hd : d < 16) (value : Nat) (rest : List Char) :
    unquoteFrom (.digits value) (Nat.digitChar d :: rest) =
      unquoteFrom (.digits (16 * value + d)) rest := by
  have hdigit : ∀ d < 16, hexDigit? (Nat.digitChar d) = some d ∧ Nat.digitChar d ≠ '\x7d' := by
    decide
  obtain ⟨hvalue, hbrace⟩ := hdigit d hd
  rw [unquoteFrom, if_neg hbrace, hvalue, Option.bind_some]

theorem unquoteFrom_hex (n : Nat) (rest : List Char) :
    unquoteFrom (.digits 0) (hex n ++ rest) = unquoteFrom (.digits n) rest := by
  unfold hex
  induction n using Nat.strongRecOn generalizing rest with
  | ind n ih =>
    rw [Nat.toDigits_eq_if (by decide)]
    by_cases hsmall : n < 16
    · rw [if_pos hsmall, List.singleton_append, unquoteFrom_digit hsmall]
      simp
    · -- the digits before the last one have been read as the number without it
      rw [if_neg hsmall, List.append_assoc, ih (n / 16) (by omega), List.singleton_append,
        unquoteFrom_digit (Nat.mod_lt n (by decide)), Nat.div_add_mod]

theorem unescaped?_of_escapeLetter? {c letter : Char} (h : escapeLetter? c = some letter) :
    letter ≠ 'u' ∧ unescaped? letter = some c := by
  unfold escapeLetter? at h
  split_ifs at h with h0 ht hr hn
  all_goals
    cases h
    subst c
    decide

theorem unquoteFrom_escape (c : Char) (rest : List Char) :
    unquoteFrom .outside (escape c ++ rest) = (unquoteFrom .outside rest).map (c :: ·) := by
  have hslash (rest : List Char) :
      unquoteFrom .outside ('\\' :: rest) = unquoteFrom .afterBackslash rest := by
    rw [unquoteFrom, if_neg (by decide), if_pos rfl]
  rw [escape]
  cases hletter : escapeLetter? c with
  | some letter =>
    obtain ⟨hu, hshown⟩ := unescaped?_of_escapeLetter? hletter
    show unquoteFrom .outside ('\\' :: letter :: rest) = _
    rw [hslash, unquoteFrom, if_neg hu, hshown, Option.bind_some]
  | none =>
    have hcode : codeEscape c ++ rest =
        '\\' :: 'u' :: '\x7b' :: (hex c.toNat ++ '\x7d' :: rest) := by
      simp [codeEscape]
    show unquoteFrom .outside (codeEscape c ++ rest) = _
    rw [hcode, hslash, unquoteFrom, if_pos rfl, unquoteFrom, if_pos rfl, unquoteFrom_hex,
      unquoteFrom, if_pos rfl, Char.ofNat_toNat]

theorem unquoteFrom_quotedChar (c : Char) (rest : List Char) :
    unquoteFrom .outside (quotedChar c ++ rest) = (unquoteFrom .outside rest).map (c :: ·) := by
  rw [quotedChar]
  by_cases hmark : c = '"' ∨ c = '\\'
  · have hshown : c ≠ 'u' ∧ unescaped? c = some c := by
      rcases hmark with rfl | rfl
      · decide
      · decide
    rw [if_pos hmark]
    show unquoteFrom .outside ('\\' :: c :: rest) = _
    rw [unquoteFrom, if_neg (by decide), if_pos rfl, unquoteFrom, if_neg hshown.1, hshown.2,
      Option.bind_some]
  rw [if_neg hmark]
  by_cases hescaped : (isExtender c || !isPrintable c) = true
  · rw [if_pos hescaped]
    exact unquoteFrom_escape c rest
  · obtain ⟨hquote, hslash⟩ := not_or.mp hmark
    rw [if_neg hescaped, List.singleton_append, unquoteFrom, if_neg hquote, if_neg hslash]

/-- A quoted text is read as the text. -/
theorem unquote?_quoted (s : String) : unquote? (quoted s).toList = some s.toList := by
  rw [quoted, String.toList_ofList]
  show unquoteFrom .outside (s.toList.flatMap quotedChar ++ ['"']) = some s.toList
  induction s.toList with
  | nil => rfl
  | cons c cs ih =>
    rw [List.flatMap_cons, List.append_assoc, unquoteFrom_quotedChar, ih]
    rfl

/-! ## Looking for the closing quote -/

/-- Where a scan of a line is, by the quotes that it has passed. -/
inductive QuoteState where
  | outside
  | inside
  /-- Inside, after a backslash. -/
  | escaped
deriving DecidableEq

/-- Where the scan is after a character. -/
def QuoteState.after : QuoteState → Char → QuoteState
  | outside, c => if c = '"' then inside else outside
  | inside, c => if c = '"' then outside else if c = '\\' then escaped else inside
  | escaped, _ => inside

/-- A space that separates what stands before it from what stands behind. -/
def QuoteState.separates (state : QuoteState) (c : Char) : Bool :=
  state = outside ∧ c = ' '

/-- Where the scan is after characters none of which separates; nothing if there is one that does. -/
def QuoteState.through : QuoteState → List Char → Option QuoteState
  | state, [] => some state
  | state, c :: rest => if state.separates c then none else (state.after c).through rest

namespace QuoteState

theorem through_append (state : QuoteState) (cs more : List Char) :
    state.through (cs ++ more) = (state.through cs).bind fun next => next.through more := by
  induction cs generalizing state with
  | nil => rfl
  | cons c cs ih =>
    rw [List.cons_append, through, through]
    by_cases hseparates : state.separates c = true
    · rw [if_pos hseparates, if_pos hseparates, Option.bind_none]
    · rw [if_neg hseparates, if_neg hseparates, ih]

theorem through_outside {cs : List Char} (h : ∀ c ∈ cs, c ≠ ' ' ∧ c ≠ '"') :
    outside.through cs = some outside := by
  induction cs with
  | nil => rfl
  | cons c cs ih =>
    obtain ⟨hspace, hquote⟩ := h c List.mem_cons_self
    have hseparates : outside.separates c = false := by simp [separates, hspace]
    rw [through, hseparates, after, if_neg hquote]
    exact ih fun c' hc' => h c' (List.mem_cons_of_mem _ hc')

theorem through_inside {cs : List Char} (h : ∀ c ∈ cs, c ≠ '"' ∧ c ≠ '\\') :
    inside.through cs = some inside := by
  induction cs with
  | nil => rfl
  | cons c cs ih =>
    obtain ⟨hquote, hslash⟩ := h c List.mem_cons_self
    have hseparates : inside.separates c = false := by simp [separates]
    rw [through, hseparates, after, if_neg hquote, if_neg hslash]
    exact ih fun c' hc' => h c' (List.mem_cons_of_mem _ hc')

/-- Whatever stands after a backslash, the scan is inside again. -/
theorem through_backslash (c : Char) (rest : List Char) :
    inside.through ('\\' :: c :: rest) = inside.through rest := by
  rfl

theorem through_escape (c : Char) : inside.through (escape c) = some inside := by
  rw [escape]
  cases escapeLetter? c with
  | some letter => rfl
  | none =>
    show inside.through ('\\' :: 'u' :: (['\x7b'] ++ (hex c.toNat) ++ ['\x7d'])) = some inside
    rw [through_backslash]
    refine through_inside fun shown hshown => ?_
    have hdigits : ∀ d < 16, Nat.digitChar d ≠ '"' ∧ Nat.digitChar d ≠ '\\' := by decide
    simp only [List.mem_append, List.mem_singleton] at hshown
    rcases hshown with (rfl | hdigit) | rfl
    · decide
    · obtain ⟨d, hd, rfl⟩ := mem_toDigits (by decide) hdigit
      exact hdigits d hd
    · decide

theorem through_quotedChar (c : Char) : inside.through (quotedChar c) = some inside := by
  rw [quotedChar]
  by_cases hmark : c = '"' ∨ c = '\\'
  · rw [if_pos hmark]
    rfl
  rw [if_neg hmark]
  by_cases hescaped : (isExtender c || !isPrintable c) = true
  · rw [if_pos hescaped]
    exact through_escape c
  · rw [if_neg hescaped]
    exact through_inside (List.forall_mem_singleton.mpr (not_or.mp hmark))

/-- No space in a quoted text separates, and after it the scan is outside again. -/
theorem through_quoted (s : String) : outside.through (quoted s).toList = some outside := by
  rw [quoted, String.toList_ofList]
  show inside.through (s.toList.flatMap quotedChar ++ ['"']) = some outside
  induction s.toList with
  | nil => rfl
  | cons c cs ih =>
    rw [List.flatMap_cons, List.append_assoc, through_append, through_quotedChar,
      Option.bind_some, ih]

end QuoteState

end ReleaseFeed.Text
