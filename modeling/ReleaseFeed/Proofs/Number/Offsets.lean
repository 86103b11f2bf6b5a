import ReleaseFeed.Proofs.Number.Scanning

/-! # Scanning by offsets into the bytes

A text that is kept as bytes is scanned by its bytes, and cut where the number ends.  Here is the
scan in this form, with every slice written out: an offset behind the end, or one inside of a
character, gives nothing (`bytesFrom?`, `cutAt?`), and so does the whole scan then.  It never
does, and it cuts out just the number that is scanned character by character
(`numeralText?_eq`, `wholeText?_eq`).

All that a number is made of takes one byte for a character, and no byte of any other character
could be taken for it.  So the offset that the scan has come to is always the number of the
characters before it (`Reached`).
-/
namespace ReleaseFeed.Number
open Text

/-! ## Bytes of a text -/

/-- The bytes of a text. -/
def utf8 (cs : List Char) : List UInt8 :=
  cs.flatMap String.utf8EncodeChar

theorem utf8_append (cs ds : List Char) : utf8 (cs ++ ds) = utf8 cs ++ utf8 ds :=
  List.flatMap_append

/-- The character takes one byte. -/
def IsAscii (c : Char) : Prop :=
  c.toNat < 128

instance (c : Char) : Decidable (IsAscii c) :=
  inferInstanceAs (Decidable (c.toNat < 128))

/-- A byte is the character that it starts, if it is a byte of ASCII. -/
theorem utf8_cons (c : Char) (cs : List Char) :
    ∃ b bs, utf8 (c :: cs) = b :: bs ∧
      (IsAscii c ∧ b.toNat = c.toNat ∧ bs = utf8 cs ∨ ¬ IsAscii c ∧ 128 ≤ b.toNat) := by
  have hvalue : c.val.toNat = c.toNat := rfl
  rw [utf8, List.flatMap_cons, String.utf8EncodeChar, IsAscii]
  split_ifs with h1 h2 h3
  · refine ⟨_, _, rfl, .inl ⟨by omega, ?_, rfl⟩⟩
    rw [UInt8.toNat_ofNat']
    omega
  · refine ⟨_, _, rfl, .inr ⟨by omega, ?_⟩⟩
    rw [UInt8.toNat_ofNat']
    omega
  · refine ⟨_, _, rfl, .inr ⟨by omega, ?_⟩⟩
    rw [UInt8.toNat_ofNat']
    omega
  · refine ⟨_, _, rfl, .inr ⟨by omega, ?_⟩⟩
    rw [UInt8.toNat_ofNat']
    omega

theorem length_utf8_of_ascii {cs : List Char} (h : ∀ c ∈ cs, IsAscii c) :
    (utf8 cs).length = cs.length := by
  induction cs with
  | nil => rfl
  | cons c cs ih =>
    obtain ⟨b, bs, heq, ⟨-, -, rfl⟩ | ⟨hc, -⟩⟩ := utf8_cons c cs
    · rw [heq, List.length_cons, List.length_cons, ih fun d hd => h d (List.mem_cons_of_mem _ hd)]
    · exact absurd (h c List.mem_cons_self) hc

theorem length_le_length_utf8 (cs : List Char) : cs.length ≤ (utf8 cs).length := by
  induction cs with
  | nil => exact Nat.le_refl _
  | cons c cs ih =>
    have hsize : 0 < (String.utf8EncodeChar c).length := by
      rw [String.length_utf8EncodeChar]
      exact c.utf8Size_pos
    rw [utf8, List.flatMap_cons, List.length_append, List.length_cons]
    rw [utf8] at ih
    omega

/-! ## Slices -/

/-- The bytes from an offset on, if the offset is not behind the end. -/
def bytesFrom? (bytes : List UInt8) (start : Nat) : Option (List UInt8) :=
  if start ≤ bytes.length then some (bytes.drop start) else none

/-- The text in two parts, the first of so many bytes, if it has so many and they end with a
character. -/
def cutAt? : List Char → Nat → Option (List Char × List Char)
  | cs, 0 => some ([], cs)
  | [], _ + 1 => none
  | c :: cs, n + 1 =>
    if c.utf8Size ≤ n + 1 then
      (cutAt? cs (n + 1 - c.utf8Size)).map fun (front, rest) => (c :: front, rest)
    else none

/-- The part of a text between two offsets. -/
def between? (cs : List Char) (start stop : Nat) : Option (List Char) :=
  (cutAt? cs start).bind fun (_, rest) => (cutAt? rest (stop - start)).map Prod.fst

theorem length_utf8_cons (c : Char) (cs : List Char) :
    (utf8 (c :: cs)).length = c.utf8Size + (utf8 cs).length := by
  rw [utf8, List.flatMap_cons, List.length_append, String.length_utf8EncodeChar]
  rfl

/-- A text is cut where the first part has so many bytes. -/
theorem cutAt?_eq_some_iff {cs front rest : List Char} {n : Nat} :
    cutAt? cs n = some (front, rest) ↔ front ++ rest = cs ∧ (utf8 front).length = n := by
  fun_induction cutAt? cs n generalizing front with
  | case1 cs =>
    constructor
    · intro h
      cases h
      exact ⟨rfl, rfl⟩
    · rintro ⟨rfl, hlength⟩
      have hle := length_le_length_utf8 front
      rw [hlength, Nat.le_zero, List.length_eq_zero_iff] at hle
      rw [hle]
      rfl
  | case2 n =>
    refine ⟨nofun, ?_⟩
    rintro ⟨hnil, hlength⟩
    rw [(List.append_eq_nil_iff.mp hnil).1] at hlength
    cases hlength
  | case3 c cs n hle ih =>
    rw [Option.map_eq_some_iff]
    constructor
    · rintro ⟨⟨front', rest'⟩, hcut, heq⟩
      cases heq
      obtain ⟨rfl, hlength⟩ := ih.mp hcut
      refine ⟨rfl, ?_⟩
      rw [length_utf8_cons, hlength]
      omega
    · rintro ⟨hcs, hlength⟩
      cases front with
      | nil => cases hlength
      | cons d front' =>
        obtain ⟨rfl, hrest⟩ := List.cons.inj hcs
        rw [length_utf8_cons] at hlength
        exact ⟨(front', rest), ih.mpr ⟨hrest, by omega⟩, rfl⟩
  | case4 c cs n hlt =>
    refine ⟨nofun, ?_⟩
    rintro ⟨hcs, hlength⟩
    cases front with
    | nil => cases hlength
    | cons d front' =>
      obtain ⟨rfl, -⟩ := List.cons.inj hcs
      rw [length_utf8_cons] at hlength
      omega

/-! ## What the characters of a number look like in bytes -/

/-- A byte that is an ASCII digit. -/
def isDigitByte (b : UInt8) : Bool :=
  '0'.toUInt8 ≤ b && b ≤ '9'.toUInt8

/-- How many bytes the sign at the start takes. -/
def signLength (bytes : List UInt8) : Nat :=
  if bytes.head? = some '+'.toUInt8 ∨ bytes.head? = some '-'.toUInt8 then 1 else 0

/-- How many digits there are from an offset on. -/
def digitsFrom? (bytes : List UInt8) (start : Nat) : Option Nat :=
  (bytesFrom? bytes start).map fun rest => (rest.takeWhile isDigitByte).length

theorem head?_utf8_eq_iff {c : Char} (hc : IsAscii c) (cs : List Char) :
    (utf8 cs).head? = some c.toUInt8 ↔ cs.head? = some c := by
  have hbyte : c.toUInt8.toNat = c.toNat := by
    rw [IsAscii] at hc
    show c.val.toNat % 256 = c.val.toNat
    exact Nat.mod_eq_of_lt (Nat.lt_trans hc (by decide))
  cases cs with
  | nil => exact ⟨nofun, nofun⟩
  | cons d ds =>
    obtain ⟨b, bs, heq, hb⟩ := utf8_cons d ds
    rw [heq, List.head?_cons, List.head?_cons, Option.some_inj, Option.some_inj]
    rw [IsAscii] at hb hc
    constructor
    · rintro rfl
      refine Char.ext (UInt32.toNat_inj.mp ?_)
      show d.toNat = c.toNat
      omega
    · rintro rfl
      exact UInt8.toNat_inj.mp (by omega)

theorem isDigitByte_iff_toNat (b : UInt8) :
    isDigitByte b = true ↔ 48 ≤ b.toNat ∧ b.toNat ≤ 57 := by
  rw [isDigitByte, Bool.and_eq_true, decide_eq_true_eq, decide_eq_true_eq, UInt8.le_iff_toNat_le,
    UInt8.le_iff_toNat_le]
  rfl

theorem signLength_utf8 (cs : List Char) : signLength (utf8 cs) = (splitSign cs).1.length := by
  have hplus := head?_utf8_eq_iff (by decide : IsAscii '+') cs
  have hminus := head?_utf8_eq_iff (by decide : IsAscii '-') cs
  simp only [signLength, hplus, hminus]
  split
  case isTrue h =>
    rcases h with h | h <;>
    · obtain ⟨rest, rfl⟩ := List.head?_eq_some_iff.mp h
      rfl
  case isFalse h =>
    cases cs with
    | nil => rfl
    | cons c rest =>
      rw [List.head?_cons, Option.some_inj, Option.some_inj, not_or] at h
      rw [splitSign_of_ne h.1 h.2]
      rfl

/-- There are as many digits among the bytes as among the characters. -/
theorem length_takeWhile_utf8 (cs : List Char) :
    ((utf8 cs).takeWhile isDigitByte).length = (splitDigits cs).1.length := by
  rw [splitDigits]
  induction cs with
  | nil => rfl
  | cons c cs ih =>
    obtain ⟨b, bs, heq, hb⟩ := utf8_cons c cs
    rw [heq, List.takeWhile_cons, List.takeWhile_cons]
    have hdigit : isDigitByte b = isDigit c := by
      rw [Bool.eq_iff_iff, isDigitByte_iff_toNat, isDigit_iff_toNat]
      rw [IsAscii] at hb
      omega
    rw [hdigit]
    cases hc : isDigit c with
    | false => rfl
    | true =>
      rcases hb with ⟨-, -, rfl⟩ | ⟨hnot, -⟩
      · simp only [if_true, List.length_cons, ih]
      · rw [isDigit_iff_toNat] at hc
        rw [IsAscii] at hnot
        omega

/-! ## Scanning bytes -/

/-- Where the word behind the sign ends, if there is one. -/
def wordEnd? (cs : List Char) (start : Nat) : Option Nat :=
  (words.find? fun word =>
    match between? cs start (start + word.length) with
    | some head => head.map lowerAscii == word.toList
    | none => false).map fun word => start + word.length

/-- Where the digits and the point behind the sign end, if there are any digits. -/
def mantissaEnd? (bytes : List UInt8) (start : Nat) : Option (Option Nat) := do
  let whole ← digitsFrom? bytes start
  let pointAt := start + whole
  let stop ←
    if bytes[pointAt]? = some '.'.toUInt8 then do
      let places ← digitsFrom? bytes (pointAt + 1)
      pure (if 0 < whole + places then pointAt + 1 + places else pointAt)
    else pure pointAt
  return if whole = 0 ∧ stop = start then none else some stop

/-- Where the exponent ends; where it would start if there is none. -/
def exponentEnd? (bytes : List UInt8) (start : Nat) : Option Nat :=
  if bytes[start]? = some 'e'.toUInt8 ∨ bytes[start]? = some 'E'.toUInt8 then do
    let sign := signLength (← bytesFrom? bytes (start + 1))
    let digits ← digitsFrom? bytes (start + 1 + sign)
    return if 0 < digits then start + 1 + sign + digits else start
  else some start

/-- The number that a text starts with, as a text, if there is one. -/
def numeralText? (cs : List Char) : Option (Option (List Char)) := do
  let bytes := utf8 cs
  let sign := signLength bytes
  match wordEnd? cs sign with
  | some stop =>
    let (text, _) ← cutAt? cs stop
    return some text
  | none =>
    match ← mantissaEnd? bytes sign with
    | none => return none
    | some stop =>
      let (text, _) ← cutAt? cs (← exponentEnd? bytes stop)
      return some text

/-- The sign and digits that a text starts with, as a text, if there are digits. -/
def wholeText? (cs : List Char) : Option (Option (List Char)) := do
  let bytes := utf8 cs
  let sign := signLength bytes
  let digits ← digitsFrom? bytes sign
  if digits = 0 then return none
  else
    let (text, _) ← cutAt? cs (sign + digits)
    return some text

/-! ## How far the scan has come -/

/-- The scan has come to an offset, with the rest of the text before it. -/
def Reached (cs : List Char) (n : Nat) (rest : List Char) : Prop :=
  ∃ front, front ++ rest = cs ∧ (∀ c ∈ front, IsAscii c) ∧ front.length = n

namespace Reached
variable {cs rest : List Char} {n : Nat}

theorem start (cs : List Char) : Reached cs 0 cs :=
  ⟨[], rfl, nofun, rfl⟩

/-- The scan goes on behind some of what has been left. -/
theorem advance (part : List Char) {rest' : List Char} (h : Reached cs n rest)
    (hrest : part ++ rest' = rest) (hascii : ∀ c ∈ part, IsAscii c) :
    Reached cs (n + part.length) rest' := by
  obtain ⟨front, hcs, hfront, hn⟩ := h
  refine ⟨front ++ part, ?_, ?_, ?_⟩
  · rw [List.append_assoc, hrest, hcs]
  · intro c hc
    exact (List.mem_append.mp hc).elim (hfront c) (hascii c)
  · rw [List.length_append, hn]

theorem cut (h : Reached cs n rest) :
    ∃ front, front ++ rest = cs ∧ cutAt? cs n = some (front, rest) := by
  obtain ⟨front, hcs, hfront, hn⟩ := h
  exact ⟨front, hcs, cutAt?_eq_some_iff.mpr ⟨hcs, (length_utf8_of_ascii hfront).trans hn⟩⟩

/-- The bytes from here on are those of the rest. -/
theorem bytes (h : Reached cs n rest) :
    n ≤ (utf8 cs).length ∧ (utf8 cs).drop n = utf8 rest := by
  obtain ⟨front, rfl, hfront, rfl⟩ := h
  have hlength := length_utf8_of_ascii hfront
  rw [utf8_append, List.length_append, hlength]
  refine ⟨Nat.le_add_right _ _, ?_⟩
  rw [← hlength, List.drop_left]

theorem bytesFrom? (h : Reached cs n rest) : bytesFrom? (utf8 cs) n = some (utf8 rest) := by
  rw [Number.bytesFrom?, if_pos h.bytes.1, h.bytes.2]

theorem digitsFrom? (h : Reached cs n rest) :
    digitsFrom? (utf8 cs) n = some (splitDigits rest).1.length := by
  rw [Number.digitsFrom?, h.bytesFrom?, Option.map_some, length_takeWhile_utf8]

theorem getElem?_eq_iff (h : Reached cs n rest) {c : Char} (hc : IsAscii c) :
    (utf8 cs)[n]? = some c.toUInt8 ↔ rest.head? = some c := by
  rw [← head?_utf8_eq_iff hc, ← h.bytes.2, List.head?_drop]

end Reached

/-! ## Numbers are ASCII -/

theorem AllDigits.isAscii {digits : List Char} (h : AllDigits digits) :
    ∀ c ∈ digits, IsAscii c := by
  intro c hc
  have hdigit := isDigit_iff_toNat.mp (h c hc)
  rw [IsAscii]
  omega

theorem IsSign.isAscii {sign : List Char} (h : IsSign sign) : ∀ c ∈ sign, IsAscii c := by
  have hall : ∀ sign ∈ [[], ['+'], ['-']], ∀ c ∈ sign, IsAscii c := by simp [IsAscii]
  exact hall sign h

theorem isAscii_of_lowerAscii {c : Char} (h : IsAscii (lowerAscii c)) : IsAscii c := by
  rw [lowerAscii] at h
  split at h
  case isTrue hcapital =>
    rw [Bool.and_eq_true, decide_eq_true_eq, decide_eq_true_eq] at hcapital
    have hle : c.toNat ≤ 'Z'.toNat := hcapital.2
    exact Nat.lt_of_le_of_lt hle (by decide)
  case isFalse => exact h

theorem isAscii_of_letters {letters : List Char} {w : String} (hw : w ∈ words)
    (hletters : letters.map lowerAscii = w.toList) : ∀ c ∈ letters, IsAscii c := by
  intro c hc
  have hall : ∀ v ∈ words, ∀ c ∈ v.toList, IsAscii c := by simp [words, IsAscii]
  exact isAscii_of_lowerAscii (hall w hw _ (hletters ▸ List.mem_map_of_mem hc))

theorem Exponent.WellFormed.isAscii {x : Exponent} (h : x.WellFormed) :
    ∀ c ∈ x.spelling, IsAscii c := by
  intro c hc
  rw [Exponent.spelling, List.mem_cons, List.mem_append] at hc
  rcases hc with rfl | hc | hc
  · rcases h.mark with hmark | hmark <;> rw [hmark] <;> decide
  · exact h.whole.isSign.isAscii c hc
  · exact h.whole.allDigits.isAscii c hc

theorem isAscii_of_fraction {fraction : Option (List Char)} (h : AllDigits (fraction.getD [])) :
    ∀ c ∈ fraction.elim [] ('.' :: ·), IsAscii c := by
  intro c hc
  cases fraction with
  | none => cases hc
  | some places =>
    rcases List.mem_cons.mp hc with rfl | hc
    · decide
    · exact h.isAscii c hc

theorem Numeral.WellFormed.isAscii {n : Numeral} (h : n.WellFormed) :
    ∀ c ∈ n.spelling, IsAscii c := by
  intro c hc
  cases h with
  | word hsign hword =>
    obtain ⟨w, hw, hletters⟩ := hword
    exact (List.mem_append.mp hc).elim (hsign.isAscii c) (isAscii_of_letters hw hletters c)
  | @decimal _ _ _ exponent hsign hwhole hplaces hdigits hexponent =>
    rw [Numeral.spelling, List.mem_append, List.mem_append, List.mem_append] at hc
    rcases hc with ((hc | hc) | hc) | hc
    · exact hsign.isAscii c hc
    · exact hwhole.isAscii c hc
    · exact isAscii_of_fraction hplaces c hc
    · cases exponent with
      | none => cases hc
      | some x => exact (hexponent x rfl).isAscii c hc

theorem cutAt?_append {front : List Char} (h : ∀ c ∈ front, IsAscii c) (rest : List Char) :
    cutAt? (front ++ rest) front.length = some (front, rest) :=
  cutAt?_eq_some_iff.mpr ⟨rfl, length_utf8_of_ascii h⟩

/-! ## The scan, part by part -/

section Parts
variable {cs rest : List Char} {n : Nat}

/-- A word stands between two offsets if its characters are the next ones. -/
theorem matches_between? (h : Reached cs n rest) {w : String} (hw : w ∈ words) :
    (match between? cs n (n + w.length) with
      | some head => head.map lowerAscii == w.toList
      | none => false) = ((rest.take w.length).map lowerAscii == w.toList) := by
  obtain ⟨front, -, hcut⟩ := h.cut
  have hbetween : between? cs n (n + w.length) = (cutAt? rest w.length).map Prod.fst := by
    rw [between?, hcut, Nat.add_sub_cancel_left]
    rfl
  rw [hbetween, Bool.eq_iff_iff]
  constructor
  · intro hmatch
    cases hcut' : cutAt? rest w.length with
    | none =>
      rw [hcut'] at hmatch
      cases hmatch
    | some found =>
      obtain ⟨head, tail⟩ := found
      rw [hcut'] at hmatch
      have hhead : head.map lowerAscii = w.toList := eq_of_beq hmatch
      rw [← (cutAt?_eq_some_iff.mp hcut').1, ← length_of_map_lowerAscii hhead, List.take_left]
      exact hmatch
  · intro hmatch
    have hletters : (rest.take w.length).map lowerAscii = w.toList := eq_of_beq hmatch
    have hcut' := cutAt?_append (isAscii_of_letters hw hletters) (rest.drop w.length)
    rw [List.take_append_drop, length_of_map_lowerAscii hletters] at hcut'
    rw [hcut']
    exact hmatch

theorem wordEnd?_eq (h : Reached cs n rest) :
    wordEnd? cs n = (splitWord? rest).map fun found => n + found.1.length := by
  have hfind : (words.find? fun word =>
      match between? cs n (n + word.length) with
      | some head => head.map lowerAscii == word.toList
      | none => false) =
        words.find? fun word => (rest.take word.length).map lowerAscii == word.toList := by
    rw [← List.head?_filter, ← List.head?_filter]
    exact congrArg List.head? (List.filter_congr fun w hw => matches_between? h hw)
  rw [wordEnd?, hfind, splitWord?, Option.map_map]
  cases hfound : words.find? fun word => (rest.take word.length).map lowerAscii == word.toList with
  | none => rfl
  | some w =>
    have hmatch := List.find?_some hfound
    have hlength := length_of_map_lowerAscii (eq_of_beq hmatch)
    rw [Option.map_some, Option.map_some, Function.comp, List.splitAt_eq, hlength]

theorem mantissaEnd?_eq (h : Reached cs n rest) :
    mantissaEnd? (utf8 cs) n = some ((splitMantissa? rest).map fun found =>
      n + (found.1 ++ found.2.1.elim [] ('.' :: ·)).length) := by
  have hsound := splitDigits_sound rest
  rcases hsplit : splitDigits rest with ⟨whole, after⟩
  rw [hsplit] at hsound
  have hpoint : Reached cs (n + whole.length) after := h.advance whole hsound.2 hsound.1.isAscii
  simp only [mantissaEnd?, h.digitsFrom?, hsplit, hpoint.getElem?_eq_iff (by decide : IsAscii '.'),
    Option.bind_eq_bind, Option.bind_some, Option.pure_def]
  split
  case isTrue hhead =>
    obtain ⟨afterPoint, rfl⟩ := List.head?_eq_some_iff.mp hhead
    have hplaces : Reached cs (n + whole.length + 1) afterPoint :=
      hpoint.advance ['.'] rfl (by simp [IsAscii])
    rw [hplaces.digitsFrom?, splitMantissa?_of_point hsplit, Option.bind_some]
    generalize (splitDigits afterPoint).1 = places
    by_cases hempty : whole.length + places.length = 0
    · rw [Nat.add_eq_zero_iff, List.length_eq_zero_iff, List.length_eq_zero_iff] at hempty
      obtain ⟨rfl, rfl⟩ := hempty
      simp
    · have hsome : ¬ (whole.isEmpty && places.isEmpty) = true := by
        rw [Bool.and_eq_true, List.isEmpty_iff_length_eq_zero, List.isEmpty_iff_length_eq_zero]
        omega
      rw [if_pos (by omega : 0 < whole.length + places.length), if_neg (by omega), if_neg hsome]
      simp only [Option.map_some, Option.elim_some, List.length_append, List.length_cons,
        Option.some_inj]
      omega
  case isFalse hhead =>
    rw [splitMantissa?_of_no_point hsplit hhead]
    cases whole with
    | nil => simp
    | cons d ds => simp

theorem exponentEnd?_eq (h : Reached cs n rest) :
    exponentEnd? (utf8 cs) n =
      some (n + ((splitExponent rest).1.elim [] Exponent.spelling).length) := by
  have he := h.getElem?_eq_iff (by decide : IsAscii 'e')
  have hE := h.getElem?_eq_iff (by decide : IsAscii 'E')
  simp only [exponentEnd?, he, hE]
  cases rest with
  | nil => rfl
  | cons mark afterMark =>
    simp only [List.head?_cons, Option.some_inj, splitExponent]
    split
    case isTrue hmark =>
      have hascii : ∀ c ∈ [mark], IsAscii c := by
        rintro c hc
        rw [List.mem_singleton.mp hc]
        rcases hmark with rfl | rfl <;> decide
      obtain ⟨hsign, hafterSign⟩ := splitSign_sound afterMark
      have hafterMark := h.advance [mark] rfl hascii
      have hdigits := hafterMark.advance _ hafterSign hsign.isAscii
      simp only [List.length_singleton] at hafterMark hdigits
      simp only [hafterMark.bytesFrom?, signLength_utf8, hdigits.digitsFrom?, Option.bind_eq_bind,
        Option.bind_some, Option.pure_def]
      generalize (splitDigits (splitSign afterMark).2).1 = digits
      cases digits with
      | nil => rfl
      | cons d ds =>
        have hpositive : 0 < (d :: ds).length := Nat.succ_pos ds.length
        rw [if_pos hpositive, List.isEmpty_cons, if_neg Bool.false_ne_true, Option.elim_some]
        simp only [Exponent.spelling, List.length_cons, List.length_append, Option.some_inj]
        omega
    case isFalse => rfl

end Parts

/-- The scan behind the sign starts where the sign ends. -/
theorem reached_of_splitSign {cs sign afterSign : List Char}
    (h : splitSign cs = (sign, afterSign)) :
    signLength (utf8 cs) = sign.length ∧ Reached cs sign.length afterSign := by
  have hsound := splitSign_sound cs
  rw [h] at hsound
  have hreached := (Reached.start cs).advance sign hsound.2 hsound.1.isAscii
  rw [Nat.zero_add] at hreached
  exact ⟨by rw [signLength_utf8, h], hreached⟩

/-- No slice of the scan is out of range or inside of a character, and what is cut out is the
number that is scanned. -/
theorem numeralText?_eq (cs : List Char) :
    numeralText? cs = some ((Numeral.scan? cs).map fun found => found.1.spelling) := by
  rcases hsplit : splitSign cs with ⟨sign, afterSign⟩
  obtain ⟨hlength, hreached⟩ := reached_of_splitSign hsplit
  -- whatever is found is cut out where its spelling ends
  have hcut : ∀ n rest, Numeral.scan? cs = some (n, rest) →
      cutAt? cs n.spelling.length = some (n.spelling, rest) := by
    intro n rest hscan
    obtain ⟨hn, hcs⟩ := Numeral.scan?_sound hscan
    rw [← hcs]
    exact cutAt?_append hn.isAscii rest
  simp only [numeralText?, hlength, wordEnd?_eq hreached]
  cases hword : splitWord? afterSign with
  | some found =>
    obtain ⟨letters, rest⟩ := found
    have hscan : Numeral.scan? cs = some (.word sign letters, rest) := by
      simp only [Numeral.scan?, hsplit, hword]
    have hcut' := hcut _ _ hscan
    rw [Numeral.spelling, List.length_append] at hcut'
    simp only [Option.map_some, hcut', hscan, Numeral.spelling]
    rfl
  | none =>
    simp only [Option.map_none, mantissaEnd?_eq hreached]
    cases hmantissa : splitMantissa? afterSign with
    | none =>
      have hscan : Numeral.scan? cs = none := by
        simp only [Numeral.scan?, hsplit, hword, hmantissa]
      rw [hscan]
      rfl
    | some found =>
      obtain ⟨whole, fraction, rest⟩ := found
      have hscan := Numeral.scan?_of_mantissa hsplit hword hmantissa
      obtain ⟨hwhole, hplaces, -, hafterMantissa⟩ := splitMantissa?_sound hmantissa
      have hmantissaEnd := hreached.advance (whole ++ fraction.elim [] ('.' :: ·))
        (by rw [List.append_assoc, hafterMantissa])
        fun c hc => (List.mem_append.mp hc).elim (hwhole.isAscii c)
          (isAscii_of_fraction hplaces c)
      have hcut' := hcut _ _ hscan
      rw [Numeral.spelling, List.length_append, List.append_assoc, List.length_append] at hcut'
      simp only [Option.map_some, Option.bind_eq_bind, Option.bind_some,
        exponentEnd?_eq hmantissaEnd, hcut', hscan, Numeral.spelling, List.append_assoc]
      rfl

/-- The same for whole numbers. -/
theorem wholeText?_eq {cs sign digits rest : List Char}
    (h : splitWhole cs = (sign, digits, rest)) :
    wholeText? cs = some (if digits = [] then none else some (sign ++ digits)) := by
  obtain ⟨hsign, hdigits, hcs⟩ := splitWhole_sound h
  rcases hsplit : splitSign cs with ⟨sign', afterSign⟩
  rw [splitWhole, hsplit] at h
  obtain ⟨rfl, hafterSign⟩ := Prod.mk.inj h
  obtain ⟨hlength, hreached⟩ := reached_of_splitSign hsplit
  have hcut : cutAt? cs (sign'.length + digits.length) = some (sign' ++ digits, rest) := by
    rw [← hcs, ← List.append_assoc, ← List.length_append]
    exact cutAt?_append (fun c hc => (List.mem_append.mp hc).elim (hsign.isAscii c)
      (hdigits.isAscii c)) rest
  simp only [wholeText?, hlength, hreached.digitsFrom?, hafterSign, Option.bind_eq_bind,
    Option.bind_some, hcut, List.length_eq_zero_iff]
  split <;> rfl

end ReleaseFeed.Number
