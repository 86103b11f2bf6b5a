import ReleaseFeed.Number.Nearest
import ReleaseFeed.Text.Digits
import ReleaseFeed.Text.Space

/-!
# Numbers at the start of a text

Readings arrive as text that may go on after the number, as in `1.5%`.  The longest number at the
start is read, after white space: a sign, then one of the words `infinity`, `inf` and `nan` in any case,
or digits with a point and an exponent.  A `Numeral` is such a number as it is spelled, so that
`Numeral.spelling` followed by what is left is always the text that was scanned.
-/
namespace ReleaseFeed.Number

/-- The power of ten at the end of a numeral. -/
structure Exponent where
  mark : Char
  sign : List Char
  digits : List Char
deriving DecidableEq, Repr, Inhabited

/-- A number as it is spelled. -/
inductive Numeral where
  /-- A sign and a word for a number that no digits can spell. -/
  | word (sign letters : List Char)
  /-- A sign, the digits before the point, those after it if there is one, and the exponent. -/
  | decimal (sign whole : List Char) (fraction : Option (List Char)) (exponent : Option Exponent)
deriving DecidableEq, Repr, Inhabited

/-- An optional sign, and what follows it. -/
def splitSign : List Char → List Char × List Char
  | '+' :: rest => (['+'], rest)
  | '-' :: rest => (['-'], rest)
  | rest => ([], rest)

/-- The digits at the start, and what follows them. -/
def splitDigits (cs : List Char) : List Char × List Char :=
  (cs.takeWhile Text.isDigit, cs.dropWhile Text.isDigit)

/-- The words for numbers without digits, longer ones before those that they start with. -/
def words : List String :=
  ["infinity", "inf", "nan"]

/-- A word at the start, in any case. -/
def splitWord? (cs : List Char) : Option (List Char × List Char) :=
  (words.find? fun word => (cs.take word.length).map Text.lowerAscii == word.toList).map fun word =>
    cs.splitAt word.length

/-- The digits at the start with an optional point among them; at least one digit. -/
def splitMantissa? (cs : List Char) : Option (List Char × Option (List Char) × List Char) :=
  let (whole, rest) := splitDigits cs
  match rest with
  | '.' :: afterPoint =>
    let (fraction, rest) := splitDigits afterPoint
    if whole.isEmpty && fraction.isEmpty then none else some (whole, some fraction, rest)
  | _ => if whole.isEmpty then none else some (whole, none, rest)

/-- An exponent at the start; nothing is taken where its digits are missing. -/
def splitExponent (cs : List Char) : Option Exponent × List Char :=
  match cs with
  | mark :: afterMark =>
    if mark = 'e' ∨ mark = 'E' then
      let (sign, rest) := splitSign afterMark
      let (digits, rest) := splitDigits rest
      if digits.isEmpty then (none, cs) else (some ⟨mark, sign, digits⟩, rest)
    else
      (none, cs)
  | [] => (none, cs)

namespace Exponent

/-- The exponent as it is spelled. -/
def spelling (e : Exponent) : List Char :=
  e.mark :: (e.sign ++ e.digits)

/-- The power of ten. -/
def value (e : Exponent) : Int :=
  Decimal.exponentOfDigits (e.sign = ['-']) e.digits

end Exponent

namespace Numeral

/-- The number as it is spelled. -/
def spelling : Numeral → List Char
  | word sign letters => sign ++ letters
  | decimal sign whole fraction exponent =>
    sign ++ whole ++ (fraction.elim [] ('.' :: ·)) ++ exponent.elim [] Exponent.spelling

/-- The longest number at the start of a text, and what follows it. -/
def scan? (cs : List Char) : Option (Numeral × List Char) :=
  let (sign, afterSign) := splitSign cs
  match splitWord? afterSign with
  | some (letters, rest) => some (word sign letters, rest)
  | none =>
    match splitMantissa? afterSign with
    | none => none
    | some (whole, fraction, rest) =>
      let (exponent, rest) := splitExponent rest
      some (decimal sign whole fraction exponent, rest)

/-- The reading that a numeral stands for; infinite also where a decimal is too large. -/
def toFloat : Numeral → Float
  | word sign letters =>
    if letters.map Text.lowerAscii = "nan".toList then absent
    else Float.ofBits (UInt64.ofNat ((if sign = ['-'] then Nat.pow 2 63 else 0) + infinityBits))
  | decimal sign whole fraction exponent =>
    let places := fraction.getD []
    Decimal.toFloat
      { negative := sign = ['-']
        digits := Text.digitsValue (whole ++ places)
        exponent := exponent.elim 0 Exponent.value - (places.length : Int) }
where
  /-- Not a number. -/
  absent : Float := Float.ofBits 0x7FF8000000000000

/-- The numeral is spelled with a word. -/
def isWord : Numeral → Bool
  | word .. => true
  | decimal .. => false

end Numeral

/-- The reading at the start of a text.  A decimal that is too large is not a reading, while the word
for infinity is one. -/
def readingAtStart? (cs : List Char) : Option Float :=
  match Numeral.scan? (Text.trimStart cs) with
  | none => none
  | some (numeral, _) =>
    let value := numeral.toFloat
    if numeral.isWord || value.isFinite then some value else none

/-- The whole number that a sign and digits spell. -/
def signedValue (sign digits : List Char) : Int :=
  if sign = ['-'] then -(Text.digitsValue digits : Int) else Text.digitsValue digits

/-- A whole number that fits a signed 32-bit word, at the start of a text. -/
def countAtStart? (cs : List Char) : Option Int :=
  let (sign, rest) := splitSign (Text.trimStart cs)
  let (digits, _) := splitDigits rest
  let value := signedValue sign digits
  if digits.isEmpty || value < -0x8000_0000 || 0x8000_0000 ≤ value then none else some value

/-- A whole number that fits a signed 64-bit word and is all of a text but white space around it. -/
def wholeNumber? (cs : List Char) : Option Int :=
  let (sign, rest) := splitSign (Text.trim cs)
  let value := signedValue sign rest
  if rest.isEmpty || !rest.all Text.isDigit || value < -0x8000_0000_0000_0000
      || 0x8000_0000_0000_0000 ≤ value then none
  else some value

end ReleaseFeed.Number
