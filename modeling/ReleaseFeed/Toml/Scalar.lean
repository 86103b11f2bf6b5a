import ReleaseFeed.Calendar
import ReleaseFeed.Number.Nearest
import ReleaseFeed.Toml.Scanner
import ReleaseFeed.Toml.Value

/-!
# Texts, numbers and times of TOML

Texts come in four forms, with or without escapes and on one line or on several; numbers may have single
underscores between digits; dates and times are those of RFC 3339.
-/
namespace ReleaseFeed.Toml

open Scanner

/-! ## Characters -/

/-- White space inside a line. -/
def isBlank (c : Char) : Bool :=
  c = ' ' || c = '\t'

/-- A character that can stand in a line. -/
def isVisible (c : Char) : Bool :=
  c = '\t' || (' ' ≤ c && c ≠ '\x7f')

/-- A digit to base 16. -/
def isHexDigit (c : Char) : Bool :=
  Text.isDigit c || ('a' ≤ c && c ≤ 'f') || ('A' ≤ c && c ≤ 'F')

/-- The value of a digit to base 16. -/
def hexValue (c : Char) : Nat :=
  if Text.isDigit c then Text.digitValue c
  else if 'a' ≤ c then c.toNat - 'a'.toNat + 10
  else c.toNat - 'A'.toNat + 10

/-- The value of digits to a base. -/
def valueOf (base : Nat) (digits : List Char) : Nat :=
  digits.foldl (fun n c => base * n + hexValue c) 0

/-- White space inside a line. -/
def blanks : Scanner Unit :=
  discard (span isBlank)

/-- The end of a line, which is read as a line feed. -/
def lineEnd : Scanner Unit :=
  mark '\n' <|> word "\r\n"

/-! ## Texts -/

/-- A character given by its code in `n` digits. -/
def coded (n : Nat) : Scanner Char := do
  let code := valueOf 16 (← times n (one isHexDigit))
  guard code.isValidChar
  return Char.ofNat code

/-- The escapes of one letter, and what they stand for. -/
def escapes : List (Char × Char) :=
  [('b', '\x08'), ('t', '\t'), ('n', '\n'), ('f', '\x0c'), ('r', '\r'), ('"', '"'), ('\\', '\\')]

/-- An escaped character. -/
def escaped : Scanner Char := do
  mark '\\'
  match ← next with
  | 'u' => coded 4
  | 'U' => coded 8
  | letter => escapes.lookup letter

/-- A character that stands for itself between two quotes. -/
def unescaped (quote : Char) : Scanner Char :=
  one fun c => isVisible c && c != quote && !(quote == '"' && c == '\\')

/-- A text on one line, with escapes. -/
def basicText : Scanner (List Char) :=
  mark '"' *> repeated (unescaped '"' <|> escaped) <* mark '"'

/-- A text on one line, without escapes. -/
def literalText : Scanner (List Char) :=
  mark '\'' *> repeated (unescaped '\'') <* mark '\''

/-- A backslash at the end of a line: it stands for nothing, and so does all white space after it. -/
def lineJoin : Scanner Unit := do
  mark '\\'
  blanks
  lineEnd
  discard (repeated (discard (one isBlank) <|> lineEnd))

/-- One or two quotes in a text that three quotes end. -/
def innerQuotes (quote : Char) : Scanner (List Char) := do
  let quotes ← span (· == quote)
  guard (quotes.length = 1 ∨ quotes.length = 2)
  return quotes

/-- A text of several lines between three quotes.  A line end right after the first three does not
count, and up to two quotes may stand before the last three. -/
def longText (quote : Char) (part : Scanner (List Char)) : Scanner (List Char) := do
  discard (times 3 (mark quote))
  discard (optional lineEnd)
  let parts ← repeated (part <|> lineEnd *> pure ['\n'] <|> innerQuotes quote)
  let quotes ← span (· == quote)
  guard (3 ≤ quotes.length ∧ quotes.length ≤ 5)
  return parts.flatten ++ quotes.drop 3

/-- A text of several lines, with escapes. -/
def longBasicText : Scanner (List Char) :=
  longText '"' ((lineJoin *> pure []) <|> (([·]) <$> (unescaped '"' <|> escaped)))

/-- A text of several lines, without escapes. -/
def longLiteralText : Scanner (List Char) :=
  longText '\'' (([·]) <$> unescaped '\'')

/-- A text in any form. -/
def text : Scanner Value := do
  return .text (String.ofList (← longBasicText <|> basicText <|> longLiteralText <|> literalText))

/-! ## Numbers -/

/-- Digits with single underscores between them. -/
def digits (p : Char → Bool) : Scanner (List Char) := do
  let first ← one p
  return first :: (← repeated (optional (mark '_') *> one p))

/-- An optional sign; whether it is a minus. -/
def sign : Scanner Bool := do
  return (← optional (one fun c => c = '+' || c = '-')) == some '-'

/-- The whole part of a number, which has no leading zero. -/
def whole : Scanner (List Char) :=
  ((mark '0') *> pure ['0']) <|> digits Text.isDigit

/-- A whole number to a base that its first two characters name. -/
def based (front : String) (base : Nat) : Scanner Int := do
  word front
  return valueOf base (← digits fun c => isHexDigit c && hexValue c < base)

/-- A whole number to base ten. -/
def decimal : Scanner Int := do
  let negative ← sign
  let n := Text.digitsValue (← whole)
  return if negative then -(n : Int) else n

/-- A whole number that fits in a signed 64-bit word. -/
def integer : Scanner Value := do
  let n ← based "0x" 16 <|> based "0o" 8 <|> based "0b" 2 <|> decimal
  guard (-0x8000_0000_0000_0000 ≤ n ∧ n < 0x8000_0000_0000_0000)
  return .integer n

/-- The exponent of a fraction. -/
def exponent : Scanner Int := do
  discard (one fun c => c = 'e' || c = 'E')
  let negative ← sign
  return Number.Decimal.exponentOfDigits negative (← digits Text.isDigit)

/-- The digits after the point. -/
def places : Scanner (List Char) :=
  mark '.' *> digits Text.isDigit

/-- A fraction with a point or an exponent; a positive one that is too large is refused. -/
def fractionOfDigits : Scanner Value := do
  let negative ← sign
  let front ← whole
  let back ← optional places
  let power ← optional exponent
  guard (back.isSome || power.isSome)
  let back := back.getD []
  let number : Number.Decimal :=
    ⟨negative, Text.digitsValue (front ++ back), power.getD 0 - (back.length : Int)⟩
  guard (negative || number.magnitudeBits < Number.infinityBits)
  return .fraction

/-- A fraction. -/
def fraction : Scanner Value :=
  fractionOfDigits <|> (sign *> (word "inf" <|> word "nan") *> pure .fraction)

/-! ## Dates and times -/

/-- A number of `n` digits between two bounds. -/
def field (n low high : Nat) : Scanner Nat := do
  let value := Text.digitsValue (← times n (one Text.isDigit))
  guard (low ≤ value ∧ value ≤ high)
  return value

/-- A day of the calendar. -/
def day : Scanner Unit := do
  let year ← field 4 0 9999
  mark '-'
  let month ← field 2 1 12
  mark '-'
  let date : Date := ⟨year, month, ← field 2 1 31⟩
  guard (Date.ofDayNumber date.dayNumber = date)

/-- A time of day; second 60 is a leap second. -/
def clock : Scanner Unit := do
  discard (field 2 0 23)
  mark ':'
  discard (field 2 0 59)
  mark ':'
  discard (field 2 0 60)
  discard (optional (mark '.' *> one Text.isDigit *> span Text.isDigit))

/-- The distance of a time from universal time. -/
def zone : Scanner Unit :=
  discard (one fun c => c = 'Z' || c = 'z') <|> do
    discard (one fun c => c = '+' || c = '-')
    discard (field 2 0 23)
    mark ':'
    discard (field 2 0 59)

/-- A day, a time, or both with or without a zone. -/
def moment : Scanner Value := do
  let timed := do
    discard (one fun c => c = 'T' || c = 't' || c = ' ')
    clock
    discard (optional zone)
  (day *> discard (optional timed)) <|> clock
  return .moment

/-! ## All of them -/

/-- A truth value. -/
def truth : Scanner Value :=
  (word "true" *> pure (.truth true)) <|> (word "false" *> pure (.truth false))

/-- A value that holds no other values. -/
def scalar : Scanner Value :=
  text <|> moment <|> fraction <|> integer <|> truth

end ReleaseFeed.Toml
