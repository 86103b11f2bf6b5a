import ReleaseFeed.Text.Extender

/-!
# Escapes and quoted text

A character that cannot be shown is written as an escape: a backslash with a letter for the few that have
one, else the code point in hexadecimal between braces.  A quoted text escapes the quote and the backslash
as well, so it ends at the first quote that no backslash stands before.
-/
namespace ReleaseFeed.Text

/-- The hexadecimal digits of `n`. -/
def hex (n : Nat) : List Char :=
  Nat.toDigits 16 n

/-- The escape by code point. -/
def codeEscape (c : Char) : List Char :=
  ['\\', 'u', '\x7b'] ++ hex c.toNat ++ ['\x7d']

/-- The letter of the escapes that have one. -/
def escapeLetter? (c : Char) : Option Char :=
  if c = '\x00' then some '0'
  else if c = '\t' then some 't'
  else if c = '\r' then some 'r'
  else if c = '\n' then some 'n'
  else none

/-- The escape of a character that cannot be shown. -/
def escape (c : Char) : List Char :=
  match escapeLetter? c with
  | some letter => ['\\', letter]
  | none => codeEscape c

/-- A character on a line: control characters are escaped, all others are kept. -/
def lineChar (c : Char) : List Char :=
  if isControl c then escape c else [c]

/-- A text without control characters. -/
def onOneLine (s : String) : String :=
  String.ofList (s.toList.flatMap lineChar)

/-- A character inside quotes. -/
def quotedChar (c : Char) : List Char :=
  if c = '"' ∨ c = '\\' then ['\\', c]
  else if isExtender c || !isPrintable c then escape c
  else [c]

/-- A text inside quotes. -/
def quoted (s : String) : String :=
  String.ofList ('"' :: (s.toList.flatMap quotedChar ++ ['"']))

end ReleaseFeed.Text
