/-!
# White space and control characters

White space is the property `White_Space` of Unicode, which is more than the five characters that
`Char.isWhitespace` knows; control characters are the general category `Cc`.
-/
namespace ReleaseFeed.Text

/-- White space other than the two blocks `U+0009` to `U+000D` and `U+2000` to `U+200A`. -/
def loneSpaces : List Nat :=
  [0x20, 0x85, 0xA0, 0x1680, 0x2028, 0x2029, 0x202F, 0x205F, 0x3000]

/-- `c` has the property `White_Space`. -/
def isSpace (c : Char) : Bool :=
  let n := c.toNat
  (0x09 ≤ n && n ≤ 0x0D) || (0x2000 ≤ n && n ≤ 0x200A) || loneSpaces.contains n

/-- `c` is a control character. -/
def isControl (c : Char) : Bool :=
  let n := c.toNat
  n < 0x20 || (0x7F ≤ n && n ≤ 0x9F)

/-- The characters from the first one on that is no white space. -/
def trimStart (cs : List Char) : List Char :=
  cs.dropWhile isSpace

/-- The characters without white space at either end. -/
def trim (cs : List Char) : List Char :=
  ((trimStart cs).reverse.dropWhile isSpace).reverse

/-- An ASCII capital as its small letter, any other character as it is. -/
def lowerAscii (c : Char) : Char :=
  if 'A' ≤ c && c ≤ 'Z' then Char.ofNat (c.toNat + 32) else c

end ReleaseFeed.Text
