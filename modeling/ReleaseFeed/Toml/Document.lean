import ReleaseFeed.Toml.Scalar

/-!
# TOML documents

A document is a list of lines, each with at most one statement and a comment.  `parse?` reads the
statements and joins them to one table; it refuses a text that is no document, or whose statements
contradict each other.
-/
namespace ReleaseFeed.Toml

open Scanner

/-! ## Keys -/

/-- A character of a key without quotes. -/
def isKeyChar (c : Char) : Bool :=
  c.isAlphanum || c = '_' || c = '-'

/-- A key. -/
def simpleKey : Scanner String := do
  let bare := do
    let cs ← span isKeyChar
    guard !cs.isEmpty
    return cs
  return String.ofList (← basicText <|> literalText <|> bare)

/-- Values and keys nest less deep than this. -/
def depthLimit : Nat := 80

/-- Keys with points between them. -/
def key : Scanner (List String) := do
  let path ← separated (mark '.') (blanks *> simpleKey <* blanks)
  guard (path.length < depthLimit)
  return path

/-! ## Values -/

/-- A comment up to the end of its line. -/
def comment : Scanner Unit :=
  mark '#' *> discard (span isVisible)

/-- White space, line ends and comments. -/
def gap : Scanner Unit :=
  discard (repeated (discard (one isBlank) <|> lineEnd <|> (comment *> lineEnd)))

/-- A list of values. -/
def list (value : Scanner Value) : Scanner Value := do
  mark '['
  let items ← optional (separated (mark ',') (gap *> value <* gap) <* optional (mark ','))
  gap
  mark ']'
  return .list (items.getD [])

/-- A key and its value. -/
def pair (value : Scanner Value) : Scanner (List String × Value) := do
  let path ← key
  mark '='
  return (path, ← blanks *> value <* blanks)

/-- A table on one line. -/
def inlineTable (value : Scanner Value) : Scanner Value := do
  mark '{'
  let pairs ← optional (separated (mark ',') (pair value))
  blanks
  mark '}'
  Value.inlineTable? (pairs.getD [])

/-- A value with at most `n` levels of values inside it. -/
def value : (n : Nat) → Scanner Value
  | 0 => scalar
  | n + 1 => scalar <|> list (value n) <|> inlineTable (value n)

/-! ## Lines -/

/-- A statement. -/
def statement : Scanner Statement :=
  (word "[[" *> (.item <$> key) <* word "]]")
    <|> (mark '[' *> (.header <$> key) <* mark ']')
    <|> ((fun (path, value) => .pair path value) <$> pair (value (depthLimit - 1)))

/-- A line without its end. -/
def line : Scanner (Option Statement) :=
  blanks *> optional statement <* blanks <* optional comment

/-- The statements of a document; a byte order mark may stand before them. -/
def statements : Scanner (List Statement) := do
  discard (optional (mark '\ufeff'))
  return (← separated lineEnd line).filterMap id

/-- The document that a text spells. -/
def parse? (text : String) : Option Value := do
  ofStatements? (← statements.whole? text)

end ReleaseFeed.Toml
