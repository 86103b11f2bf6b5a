/-!
# Scanners

A scanner takes something from the start of a text, or refuses the text.  Scanners are joined in sequence
and by choice, where the second choice starts again from where the first one started.
-/
namespace ReleaseFeed.Toml

/-- Takes something from the start of a list of characters. -/
abbrev Scanner := StateT (List Char) Option

namespace Scanner

variable {α : Type}

/-- The next character. -/
def next : Scanner Char := fun
  | [] => none
  | c :: rest => some (c, rest)

/-- The next character, which has a property. -/
def one (p : Char → Bool) : Scanner Char := do
  let c ← next
  guard (p c)
  return c

/-- A given character. -/
def mark (c : Char) : Scanner Unit :=
  discard (one (· == c))

/-- A given text. -/
def word (text : String) : Scanner Unit :=
  text.toList.forM mark

/-- All characters up to the first one without a property. -/
def span (p : Char → Bool) : Scanner (List Char) := fun cs =>
  some (cs.takeWhile p, cs.dropWhile p)

/-- The end of the text. -/
def finish : Scanner Unit := fun
  | [] => some ((), [])
  | _ => none

/-- Something as often as it is there.  It is not tried more often than there are characters, so each time
has to take one. -/
def repeated (s : Scanner α) : Scanner (List α) := fun cs => some (go cs cs)
where
  /-- At most once for each character of the first list. -/
  go : List Char → List Char → List α × List Char
    | [], cs => ([], cs)
    | _ :: tries, cs =>
      match s cs with
      | none => ([], cs)
      | some (a, rest) =>
        let (others, rest) := go tries rest
        (a :: others, rest)

/-- Something `n` times. -/
def times : Nat → Scanner α → Scanner (List α)
  | 0, _ => return []
  | n + 1, s => return (← s) :: (← times n s)

/-- Something at least once, with separators between. -/
def separated (separator : Scanner Unit) (s : Scanner α) : Scanner (List α) := do
  let first ← s
  return first :: (← repeated (separator *> s))

/-- What a scanner finds in the whole of a text. -/
def whole? (s : Scanner α) (text : String) : Option α :=
  ((s <* finish).run text.toList).map (·.1)

end Scanner

end ReleaseFeed.Toml
