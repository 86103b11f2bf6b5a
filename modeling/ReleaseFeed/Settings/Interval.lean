import ReleaseFeed.Duration
import ReleaseFeed.Text.Digits
import ReleaseFeed.Text.Space

/-!
# Spans of time as text

A span of time is spelled as a sum of numbers with units, such as `1h30m` or `2 days`.  White space may
stand before a number, inside it and after it, but not inside a unit.  A number may have a fraction, which
has to come to whole nanoseconds, and with units longer than a minute to whole seconds.  A month is a
twelfth of a year, and a year has 365.25 days.  Numbers and sums have to fit in 64-bit words.
-/
namespace ReleaseFeed

namespace Duration

/-- Values from here on do not fit. -/
def wordLimit : Nat := 0x1_0000_0000_0000_0000

/-- A unit of time. -/
structure TimeUnit where
  spellings : List String
  /-- The seconds of the unit, or its nanoseconds if it is shorter than a second. -/
  amount : Nat
  /-- The unit is shorter than a second. -/
  isShort : Bool := false
deriving DecidableEq, Repr, Inhabited

/-- All units. -/
def timeUnits : List TimeUnit :=
  [{ spellings := ["ns", "nsec", "nanos"], amount := 1, isShort := true },
   { spellings := ["us", "usec", "µs"], amount := 1000, isShort := true },
   { spellings := ["ms", "msec", "millis"], amount := 1_000_000, isShort := true },
   { spellings := ["s", "sec", "secs", "second", "seconds"], amount := 1 },
   { spellings := ["m", "min", "mins", "minute", "minutes"], amount := 60 },
   { spellings := ["h", "hr", "hrs", "hour", "hours"], amount := 3600 },
   { spellings := ["d", "day", "days"], amount := 86400 },
   { spellings := ["w", "wk", "wks", "week", "weeks"], amount := 604800 },
   { spellings := ["M", "month", "months"], amount := 2630016 },
   { spellings := ["y", "yr", "yrs", "year", "years"], amount := 31557600 }]

/-- A number with a unit. -/
structure Part where
  number : Nat
  /-- The digits after the point, if there is one. -/
  places : Option (List Char)
  unit : TimeUnit
deriving DecidableEq, Repr, Inhabited

namespace Part

/-- The longest unit whose fractions may come to less than a second, in seconds. -/
def finestSeconds : Nat := 60

/-- How many steps of the grid there are in one unit, and how many nanoseconds in one step.  The fraction
of a number has to lie on the grid of its unit. -/
def grid (p : Part) : Nat × Nat :=
  if p.unit.isShort then (p.unit.amount, 1)
  else if p.unit.amount ≤ finestSeconds then (p.unit.amount * 1_000_000_000, 1)
  else (p.unit.amount, 1_000_000_000)

/-- The nanoseconds of the fraction; nothing where it does not lie on the grid or cannot be computed in
words.  A nanosecond has no fractions. -/
def fractionNanos? (p : Part) : Option Nat :=
  match p.places with
  | none => some 0
  | some places =>
    let (steps, nanos) := p.grid
    let numerator := Text.digitsValue places * steps
    let denominator := Nat.pow 10 places.length
    if steps = 1 || wordLimit ≤ denominator || wordLimit ≤ numerator || numerator % denominator ≠ 0 then
      none
    else
      some (numerator / denominator * nanos)

/-- A sum of spans; nothing if its seconds do not fit. -/
def sum? (a : Duration) (seconds nanos : Nat) : Option Duration :=
  let total := a.nanos + nanos
  let seconds := a.seconds + seconds + total / 1_000_000_000
  if wordLimit ≤ total || wordLimit ≤ seconds then none else some ⟨seconds, total % 1_000_000_000⟩

/-- A span and a part after it. -/
def addTo? (a : Duration) (p : Part) : Option Duration := do
  let amount := p.number * p.unit.amount
  guard (p.number < wordLimit ∧ amount < wordLimit)
  let whole ← if p.unit.isShort then sum? a 0 amount else sum? a amount 0
  sum? whole 0 (← p.fractionNanos?)

end Part

/-- A digit, or white space among digits. -/
def isNumberChar (c : Char) : Bool :=
  Text.isDigit c || Text.isSpace c

/-- A letter of a unit. -/
def isUnitChar (c : Char) : Bool :=
  c.isAlpha || c = 'µ'

/-- The digits at the start, with white space among them left out, and what follows. -/
def splitNumber (cs : List Char) : List Char × List Char :=
  ((cs.takeWhile isNumberChar).filter Text.isDigit, cs.dropWhile isNumberChar)

/-- A number with a unit at the start, and what follows. -/
def splitPart? (cs : List Char) : Option (Part × List Char) := do
  let (whole, rest) := splitNumber cs
  guard !whole.isEmpty
  let (places, rest) ← match rest with
    | '.' :: rest => do
      let (places, rest) := splitNumber rest
      guard !places.isEmpty
      pure (some places, rest)
    | rest => pure (none, rest)
  let letters := rest.takeWhile isUnitChar
  let unit ← timeUnits.find? fun unit => unit.spellings.contains (String.ofList letters)
  return (⟨Text.digitsValue whole, places, unit⟩, rest.dropWhile isUnitChar)

/-- The parts of a text of at most `n` characters, added to a span. -/
def addParts? : (n : Nat) → Duration → List Char → Option Duration
  | 0, a, cs => if cs.isEmpty then some a else none
  | n + 1, a, cs =>
    if cs.all Text.isSpace then some a
    else do
      let (part, rest) ← splitPart? cs
      addParts? n (← part.addTo? a) rest

/-- The span of time that a text spells.  A zero needs no unit. -/
def ofText? (text : String) : Option Duration :=
  if text = "0" then some {}
  else if text.toList.all Text.isSpace then none
  else addParts? text.length {} text.toList

end Duration

end ReleaseFeed
