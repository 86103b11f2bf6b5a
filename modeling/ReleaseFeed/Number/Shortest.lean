import ReleaseFeed.Text.Digits

/-!
# The text of a reading

A reading is written with the fewest digits that read back as it.  The numbers that read back as
`m * 2 ^ e` are an interval around it, which includes its ends where `m` is even.  On a decimal grid the
candidates are the two neighbours of the reading, so the grids are tried from the coarsest on; of two
neighbours inside, the nearer is taken, and the upper one where they are equally near.

The digits are always written out in full, without an exponent.
-/
namespace ReleaseFeed.Number

/-- The numbers that read back as one reading, in units of `2 ^ exponent`. -/
structure Interval where
  low : Nat
  middle : Nat
  high : Nat
  exponent : Int
  /-- The ends read back as the reading, too. -/
  closed : Bool
deriving Repr

namespace Interval

/-- The interval of the positive reading with a given bit pattern, in quarters of its last bit.  At a
power of two the gap below is half the gap above. -/
def ofBits (bits : Nat) : Interval :=
  let fraction := bits % Nat.pow 2 52
  let field := bits / Nat.pow 2 52 % Nat.pow 2 11
  let mantissa := if field = 0 then fraction else fraction + Nat.pow 2 52
  { low := 4 * mantissa - (if fraction = 0 ∧ 1 < field then 1 else 2)
    middle := 4 * mantissa
    high := 4 * mantissa + 2
    exponent := ((max 1 field : Nat) : Int) - 1077
    closed := mantissa % 2 = 0 }

/-- A multiplier for the interval and one for the grid `10 ^ k` that make both whole. -/
def scales (i : Interval) (k : Int) : Nat × Nat :=
  (Nat.pow 2 i.exponent.toNat * Nat.pow 10 (-k).toNat,
    Nat.pow 2 (-i.exponent).toNat * Nat.pow 10 k.toNat)

/-- `n * 10 ^ k` lies in the interval. -/
def contains (i : Interval) (n : Nat) (k : Int) : Bool :=
  let (unit, step) := i.scales k
  if i.closed then i.low * unit ≤ n * step && n * step ≤ i.high * unit
  else i.low * unit < n * step && n * step < i.high * unit

/-- The neighbour on the grid `10 ^ k` that is in the interval and nearest to its middle. -/
def onGrid? (i : Interval) (k : Int) : Option Nat :=
  let (unit, step) := i.scales k
  let below := i.middle * unit / step
  match i.contains below k, i.contains (below + 1) k with
  | true, true =>
    some (if i.middle * unit - below * step < (below + 1) * step - i.middle * unit then below
      else below + 1)
  | true, false => some below
  | false, true => some (below + 1)
  | false, false => none

/-- A power of ten above the interval. -/
def topGrid (i : Interval) : Int :=
  ((i.high.log2 : Int) + i.exponent + 1) * 30103 / 100000 + 2

/-- The digits and the power of ten of the shortest decimal in the interval.  One of the twenty grids
below the top has a neighbour inside. -/
def shortest (i : Interval) : Nat × Int :=
  let grids := (List.range 20).map fun n : Nat => i.topGrid - (n : Int)
  (grids.findSome? fun k => (i.onGrid? k).map fun n => (n, k)).getD (0, 0)

end Interval

/-- `digits * 10 ^ k` written out. -/
def positional (digits : Nat) (k : Int) : String :=
  let text := (toString digits).toList
  let zeros (n : Nat) := List.replicate n '0'
  if 0 ≤ k then
    String.ofList (text ++ zeros k.toNat)
  else
    let places := k.natAbs
    let padded := zeros (places + 1 - text.length) ++ text
    let whole := padded.length - places
    String.ofList (padded.take whole ++ '.' :: padded.drop whole)

/-- The text of a reading. -/
def text (x : Float) : String :=
  if x.isNaN then "NaN"
  else
    let bits := x.toBits.toNat
    let sign := if bits < Nat.pow 2 63 then "" else "-"
    let magnitude := bits % Nat.pow 2 63
    if magnitude = 0 then sign ++ "0"
    else if x.isInf then sign ++ "inf"
    else
      let (digits, k) := (Interval.ofBits magnitude).shortest
      sign ++ positional digits k

end ReleaseFeed.Number
