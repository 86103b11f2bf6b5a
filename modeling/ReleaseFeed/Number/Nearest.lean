import ReleaseFeed.Text.Digits

/-!
# Rounding to the nearest reading

A reading is a binary fraction `q * 2 ^ e` with `q` below `2 ^ 53` and `e` at least -1074.  A positive
fraction is scaled so that its whole part has 53 bits, or so that `e` is -1074, and the quotient is
rounded to the nearest integer, ties to the even one.  The bit pattern of the result is then
`(e + 1074) * 2 ^ 52 + q`: a quotient that is rounded up to `2 ^ 53` carries into the exponent by itself,
and fractions with fewer than 53 bits need no case of their own.
-/
namespace ReleaseFeed.Number

/-- The quotient rounded to the nearest integer, ties to the even one. -/
def roundDiv (num den : Nat) : Nat :=
  let quotient := num / den
  let rest := num % den
  if 2 * rest < den then quotient
  else if den < 2 * rest then quotient + 1
  else quotient + quotient % 2

/-- The least exponent of a reading. -/
def minExponent : Int := -1074

/-- The bit pattern of infinity. -/
def infinityBits : Nat := 0x7FF * Nat.pow 2 52

/-- `num / den / 2 ^ e` as a numerator and a denominator. -/
def scaled (num den : Nat) (e : Int) : Nat × Nat :=
  (num * Nat.pow 2 (-e).toNat, den * Nat.pow 2 e.toNat)

/-- The exponent at which the whole part of `num / den` has 53 bits, or the least one. -/
def exponentOf (num den : Nat) : Int :=
  let guess := max minExponent ((num.log2 : Int) - den.log2 - 53)
  let (n, d) := scaled num den guess
  if n / d < Nat.pow 2 53 then guess else guess + 1

/-- The bit pattern of the reading nearest to a positive fraction; infinity where it is too large. -/
def nearestBits (num den : Nat) : Nat :=
  let e := exponentOf num den
  let (n, d) := scaled num den e
  min infinityBits ((e - minExponent).toNat * Nat.pow 2 52 + roundDiv n d)

/-- A decimal fraction: `digits * 10 ^ exponent`, with a sign. -/
structure Decimal where
  negative : Bool
  digits : Nat
  exponent : Int
deriving DecidableEq, Repr, Inhabited

namespace Decimal

/-- No digit of a spelled exponent counts after the ones that bring it up to this bound. -/
def exponentBound : Nat := Nat.pow 2 16

/-- The exponent that a sign and digits spell. -/
def exponentOfDigits (negative : Bool) (digits : List Char) : Int :=
  let value := Text.digitsValueTo exponentBound digits
  if negative then -(value : Int) else value

/-- Decimals from `10 ^ reach` on are infinite, and those below `10 ^ -reach` are zero. -/
def reach : Nat := 400

/-- The bit pattern of the reading nearest to the magnitude of a decimal. -/
def magnitudeBits (d : Decimal) : Nat :=
  if d.digits = 0 then 0
  else if (reach : Int) < d.exponent then infinityBits
  else if d.exponent + d.digits.log2 + 1 < -(reach : Int) then 0
  else nearestBits (d.digits * Nat.pow 10 d.exponent.toNat) (Nat.pow 10 (-d.exponent).toNat)

/-- The reading nearest to a decimal. -/
def toFloat (d : Decimal) : Float :=
  Float.ofBits (UInt64.ofNat ((if d.negative then Nat.pow 2 63 else 0) + d.magnitudeBits))

end Decimal

end ReleaseFeed.Number
