/-!
# Decimal digits

Numbers are written in base ten, padded with leading zeros where a field has a fixed width.
-/
namespace ReleaseFeed.Text

/-- `n` in base ten with at least `width` digits. -/
def padded (width n : Nat) : String :=
  let digits := toString n
  String.ofList (List.replicate (width - digits.length) '0') ++ digits

/-- `n` in base ten with its sign always written. -/
def signed (n : Int) : String :=
  if n < 0 then "-" ++ toString n.natAbs else "+" ++ toString n.natAbs

/-- `c` is one of `0` to `9`. -/
def isDigit (c : Char) : Bool :=
  '0' ≤ c && c ≤ '9'

/-- The number that a decimal digit stands for. -/
def digitValue (c : Char) : Nat :=
  c.toNat - '0'.toNat

/-- A number in two parts, so that a long run of digits is read without a large product for each digit. -/
structure Parts where
  high : Nat := 0
  /-- Stays below `scale`. -/
  low : Nat := 0
  scale : Nat := 1

namespace Parts

/-- The scale from which on the low part is joined with the high one. -/
def scaleLimit : Nat := 1_000_000_000_000_000_000

/-- The number. -/
def value (p : Parts) : Nat :=
  p.high * p.scale + p.low

/-- The number with one more digit at its end. -/
def append (p : Parts) (digit : Nat) : Parts :=
  if p.scale = scaleLimit then ⟨p.value, digit, 10⟩
  else ⟨p.high, 10 * p.low + digit, 10 * p.scale⟩

theorem value_append (p : Parts) (digit : Nat) : (p.append digit).value = 10 * p.value + digit := by
  unfold append
  split
  · simp only [value, Nat.mul_comm]
  · simp only [value, Nat.mul_add, Nat.mul_left_comm, Nat.add_assoc]

end Parts

/-- The value of a run of decimal digits. -/
def digitsValue (digits : List Char) : Nat :=
  (digits.foldl (fun p c => p.append (digitValue c)) ({} : Parts)).value

@[simp] theorem digitsValue_nil : digitsValue [] = 0 := rfl

/-- A digit at the end of a run counts once, and makes all others count ten times as much. -/
theorem digitsValue_concat (digits : List Char) (c : Char) :
    digitsValue (digits ++ [c]) = 10 * digitsValue digits + digitValue c := by
  simp [digitsValue, Parts.value_append]

/-- The value of the shortest start of a run of decimal digits whose value reaches a bound, or of the whole
run if none does. -/
def digitsValueTo (bound : Nat) (digits : List Char) : Nat :=
  digits.foldl (fun n c => if n < bound then 10 * n + digitValue c else n) 0

end ReleaseFeed.Text
