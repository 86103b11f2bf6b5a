import ReleaseFeed.Text.Digits

/-!
# Names of captured buffers

Captured buffers are numbered files `fb_NNNNNN.bin`.  A number is written with at least six digits, and
every such name with six or more digits is read, as long as the number fits in a 32-bit word.
-/
namespace ReleaseFeed.Capture

/-- Digits that a number has at least. -/
def minDigits : Nat := 6

/-- What stands before the number. -/
def nameFront : String := "fb_"

/-- What stands after the number. -/
def nameBack : String := ".bin"

/-- The name of the buffer with a given number. -/
def nameOf (number : UInt32) : String :=
  nameFront ++ Text.padded minDigits number.toNat ++ nameBack

/-- What stands between two parts of a text. -/
def between? (front back cs : List Char) : Option (List Char) :=
  let rest := cs.drop front.length
  if front.isPrefixOf cs && back.isSuffixOf rest then
    some (rest.take (rest.length - back.length))
  else
    none

/-- The number of a buffer by its name; nothing for any other name. -/
def number? (name : String) : Option UInt32 := do
  let digits ← between? nameFront.toList nameBack.toList name.toList
  let number := Text.digitsValue digits
  if digits.length < minDigits || !digits.all Text.isDigit || UInt32.size ≤ number then none
  else some (.ofNat number)

end ReleaseFeed.Capture
