/-!
# Words in byte buffers

Buffers hold unsigned words with the least significant byte first.  `word n v` is the `n`-byte form
of `v` (higher bits are dropped) and `word? b n i` reads an `n`-byte word of `b` at position `i`,
giving nothing when a byte of it lies outside.  `alignUp` and `zeros` place a word at a multiple of
its size, and `join` puts the parts of a buffer together.
-/
namespace ReleaseFeed.Bytes

/-- The `n` low bytes of `v`, least significant first. -/
def word : (n v : Nat) → ByteArray
  | 0, _ => .empty
  | n + 1, v => ByteArray.empty.push v.toUInt8 ++ word n (v / 256)

/-- The `n`-byte word of `b` at position `i`, if all its bytes lie inside `b`. -/
def word? (b : ByteArray) : (n i : Nat) → Option Nat
  | 0, _ => some 0
  | n + 1, i =>
    if h : i < b.size then
      (word? b n (i + 1)).map fun high => b[i].toNat + 256 * high
    else
      none

/-- The parts of a buffer, one after the other. -/
def join (parts : List ByteArray) : ByteArray :=
  parts.foldl (· ++ ·) .empty

/-- `n` zero bytes. -/
def zeros (n : Nat) : ByteArray :=
  ⟨Array.replicate n 0⟩

/-- The first multiple of `size` that is not below `n`. -/
def alignUp (n size : Nat) : Nat :=
  (n + (size - 1)) / size * size

@[simp] theorem size_word (n v : Nat) : (word n v).size = n := by
  induction n generalizing v with
  | zero => rfl
  | succ n ih => simp [word, ih, Nat.add_comm]

@[simp] theorem size_zeros (n : Nat) : (zeros n).size = n := by
  simp [zeros, ByteArray.size]

/-- What follows some of the zero bytes are zero bytes. -/
theorem extract_zeros (n start : Nat) : (zeros n).extract start n = zeros (n - start) := by
  refine ByteArray.ext ?_
  rw [ByteArray.data_extract, zeros, Array.extract_replicate, Nat.min_self]
  rfl

private theorem foldl_append (front : ByteArray) (parts : List ByteArray) :
    parts.foldl (· ++ ·) front = front ++ join parts := by
  induction parts generalizing front with
  | nil => simp [join]
  | cons part parts ih =>
    simp only [join, List.foldl_cons] at *
    rw [ih (front ++ part), ih (.empty ++ part)]
    simp [ByteArray.append_assoc]

@[simp] theorem join_nil : join [] = .empty := rfl

@[simp] theorem join_cons (part : ByteArray) (parts : List ByteArray) :
    join (part :: parts) = part ++ join parts := by
  simpa [join] using foldl_append (.empty ++ part) parts

theorem le_alignUp {n size : Nat} (h : 0 < size) : n ≤ alignUp n size := by
  have hmod := Nat.mod_lt (n + (size - 1)) h
  have hdiv := Nat.div_add_mod (n + (size - 1)) size
  rw [Nat.mul_comm] at hdiv
  unfold alignUp
  omega

theorem dvd_alignUp (n size : Nat) : size ∣ alignUp n size :=
  Nat.dvd_mul_left _ _

end ReleaseFeed.Bytes
