import Mathlib
import ReleaseFeed.Bytes

/-! # Words read back, and parts in their places

`value` is the number that a run of bytes spells, least significant byte first,
and `valueAt` is the number of the `n` bytes at a position.  A word that lies
inside a buffer reads as its `valueAt` (`word?_eq_some`).

`At b pos part` says that `part` stands in `b` from position `pos` on.  Every
fact about a written buffer is stated with it, so that it holds whatever comes
before and after the part: a part of a part stands where its parent puts it
(`At.left`, `At.right`).
-/
namespace ReleaseFeed.Bytes

/-! ## The number that bytes spell -/

/-- The number that bytes spell, the first byte the least significant. -/
def value (part : ByteArray) : Nat :=
  part.data.toList.foldr (fun byte high => byte.toNat + 256 * high) 0

/-- The number that the `n` bytes from position `pos` on spell. -/
def valueAt (b : ByteArray) (n pos : Nat) : Nat :=
  value (b.extract pos (pos + n))

@[simp] theorem value_empty : value .empty = 0 := rfl

theorem value_push_append (byte : UInt8) (part : ByteArray) :
    value (ByteArray.empty.push byte ++ part) = byte.toNat + 256 * value part := by
  simp [value]

/-- A word spells its number, up to the bits that it has no room for. -/
theorem value_word (n v : Nat) : value (word n v) = v % 256 ^ n := by
  induction n generalizing v with
  | zero => simp [word, Nat.mod_one]
  | succ n ih =>
    have hbyte : v.toUInt8.toNat = v % 256 := by simp
    rw [word, value_push_append, ih, hbyte, Nat.pow_succ', Nat.mod_mul]

theorem value_word_of_lt {n v : Nat} (h : v < 256 ^ n) : value (word n v) = v := by
  rw [value_word, Nat.mod_eq_of_lt h]

/-! ## Reading a word -/

theorem extract_succ (b : ByteArray) {pos stop : Nat} (hpos : pos < b.size) (h : pos < stop) :
    b.extract pos stop = ByteArray.empty.push b[pos] ++ b.extract (pos + 1) stop := by
  rw [ByteArray.extract_eq_extract_append_extract (pos + 1) (by omega) (by omega),
    ByteArray.extract_add_one hpos]
  rfl

/-- A word that lies inside the buffer reads as the number that its bytes spell. -/
theorem word?_eq_some {b : ByteArray} {n pos : Nat} (h : pos + n ≤ b.size) :
    word? b n pos = some (valueAt b n pos) := by
  induction n generalizing pos with
  | zero => simp [word?, valueAt]
  | succ n ih =>
    have hpos : pos < b.size := by omega
    rw [word?, dif_pos hpos, ih (by omega), Option.map_some, valueAt, valueAt,
      extract_succ b hpos (Nat.lt_add_of_pos_right n.succ_pos), value_push_append,
      show pos + 1 + n = pos + (n + 1) by omega]

/-! ## Bytes that are appended -/

theorem extract_append_left (b x : ByteArray) {pos stop : Nat} (h : stop ≤ b.size) :
    (b ++ x).extract pos stop = b.extract pos stop := by
  have hx : x.extract (pos - b.size) 0 = .empty := ByteArray.extract_eq_empty_iff.mpr (by omega)
  rw [ByteArray.extract_append, Nat.sub_eq_zero_of_le h, hx, ByteArray.append_empty]

theorem valueAt_append (b x : ByteArray) {n pos : Nat} (h : pos + n ≤ b.size) :
    valueAt (b ++ x) n pos = valueAt b n pos := by
  rw [valueAt, extract_append_left b x h, valueAt]

/-! ## Parts in their places -/

/-- The bytes of `part` stand in `b` from position `pos` on. -/
def At (b : ByteArray) (pos : Nat) (part : ByteArray) : Prop :=
  ∃ front back, b = front ++ (part ++ back) ∧ front.size = pos

namespace At
variable {b part first rest : ByteArray} {pos : Nat}

theorem refl (part : ByteArray) : At part 0 part :=
  ⟨.empty, .empty, by simp, rfl⟩

theorem of_append (front part : ByteArray) : At (front ++ part) front.size part :=
  ⟨front, .empty, by simp, rfl⟩

theorem le_size (h : At b pos part) : pos + part.size ≤ b.size := by
  obtain ⟨front, back, rfl, rfl⟩ := h
  simp only [ByteArray.size_append]
  omega

theorem extract_eq (h : At b pos part) : b.extract pos (pos + part.size) = part := by
  obtain ⟨front, back, rfl, rfl⟩ := h
  have hshift := ByteArray.extract_append_size_add (a := front) (b := part ++ back) (i := 0)
    (j := part.size)
  rw [Nat.add_zero] at hshift
  rw [hshift, ByteArray.extract_append_eq_left rfl]

theorem left (h : At b pos (first ++ rest)) : At b pos first := by
  obtain ⟨front, back, rfl, rfl⟩ := h
  exact ⟨front, rest ++ back, by rw [ByteArray.append_assoc], rfl⟩

theorem right (h : At b pos (first ++ rest)) : At b (pos + first.size) rest := by
  obtain ⟨front, back, rfl, rfl⟩ := h
  exact ⟨front ++ first, back, by simp only [ByteArray.append_assoc], ByteArray.size_append⟩

/-- A word that stands at a position is read there. -/
theorem valueAt_word {n v : Nat} (h : At b pos (word n v)) (hv : v < 256 ^ n) :
    valueAt b n pos = v := by
  have hpart := h.extract_eq
  rw [size_word] at hpart
  rw [valueAt, hpart, value_word_of_lt hv]

end At

end ReleaseFeed.Bytes
