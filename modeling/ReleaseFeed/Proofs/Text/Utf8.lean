import Mathlib.Data.String.Basic

/-! # Texts as bytes

Bytes are a text if and only if they are the bytes of one (`fromUTF8?_eq_some_iff`).  An offset into the
bytes of a text is one of its ends, or stands between two characters, if and only if it is the size of a start
of the text (`isValid_iff_exists_prefix`); the bytes before it are then those of the start
(`extract_of_prefix`).
-/
namespace ReleaseFeed.Text
variable {s : String} {front : List Char}

theorem fromUTF8?_eq_some_iff {bytes : ByteArray} :
    String.fromUTF8? bytes = some s ↔ bytes = s.toUTF8 := by
  unfold String.fromUTF8?
  split
  · next h =>
    rw [Option.some.injEq]
    constructor
    · rintro rfl
      rfl
    · rintro rfl
      rfl
  · next h => exact ⟨nofun, fun hs => absurd (hs ▸ s.isValidUTF8) h⟩

theorem eq_append_of_prefix (h : front <+: s.toList) : ∃ tail, s = String.ofList front ++ tail := by
  obtain ⟨tail, htail⟩ := h
  refine ⟨String.ofList tail, ?_⟩
  rw [← String.ofList_append, htail, String.ofList_toList]

theorem utf8ByteSize_le_of_prefix (h : front <+: s.toList) :
    (String.ofList front).utf8ByteSize ≤ s.utf8ByteSize := by
  obtain ⟨tail, rfl⟩ := eq_append_of_prefix h
  rw [String.utf8ByteSize_append]
  exact Nat.le_add_right _ _

theorem extract_of_prefix (h : front <+: s.toList) :
    s.toUTF8.extract 0 (String.ofList front).utf8ByteSize = (String.ofList front).toUTF8 := by
  obtain ⟨tail, rfl⟩ := eq_append_of_prefix h
  rw [String.toUTF8_eq_toByteArray, String.toByteArray_append, String.toUTF8_eq_toByteArray]
  exact ByteArray.extract_append_eq_left rfl

theorem isValid_iff_exists_prefix {p : String.Pos.Raw} :
    p.IsValid s ↔ ∃ front, front <+: s.toList ∧ (String.ofList front).utf8ByteSize = p.byteIdx := by
  rw [String.Pos.Raw.isValid_iff_exists_take_toList]
  constructor
  · rintro ⟨n, hn⟩
    exact ⟨s.toList.take n, List.take_prefix _ _, hn.symm⟩
  · rintro ⟨front, hfront, hsize⟩
    refine ⟨front.length, ?_⟩
    rw [← List.prefix_iff_eq_take.mp hfront, hsize]

end ReleaseFeed.Text
