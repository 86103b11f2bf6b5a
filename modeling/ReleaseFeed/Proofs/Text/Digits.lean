import Mathlib.Data.List.Induction
import Mathlib.Data.Nat.Digits.Defs
import ReleaseFeed.Text.Digits

/-! # Numbers in base ten and back

A number that is written with padding is read as the same number (`digitsValue_padded`): leading
zeros count for nothing.  What is written are digits, at least as many as asked for
(`le_length_padded`) and no more than that unless the number needs them (`length_padded_le`).
-/
namespace ReleaseFeed.Text

theorem isDigit_iff_toNat {c : Char} : isDigit c = true ↔ 48 ≤ c.toNat ∧ c.toNat ≤ 57 := by
  rw [isDigit, Bool.and_eq_true, decide_eq_true_eq, decide_eq_true_eq, Char.le_def, Char.le_def,
    UInt32.le_iff_toNat_le, UInt32.le_iff_toNat_le]
  rfl

/-- A digit is no character that is none. -/
theorem ne_of_isDigit {c mark : Char} (h : isDigit c = true) (hmark : isDigit mark = false) :
    c ≠ mark := by
  rintro rfl
  rw [hmark] at h
  cases h

theorem digitsValue_eq_ofDigitChars (digits : List Char) :
    digitsValue digits = Nat.ofDigitChars 10 digits 0 := by
  induction digits using List.reverseRecOn with
  | nil => rfl
  | append_singleton digits c ih =>
    rw [digitsValue_concat, ih, Nat.ofDigitChars_append, Nat.ofDigitChars_cons,
      Nat.ofDigitChars_nil]
    rfl

theorem toString_eq_padded (n : Nat) : toString n = padded 0 n := by
  rw [padded, Nat.zero_sub, List.replicate_zero, String.ofList_nil, String.empty_append]

variable (width n : Nat)

theorem toList_padded : (padded width n).toList =
    List.replicate (width - (Nat.toDigits 10 n).length) '0' ++ Nat.toDigits 10 n := by
  have htext : toString n = String.ofList (Nat.toDigits 10 n) := Nat.toString_eq_ofList_toDigits
  rw [padded, htext, String.toList_append, String.toList_ofList, String.toList_ofList,
    String.length_ofList]

/-- Leading zeros count for nothing. -/
theorem digitsValue_replicate_append (zeros : Nat) (digits : List Char) :
    digitsValue (List.replicate zeros '0' ++ digits) = digitsValue digits := by
  rw [digitsValue_eq_ofDigitChars, digitsValue_eq_ofDigitChars, Nat.ofDigitChars_append,
    Nat.ofDigitChars_replicate_zero, Nat.mul_zero]

/-- A padded number is read as the number. -/
theorem digitsValue_padded : digitsValue (padded width n).toList = n := by
  rw [toList_padded, digitsValue_replicate_append, digitsValue_eq_ofDigitChars,
    Nat.ofDigitChars_ten_toDigits]

theorem isDigit_of_mem_padded {c : Char} (hc : c ∈ (padded width n).toList) : isDigit c = true := by
  rw [toList_padded, List.mem_append] at hc
  rcases hc with hzero | hdigit
  · rw [List.eq_of_mem_replicate hzero]
    rfl
  · have hcore := Nat.isDigit_of_mem_toDigits (by omega) (by omega) hdigit
    simpa [isDigit, Char.isDigit, Char.le_def] using hcore

theorem length_padded :
    (padded width n).toList.length = max width (Nat.toDigits 10 n).length := by
  rw [toList_padded, List.length_append, List.length_replicate]
  omega

theorem le_length_padded : width ≤ (padded width n).toList.length := by
  rw [length_padded]
  exact Nat.le_max_left _ _

theorem length_padded_le {width n most : Nat} (hpos : 0 < most) (hwidth : width ≤ most)
    (hn : n < 10 ^ most) : (padded width n).toList.length ≤ most := by
  rw [length_padded]
  exact Nat.max_le.mpr ⟨hwidth, Nat.toDigits_length 10 n most hpos hn⟩

/-! ## Runs of digits -/

section Runs
variable {digits more : List Char}

theorem digitValue_of_isDigit {c : Char} (h : isDigit c = true) :
    c.toNat = 48 + digitValue c ∧ digitValue c < 10 := by
  have hbounds := isDigit_iff_toNat.mp h
  have hvalue : digitValue c = c.toNat - 48 := rfl
  omega

theorem digitsValue_lt (h : ∀ c ∈ digits, isDigit c = true) :
    digitsValue digits < 10 ^ digits.length := by
  induction digits using List.reverseRecOn with
  | nil => exact Nat.one_pos
  | append_singleton digits c ih =>
    obtain ⟨hdigits, hc⟩ := List.forall_mem_append.mp h
    have hvalue := ih hdigits
    have hlast := digitValue_of_isDigit (hc c List.mem_cons_self)
    rw [digitsValue_concat, List.length_append, List.length_singleton, Nat.pow_succ]
    omega

/-- A run of digits is known by its length and its value. -/
theorem eq_of_digitsValue_eq (h : ∀ c ∈ digits, isDigit c = true)
    (hmore : ∀ c ∈ more, isDigit c = true) (hlength : digits.length = more.length)
    (hvalue : digitsValue digits = digitsValue more) : digits = more := by
  induction digits using List.reverseRecOn generalizing more with
  | nil => exact (List.length_eq_zero_iff.mp hlength.symm).symm
  | append_singleton digits c ih =>
    rcases List.eq_nil_or_concat more with rfl | ⟨more, d, rfl⟩
    · rw [List.length_append] at hlength
      cases hlength
    · rw [List.concat_eq_append] at *
      obtain ⟨hdigits, hc⟩ := List.forall_mem_append.mp h
      obtain ⟨hmore, hd⟩ := List.forall_mem_append.mp hmore
      have hcvalue := digitValue_of_isDigit (hc c List.mem_cons_self)
      have hdvalue := digitValue_of_isDigit (hd d List.mem_cons_self)
      rw [digitsValue_concat, digitsValue_concat] at hvalue
      rw [List.length_append, List.length_append] at hlength
      have hlast : c = d := Char.ext (UInt32.toNat_inj.mp (show c.toNat = d.toNat by omega))
      rw [ih hdigits hmore (Nat.add_right_cancel hlength) (by omega), hlast]

theorem isDigit_of_mem_replicate_append {zeros : Nat} (h : ∀ c ∈ digits, isDigit c = true) :
    ∀ c ∈ List.replicate zeros '0' ++ digits, isDigit c = true := by
  intro c hc
  rcases List.mem_append.mp hc with hzero | hdigit
  · rw [List.eq_of_mem_replicate hzero]
    rfl
  · exact h c hdigit

/-- A run of digits is its value with as many digits as asked for, behind some zeros. -/
theorem exists_replicate_append_padded {width : Nat} (h : ∀ c ∈ digits, isDigit c = true)
    (hne : digits ≠ []) (hwidth : width ≤ digits.length) :
    ∃ zeros, digits = List.replicate zeros '0' ++ (padded width (digitsValue digits)).toList := by
  have hpos : 0 < digits.length := List.length_pos_iff.mpr hne
  have hle := length_padded_le hpos hwidth (digitsValue_lt h)
  refine ⟨digits.length - (padded width (digitsValue digits)).toList.length,
    eq_of_digitsValue_eq h ?_ ?_ ?_⟩
  · exact isDigit_of_mem_replicate_append fun _ => isDigit_of_mem_padded _ _
  · rw [List.length_append, List.length_replicate]
    omega
  · rw [digitsValue_replicate_append, digitsValue_padded]

end Runs

/-- A character takes four bytes at most. -/
theorem utf8ByteSize_le (s : String) : s.utf8ByteSize ≤ 4 * s.toList.length := by
  induction s using String.push_induction with
  | empty => exact Nat.zero_le _
  | push s c ih =>
    have hc := c.utf8Size_le_four
    rw [String.utf8ByteSize_push, String.toList_push, List.length_append, List.length_singleton]
    omega

end ReleaseFeed.Text
