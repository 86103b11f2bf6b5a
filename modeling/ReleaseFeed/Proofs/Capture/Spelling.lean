import Mathlib
import ReleaseFeed.Proofs.Capture.Order

/-! # All names of a number

A capture is saved under the name of its number, and a folder is read by the numbers of its names.  A number may
be read with more zeros before its digits than it is written with, but this is all that reading forgives: the
names that are read as a number are its own name and those with further zeros in it
(`number?_eq_some_iff_spelled`).  They have different lengths, and the own name is the shortest of them
(`eq_of_length_eq`, `eq_nameOf_iff`).

So files of one folder have different numbers unless a name has further zeros (`nodup_numbers`).  Then the order
in which they are listed does not depend on the order in which the names were found (`inOrder_eq_of_perm`).
With further zeros two files can have one number, and are listed as they were found
(`inOrder_sharedNumber`).
-/
namespace ReleaseFeed.Capture

/-! ## Further zeros -/

/-- The name of a number with further zeros before the digits. -/
def spelledWith (zeros : Nat) (number : UInt32) : String :=
  nameFront ++ (String.ofList (List.replicate zeros '0') ++ Text.padded minDigits number.toNat)
    ++ nameBack

variable {a b name : String} {number : UInt32} {names names' : List String}

theorem toList_spelledWith (zeros : Nat) (number : UInt32) : (spelledWith zeros number).toList =
    nameFront.toList ++ (List.replicate zeros '0' ++
      (Text.padded minDigits number.toNat).toList ++ nameBack.toList) := by
  simp only [spelledWith, String.toList_append, String.toList_ofList, List.append_assoc]

theorem spelledWith_zero (number : UInt32) : spelledWith 0 number = nameOf number := by
  rw [spelledWith, List.replicate_zero, String.ofList_nil, String.empty_append, nameOf]

theorem length_spelledWith (zeros : Nat) (number : UInt32) :
    (spelledWith zeros number).length = zeros + (nameOf number).length := by
  rw [← String.length_toList, ← String.length_toList, toList_spelledWith, toList_nameOf]
  simp only [List.length_append, List.length_replicate]
  omega

/-- Exactly the names of a number are read as the number. -/
theorem number?_eq_some_iff_spelled :
    number? name = some number ↔ ∃ zeros, name = spelledWith zeros number := by
  rw [number?_eq_some_iff]
  constructor
  · rintro ⟨digits, hname, hwidth, hdigits, hvalue⟩
    have hne : digits ≠ [] := List.ne_nil_of_length_pos (Nat.lt_of_lt_of_le (by decide) hwidth)
    obtain ⟨zeros, hzeros⟩ := Text.exists_replicate_append_padded hdigits hne hwidth
    rw [hvalue] at hzeros
    refine ⟨zeros, String.toList_inj.mp ?_⟩
    rw [hname, toList_spelledWith, ← hzeros]
  · rintro ⟨zeros, rfl⟩
    have hpadded := Text.le_length_padded minDigits number.toNat
    refine ⟨_, toList_spelledWith zeros number, ?_, ?_, ?_⟩
    · rw [List.length_append]
      exact Nat.le_add_left_of_le hpadded
    · exact Text.isDigit_of_mem_replicate_append fun _ => Text.isDigit_of_mem_padded _ _
    · rw [Text.digitsValue_replicate_append, Text.digitsValue_padded]

/-- Two names of one number differ in length. -/
theorem eq_of_length_eq (ha : number? a = some number) (hb : number? b = some number)
    (h : a.length = b.length) : a = b := by
  obtain ⟨zeros, rfl⟩ := number?_eq_some_iff_spelled.mp ha
  obtain ⟨zeros', rfl⟩ := number?_eq_some_iff_spelled.mp hb
  rw [length_spelledWith, length_spelledWith] at h
  rw [Nat.add_right_cancel h]

/-- The name that a number is given is the shortest one that is read as the number. -/
theorem eq_nameOf_iff (h : number? name = some number) :
    name = nameOf number ↔ name.length ≤ (nameOf number).length := by
  constructor
  · rintro rfl
    exact Nat.le_refl _
  · intro hle
    obtain ⟨zeros, rfl⟩ := number?_eq_some_iff_spelled.mp h
    rw [length_spelledWith] at hle
    obtain rfl : zeros = 0 := by omega
    exact spelledWith_zero number

/-! ## Numbers in a folder -/

/-- The name is not read as a number, or is the one that the number is given. -/
def IsOwn (name : String) : Prop :=
  ∀ number, number? name = some number → name = nameOf number

/-- The numbers in a folder are different if no name has further zeros. -/
theorem nodup_numbers (h : names.Nodup) (hown : ∀ name ∈ names, IsOwn name) :
    ((numbered names).map Prod.fst).Nodup := by
  have hnodup : (numbered names).Nodup := by
    refine List.Nodup.of_map Prod.snd ?_
    rw [map_snd_numbered]
    exact h.filter _
  refine hnodup.map_on fun x hx y hy hsame => Prod.ext hsame ?_
  obtain ⟨hxmem, hxnumber⟩ := mem_numbered.mp hx
  obtain ⟨hymem, hynumber⟩ := mem_numbered.mp hy
  rw [hown _ hxmem _ hxnumber, hown _ hymem _ hynumber, hsame]

/-- With different numbers there is only one order to list a folder in. -/
theorem inOrder_eq_of_perm (h : ((numbered names).map Prod.fst).Nodup)
    (hperm : names'.Perm names) : inOrder names' = inOrder names := by
  obtain ⟨entries, hinOrder, hentries, hsorted⟩ := exists_inOrder_eq names
  obtain ⟨entries', hinOrder', hentries', hsorted'⟩ := exists_inOrder_eq names'
  have hnumbered : entries'.Perm (numbered names) := hentries'.trans (hperm.filterMap _)
  rw [hinOrder, hinOrder']
  refine congrArg _ (List.Perm.eq_of_pairwise ?_ hsorted' hsorted (hnumbered.trans hentries.symm))
  intro x y hx hy hle hge
  exact List.inj_on_of_nodup_map h (hnumbered.subset hx) (hentries.subset hy)
    (UInt32.le_antisymm hle hge)

/-- How the names in a folder and the numbers belong together. -/
structure Corresponds (names : List String) : Prop where
  number_iff : ∀ name number,
    number? name = some number ↔ ∃ zeros, name = spelledWith zeros number
  number_nameOf : ∀ number, number? (nameOf number) = some number
  /-- A name that is read as a number is the one that the number is given unless it is longer. -/
  own_iff : ∀ name number, number? name = some number →
    (name = nameOf number ↔ name.length ≤ (nameOf number).length)
  /-- Two files that have one number have names of different lengths. -/
  shared : ∀ a ∈ names, ∀ b ∈ names, ∀ number, number? a = some number →
    number? b = some number → a.length = b.length → a = b
  /-- Where no name has further zeros, numbers are different and there is one order to list them in. -/
  own : names.Nodup → (∀ name ∈ names, IsOwn name) →
    ((numbered names).map Prod.fst).Nodup ∧
      ∀ names' : List String, names'.Perm names → inOrder names' = inOrder names

/-- **Names and numbers correspond**, up to further zeros in the names. -/
theorem corresponds (names : List String) : Corresponds names where
  number_iff _ _ := number?_eq_some_iff_spelled
  number_nameOf := number?_nameOf
  own_iff _ _ := eq_nameOf_iff
  shared _ _ _ _ _ := eq_of_length_eq
  own h hown := ⟨nodup_numbers h hown, fun _ => inOrder_eq_of_perm (nodup_numbers h hown)⟩

/-- With one more zero, another name is read as the number 1, and the two are listed as they were found. -/
theorem inOrder_sharedNumber :
    number? "fb_0000001.bin" = some 1 ∧ "fb_0000001.bin" ≠ nameOf 1 ∧
    inOrder ["fb_000001.bin", "fb_0000001.bin"] = ["fb_000001.bin", "fb_0000001.bin"] ∧
    inOrder ["fb_0000001.bin", "fb_000001.bin"] = ["fb_0000001.bin", "fb_000001.bin"] := by
  have hown : numbered ["fb_000001.bin", "fb_0000001.bin"] =
      [(1, "fb_000001.bin"), (1, "fb_0000001.bin")] := by decide
  have hother : numbered ["fb_0000001.bin", "fb_000001.bin"] =
      [(1, "fb_0000001.bin"), (1, "fb_000001.bin")] := by decide
  refine ⟨by decide, by decide, ?_, ?_⟩
  · rw [inOrder, hown, List.mergeSort_of_pairwise (by decide)]
    rfl
  · rw [inOrder, hother, List.mergeSort_of_pairwise (by decide)]
    rfl

end ReleaseFeed.Capture
