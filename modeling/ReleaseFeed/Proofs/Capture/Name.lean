import ReleaseFeed.Capture.Folder
import ReleaseFeed.Proofs.Text.Digits

/-! # Names of captures

The name of a number is read as that number (`number?_nameOf`), so different numbers have
different names.  The number after the last one of a folder is above all numbers in it
(`le_lastNumber`), which is why its name is not there yet (`nameOf_notMem`).
-/
namespace ReleaseFeed.Capture

/-! ## Names -/

theorem between?_eq_some_iff {front middle back cs : List Char} :
    between? front back cs = some middle ↔ cs = front ++ (middle ++ back) := by
  simp only [between?, Option.ite_none_right_eq_some, Bool.and_eq_true,
    List.isPrefixOf_iff_prefix, List.isSuffixOf_iff_suffix, Option.some_inj]
  constructor
  · rintro ⟨⟨⟨rest, rfl⟩, hback⟩, rfl⟩
    rw [List.drop_left] at hback ⊢
    obtain ⟨middle, rfl⟩ := hback
    rw [List.length_append, Nat.add_sub_cancel, List.take_left]
  · rintro rfl
    refine ⟨⟨List.prefix_append _ _, ?_⟩, ?_⟩
    · rw [List.drop_left]
      exact List.suffix_append _ _
    · rw [List.drop_left, List.length_append, Nat.add_sub_cancel, List.take_left]

/-- A name has a number if it has enough digits in the right place, and their value is the number. -/
theorem number?_eq_some_iff {name : String} {number : UInt32} : number? name = some number ↔
    ∃ digits, name.toList = nameFront.toList ++ (digits ++ nameBack.toList) ∧
      minDigits ≤ digits.length ∧ (∀ c ∈ digits, Text.isDigit c = true) ∧
      Text.digitsValue digits = number.toNat := by
  simp only [number?, Option.bind_eq_bind, Option.bind_eq_some_iff, between?_eq_some_iff,
    Option.ite_none_left_eq_some, Bool.or_eq_true, decide_eq_true_eq, not_or, Nat.not_lt,
    Nat.not_le, Bool.not_eq_true', Bool.not_eq_false, List.all_eq_true, Option.some_inj]
  constructor
  · rintro ⟨digits, hname, ⟨⟨hwidth, hdigits⟩, hfits⟩, rfl⟩
    exact ⟨digits, hname, hwidth, hdigits, (UInt32.toNat_ofNat_of_lt' hfits).symm⟩
  · rintro ⟨digits, hname, hwidth, hdigits, hvalue⟩
    refine ⟨digits, hname, ⟨⟨hwidth, hdigits⟩, ?_⟩, ?_⟩
    · rw [hvalue]
      exact number.toNat_lt_size
    · rw [hvalue, UInt32.ofNat_toNat]

theorem toList_nameOf (number : UInt32) : (nameOf number).toList =
    nameFront.toList ++ ((Text.padded minDigits number.toNat).toList ++ nameBack.toList) := by
  rw [nameOf, String.toList_append, String.toList_append, List.append_assoc]

/-- The name of a number is read as the number. -/
theorem number?_nameOf (number : UInt32) : number? (nameOf number) = some number :=
  number?_eq_some_iff.mpr ⟨_, toList_nameOf number, Text.le_length_padded _ _,
    fun _ => Text.isDigit_of_mem_padded _ _, Text.digitsValue_padded _ _⟩

theorem nameOf_ne_of_number? {name : String} (h : number? name = none) (number : UInt32) :
    nameOf number ≠ name := by
  rintro rfl
  rw [number?_nameOf] at h
  cases h

/-- The name of a number can be the name of a file. -/
theorem isIdle_nameOf (number : UInt32) : Storage.isIdle (nameOf number) = false := by
  have hempty : nameOf number ≠ "" := nameOf_ne_of_number? (by decide) number
  have hdot : nameOf number ≠ "." := nameOf_ne_of_number? (by decide) number
  simp only [Storage.isIdle, hempty, hdot, decide_false, Bool.or_self]

theorem utf8ByteSize_nameOf_le (number : UInt32) :
    (nameOf number).utf8ByteSize ≤ Storage.Disk.nameLimit := by
  have hbytes := Text.utf8ByteSize_le (nameOf number)
  have hnumber : number.toNat < 10 ^ 10 := lt_trans number.toNat_lt_size (by decide)
  have hdigits : (Text.padded minDigits number.toNat).toList.length ≤ 10 :=
    Text.length_padded_le (by decide) (by decide) hnumber
  have hfront : nameFront.toList.length = 3 := by decide
  have hback : nameBack.toList.length = 4 := by decide
  rw [toList_nameOf, List.length_append, List.length_append, hfront, hback] at hbytes
  have hlimit : 4 * (3 + (10 + 4)) ≤ Storage.Disk.nameLimit := by decide
  omega

/-! ## Numbers in a folder -/

theorem numbered_append (names more : List String) :
    numbered (names ++ more) = numbered names ++ numbered more :=
  List.filterMap_append

theorem mem_numbered {names : List String} {entry : UInt32 × String} :
    entry ∈ numbered names ↔ entry.2 ∈ names ∧ number? entry.2 = some entry.1 := by
  obtain ⟨number, name⟩ := entry
  simp only [numbered, List.mem_filterMap, Option.map_eq_some_iff, Prod.mk.injEq]
  constructor
  · rintro ⟨_, hmem, _, hnumber, rfl, rfl⟩
    exact ⟨hmem, hnumber⟩
  · rintro ⟨hmem, hnumber⟩
    exact ⟨name, hmem, number, hnumber, rfl, rfl⟩

theorem numbered_singleton {name : String} {number : UInt32} (h : number? name = some number) :
    numbered [name] = [(number, name)] := by
  rw [numbered, List.filterMap_cons, h]
  rfl

theorem lastNumber_concat_of_none {name : String} (h : number? name = none)
    (names : List String) : lastNumber (names ++ [name]) = lastNumber names := by
  have hnone : numbered [name] = [] := by
    rw [numbered, List.filterMap_cons, h]
    rfl
  rw [lastNumber, numbered_append, hnone, List.append_nil, lastNumber]

theorem lastNumber_concat_of_some {name : String} {number : UInt32}
    (h : number? name = some number) (names : List String) :
    lastNumber (names ++ [name]) =
      if lastNumber names < number then number else lastNumber names := by
  rw [lastNumber, numbered_append, numbered_singleton h, List.foldl_append]
  rfl

theorem lastNumber_le_concat (names : List String) (name : String) :
    lastNumber names ≤ lastNumber (names ++ [name]) := by
  cases hnumber : number? name with
  | none =>
    rw [lastNumber_concat_of_none hnumber]
    exact UInt32.le_refl _
  | some number =>
    rw [lastNumber_concat_of_some hnumber]
    split
    case isTrue hlt => exact UInt32.le_of_lt hlt
    case isFalse => exact UInt32.le_refl _

theorem le_lastNumber_concat {name : String} {number : UInt32} (h : number? name = some number)
    (names : List String) : number ≤ lastNumber (names ++ [name]) := by
  rw [lastNumber_concat_of_some h]
  split
  case isTrue => exact UInt32.le_refl _
  case isFalse hnot => exact UInt32.not_lt.mp hnot

/-- No number in a folder is above the last one. -/
theorem le_lastNumber {names : List String} {name : String} {number : UInt32}
    (hmem : name ∈ names) (hnumber : number? name = some number) :
    number ≤ lastNumber names := by
  induction names using List.reverseRecOn with
  | nil => cases hmem
  | append_singleton names newest ih =>
    rw [List.mem_append, List.mem_singleton] at hmem
    rcases hmem with hmem | rfl
    · exact UInt32.le_trans (ih hmem) (lastNumber_le_concat names newest)
    · exact le_lastNumber_concat hnumber names

/-- A number above the last one is not taken. -/
theorem nameOf_notMem {names : List String} {number : UInt32} (h : lastNumber names < number) :
    nameOf number ∉ names := by
  intro hmem
  exact absurd (le_lastNumber hmem (number?_nameOf number)) (UInt32.not_le.mpr h)

/-- As long as there is a number after the last one, it is above. -/
theorem toNat_numberAfter {number : UInt32} (h : number.toNat + 1 < UInt32.size) :
    (numberAfter number).toNat = number.toNat + 1 := by
  rw [numberAfter, if_pos h, UInt32.toNat_add, UInt32.toNat_one, Nat.mod_eq_of_lt h]

theorem lt_numberAfter {number : UInt32} (h : number.toNat + 1 < UInt32.size) :
    number < numberAfter number := by
  rw [UInt32.lt_iff_toNat_lt, toNat_numberAfter h]
  exact Nat.lt_succ_self _

/-- The name that the next capture gets among the names in a folder. -/
def nextName (names : List String) : String :=
  nameOf (numberAfter (lastNumber names))

section NextName
variable {names : List String} (h : (lastNumber names).toNat + 1 < UInt32.size)
include h

theorem nextName_notMem : nextName names ∉ names :=
  nameOf_notMem (lt_numberAfter h)

theorem nextName_eq : nextName names = nameOf (.ofNat ((lastNumber names).toNat + 1)) := by
  rw [nextName, ← toNat_numberAfter h, UInt32.ofNat_toNat]

/-- With the next capture in the folder, its number is the last one. -/
theorem toNat_lastNumber_concat :
    (lastNumber (names ++ [nextName names])).toNat = (lastNumber names).toNat + 1 := by
  rw [nextName, lastNumber_concat_of_some (number?_nameOf _), if_pos (lt_numberAfter h),
    toNat_numberAfter h]

end NextName

/-! ## Numbers in a row -/

/-- The numbers that come after a number. -/
def numbersAfter (last : Nat) (n : Nat) : List UInt32 :=
  (List.range' (last + 1) n).map .ofNat

/-- The names of captures that have these numbers. -/
def namesAfter (last : Nat) (n : Nat) : List String :=
  (numbersAfter last n).map nameOf

theorem namesAfter_succ (last n : Nat) :
    namesAfter last (n + 1) = nameOf (.ofNat (last + 1)) :: namesAfter (last + 1) n := by
  rw [namesAfter, numbersAfter, List.range'_succ, List.map_cons, List.map_cons, namesAfter,
    numbersAfter]

theorem length_namesAfter (last n : Nat) : (namesAfter last n).length = n := by
  rw [namesAfter, numbersAfter, List.length_map, List.length_map, List.length_range']

theorem lt_of_mem_numbersAfter {last number : UInt32} {n : Nat}
    (hroom : last.toNat + n < UInt32.size) (h : number ∈ numbersAfter last.toNat n) :
    last < number := by
  obtain ⟨value, hvalue, rfl⟩ := List.mem_map.mp h
  rw [List.mem_range'_1] at hvalue
  rw [UInt32.lt_iff_toNat_lt, UInt32.toNat_ofNat_of_lt' (by omega)]
  omega

theorem pairwise_numbersAfter {last n : Nat} (hroom : last + n < UInt32.size) :
    (numbersAfter last n).Pairwise (· < ·) := by
  rw [numbersAfter, List.pairwise_map]
  refine (List.pairwise_lt_range' 1).imp_of_mem fun {a b} ha hb hlt => ?_
  rw [List.mem_range'_1] at ha hb
  rw [UInt32.lt_iff_toNat_lt, UInt32.toNat_ofNat_of_lt' (by omega),
    UInt32.toNat_ofNat_of_lt' (by omega)]
  exact hlt

end ReleaseFeed.Capture
