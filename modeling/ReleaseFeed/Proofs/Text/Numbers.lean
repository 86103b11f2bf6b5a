import ReleaseFeed.Proofs.Text.Digits

/-! # Numbers and the marks between them

A text that is made of numbers can be read without knowing how it is made: its runs of digits are the
numbers, and what is left are the marks between them.  A number is read as what was written
(`numbers_padded`), as long as another character stands between it and the next one
(`numbers_append_mark`).
-/
namespace ReleaseFeed.Text

/-- The numbers in a text, one for each run of digits. -/
def numbers (cs : List Char) : List Nat :=
  ((cs.splitOnP fun c => !isDigit c).filter (· ≠ [])).map digitsValue

/-- The characters of a text that are no digits. -/
def marks (cs : List Char) : List Char :=
  cs.filter fun c => !isDigit c

variable {cs : List Char} {mark : Char}

theorem numbers_append_mark (h : isDigit mark = false) (cs rest : List Char) :
    numbers (cs ++ mark :: rest) = numbers cs ++ numbers rest := by
  have hmark : (!isDigit mark) = true := by rw [h]; rfl
  rw [numbers, List.splitOnP_append_cons cs rest hmark, List.filter_append, List.map_append]
  rfl

theorem numbers_cons_mark (h : isDigit mark = false) (rest : List Char) :
    numbers (mark :: rest) = numbers rest :=
  numbers_append_mark h [] rest

theorem numbers_of_digits (h : ∀ c ∈ cs, isDigit c = true) (hne : cs ≠ []) :
    numbers cs = [digitsValue cs] := by
  have hrun : (cs.splitOnP fun c => !isDigit c) = [cs] := by
    refine List.splitOnP_eq_singleton fun c hc => ?_
    rw [h c hc]
    rfl
  rw [numbers, hrun]
  simp [hne]

theorem marks_append_mark (h : isDigit mark = false) (cs rest : List Char) :
    marks (cs ++ mark :: rest) = marks cs ++ mark :: marks rest := by
  simp only [marks, List.filter_append, List.filter_cons, h, Bool.not_false, if_true]

theorem marks_cons_mark (h : isDigit mark = false) (rest : List Char) :
    marks (mark :: rest) = mark :: marks rest :=
  marks_append_mark h [] rest

variable (width n : Nat)

theorem numbers_padded : numbers (padded width n).toList = [n] := by
  have hne : (padded width n).toList ≠ [] := by
    rw [toList_padded]
    exact List.append_ne_nil_of_right_ne_nil _ Nat.toDigits_ne_nil
  rw [numbers_of_digits (fun _ hc => isDigit_of_mem_padded width n hc) hne, digitsValue_padded]

theorem marks_padded : marks (padded width n).toList = [] := by
  refine List.filter_eq_nil_iff.mpr fun c hc => ?_
  rw [isDigit_of_mem_padded width n hc]
  decide

theorem numbers_nat : numbers (toString n).toList = [n] := by
  rw [toString_eq_padded]
  exact numbers_padded 0 n

theorem marks_nat : marks (toString n).toList = [] := by
  rw [toString_eq_padded]
  exact marks_padded 0 n

end ReleaseFeed.Text
