/-!
# Texts of limited size

A text of limited size is the longest run of whole characters at the start of a text whose UTF-8 form
fits the limit.  A character that does not fit ends the run, even if a later one would fit.
-/
namespace ReleaseFeed.Telemetry

/-- The characters at the start that fit into `budget` bytes. -/
def fitting : (budget : Nat) → List Char → List Char
  | _, [] => []
  | budget, c :: rest =>
    if c.utf8Size ≤ budget then c :: fitting (budget - c.utf8Size) rest else []

/-- The bytes of the UTF-8 form. -/
def byteCount (cs : List Char) : Nat :=
  cs.foldr (fun c count => c.utf8Size + count) 0

theorem byteCount_fitting_le (budget : Nat) (cs : List Char) :
    byteCount (fitting budget cs) ≤ budget := by
  induction cs generalizing budget with
  | nil => simp [fitting, byteCount]
  | cons c rest ih =>
    unfold fitting
    split
    · have := ih (budget - c.utf8Size)
      simp only [byteCount, List.foldr_cons] at *
      omega
    · simp [byteCount]

/-- Characters that fit altogether are all kept. -/
theorem fitting_of_byteCount_le {budget : Nat} {cs : List Char} (h : byteCount cs ≤ budget) :
    fitting budget cs = cs := by
  induction cs generalizing budget with
  | nil => rfl
  | cons c rest ih =>
    have hsum : c.utf8Size + byteCount rest ≤ budget := h
    have hrest : byteCount rest ≤ budget - c.utf8Size := by omega
    rw [fitting, if_pos (Nat.le_of_add_right_le hsum), ih hrest]

/-- A text of at most `limit` bytes. -/
structure FixedText (limit : Nat) where
  chars : List Char
  byteCount_le : byteCount chars ≤ limit
deriving DecidableEq

namespace FixedText

variable {limit : Nat}

/-- As much of a text as fits. -/
def ofString (limit : Nat) (s : String) : FixedText limit :=
  ⟨fitting limit s.toList, byteCount_fitting_le limit s.toList⟩

/-- The empty text. -/
def empty : FixedText limit :=
  ⟨[], Nat.zero_le _⟩

instance : Inhabited (FixedText limit) := ⟨empty⟩

/-- The text itself. -/
def text (t : FixedText limit) : String :=
  String.ofList t.chars

/-- What was cut to size once is not cut again. -/
theorem ofString_text (t : FixedText limit) : ofString limit t.text = t := by
  have hchars : fitting limit t.text.toList = t.chars := by
    rw [text, String.toList_ofList, fitting_of_byteCount_le t.byteCount_le]
  cases t with
  | mk chars hle => simpa only [ofString, mk.injEq] using hchars

/-- How many bytes are used. -/
def size (t : FixedText limit) : Nat :=
  byteCount t.chars

/-- No bytes are used. -/
def isEmpty (t : FixedText limit) : Bool :=
  t.size == 0

end FixedText

end ReleaseFeed.Telemetry
