import ReleaseFeed.Program.Verdict

/-!
# Decoding captures

Decoding publishes files on a bus that nobody observes, so that every accepted file becomes a line on the
fallback sink of the bus.
-/
namespace ReleaseFeed.Decoding

/-- How many files were rendered, and how many were put aside. -/
structure Summary where
  rendered : Nat := 0
  rejected : Nat := 0
deriving DecidableEq, Repr, Inhabited

/-- The part of the program that the spans of decoding name. -/
def part : String := "decode"

/-- The summary after one more file. -/
def Summary.count (s : Summary) (v : Verdict) : Summary :=
  if v.isAccepted then { s with rendered := s.rendered + 1 }
  else { s with rejected := s.rejected + 1 }

variable {ω σ : Type} [Observer ω σ]

/-- The summary and the station after one more file. -/
def step (state : Summary × Station ω σ) (v : Visit) : Summary × Station ω σ :=
  let verdict := Verdict.of v.content
  (state.1.count verdict, verdict.publish v.time part state.2)

/-- The summary and the station after a list of files. -/
def files (visits : List Visit) (s : Station ω σ) : Summary × Station ω σ :=
  visits.foldl step ({}, s)

end ReleaseFeed.Decoding
