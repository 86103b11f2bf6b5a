import Mathlib.Data.String.Basic
import ReleaseFeed.Proofs.Number.Scanning
import ReleaseFeed.Telemetry.FixedText

/-! # The longest start that fits

A text that is cut to size keeps whole characters from its start on, as many as have room in UTF-8
(`longestStart_fitting`).  It is the longest start that has room, because every start that does is kept:
what follows it does not matter (`prefix_fitting_append`).
-/
namespace ReleaseFeed.Telemetry
open Number (LongestStart)

/-- The characters take at most `limit` bytes in UTF-8. -/
def Fits (limit : Nat) (cs : List Char) : Prop :=
  (String.ofList cs).utf8ByteSize ≤ limit

instance (limit : Nat) (cs : List Char) : Decidable (Fits limit cs) :=
  inferInstanceAs (Decidable (_ ≤ _))

theorem byteCount_eq_utf8ByteSize (cs : List Char) :
    byteCount cs = (String.ofList cs).utf8ByteSize := by
  rw [String.utf8ByteSize_ofList]
  induction cs with
  | nil => rfl
  | cons c rest ih =>
    rw [String.utf8Len_cons, ← ih, Nat.add_comm]
    rfl

theorem fits_iff {limit : Nat} {cs : List Char} : Fits limit cs ↔ byteCount cs ≤ limit := by
  rw [Fits, byteCount_eq_utf8ByteSize]

theorem fitting_prefix (budget : Nat) (cs : List Char) : fitting budget cs <+: cs := by
  induction cs generalizing budget with
  | nil => exact List.prefix_rfl
  | cons c rest ih =>
    unfold fitting
    split_ifs
    · exact List.cons_prefix_cons.mpr ⟨rfl, ih _⟩
    · exact List.nil_prefix

/-- A start that has room is kept, whatever follows it. -/
theorem prefix_fitting_append {budget : Nat} {kept : List Char} (h : byteCount kept ≤ budget)
    (tail : List Char) : kept <+: fitting budget (kept ++ tail) := by
  induction kept generalizing budget with
  | nil => exact List.nil_prefix
  | cons c rest ih =>
    have hsum : c.utf8Size + byteCount rest ≤ budget := h
    have hrest : byteCount rest ≤ budget - c.utf8Size := by omega
    rw [List.cons_append, fitting, if_pos (by omega)]
    exact List.cons_prefix_cons.mpr ⟨rfl, ih hrest⟩

/-- **What is kept is the longest start that fits.** -/
theorem longestStart_fitting (limit : Nat) (cs : List Char) :
    LongestStart (Fits limit) (fitting limit cs) cs where
  starts := fitting_prefix limit cs
  inGrammar := fits_iff.mpr (byteCount_fitting_le limit cs)
  longest := by
    rintro other ⟨tail, rfl⟩ hfits
    exact (prefix_fitting_append (fits_iff.mp hfits) tail).length_le

end ReleaseFeed.Telemetry
