import Mathlib.Data.List.Forall2
import ReleaseFeed.Proofs.Telemetry.FixedText
import ReleaseFeed.Proofs.Text.Lines
import ReleaseFeed.Telemetry.Event

/-! # Five fields

The line of an event has bars between its fields and nowhere else, and no control character: a number has
neither, and a text is shown in characters that are neither (`ShownAs.plain`).  So the line is taken apart at
its bars into the time, the id and the three texts (`splitOn_line`).  Of each text one sees the longest start
that fits, character by character (`shows_field`).
-/
namespace ReleaseFeed.Telemetry.Event
open Number (LongestStart)
open Text

/-! ## Texts as fields -/

/-- How a character of a text is shown in a field. -/
inductive ShownAs : Char → Char → Prop where
  | bar : ShownAs '|' '/'
  | control {c : Char} (h : isControl c = true) : ShownAs c ' '
  | itself {c : Char} (hbar : c ≠ '|') (h : isControl c = false) : ShownAs c c

theorem shownAs_fieldChar (c : Char) : ShownAs c (fieldChar c) := by
  unfold fieldChar
  split_ifs with hbar hcontrol
  · rw [hbar]
    exact .bar
  · exact .control hcontrol
  · exact .itself hbar (Bool.eq_false_iff.mpr hcontrol)

theorem ShownAs.plain {c shown : Char} (h : ShownAs c shown) :
    (isControl shown || shown = '|') = false := by
  cases h with
  | bar => decide
  | control => decide
  | itself hbar hnone => rw [hnone, Bool.false_or, decide_eq_false hbar]

theorem plain_field (cs : List Char) : Plain (field cs) := by
  intro shown hshown
  rw [field, String.toList_ofList] at hshown
  obtain ⟨c, -, rfl⟩ := List.mem_map.mp hshown
  exact (shownAs_fieldChar c).plain

/-- What is shown of a text: its longest start of at most `limit` bytes, each character as it is shown in a
field. -/
def Shows (limit : Nat) (text : String) (shown : List Char) : Prop :=
  ∃ kept, LongestStart (Fits limit) kept text.toList ∧ List.Forall₂ ShownAs kept shown

theorem shows_field (limit : Nat) (text : String) :
    Shows limit text (field (FixedText.ofString limit text).chars).toList := by
  refine ⟨_, longestStart_fitting limit text.toList, ?_⟩
  rw [field, String.toList_ofList, List.forall₂_map_right_iff]
  exact List.forall₂_same.mpr fun c _ => shownAs_fieldChar c

/-! ## Lines -/

theorem plain_int (n : Int) : Plain (toString n) := by
  have hdigits : DigitsAnd ['-'] (toString n) := by
    cases n with
    | ofNat m => exact digitsAnd_nat m
    | negSucc m => exact DigitsAnd.append (by decide) (digitsAnd_nat (m + 1))
  exact plain_of_digitsAnd hdigits (by decide)

/-- The fields of the line of an event. -/
def fields (e : Event) (micros : Int) : List (List Char) :=
  [(toString micros).toList, (toString e.id.toNat).toList, (field e.part.chars).toList,
    (field e.metric.chars).toList, (field e.message.chars).toList]

variable (e : Event) (micros : Int)

theorem toList_line : (e.line micros).toList = ['|'].intercalate (e.fields micros) := by
  have hbar : "|".toList = ['|'] := by decide
  simp only [line, fields, String.toList_append, hbar, List.intercalate_cons_cons,
    List.intercalate_singleton, List.append_assoc]

theorem plain_fields : ∀ shown ∈ e.fields micros, Plain (String.ofList shown) := by
  simp only [fields, List.forall_mem_cons, String.ofList_toList]
  exact ⟨plain_int micros, plain_nat e.id.toNat, plain_field _, plain_field _, plain_field _, nofun⟩

theorem bar_notMem_of_mem_fields {shown : List Char} (h : shown ∈ e.fields micros) : '|' ∉ shown := by
  intro hbar
  have hplain := e.plain_fields micros shown h
  exact hplain.ne_bar '|' (by rwa [String.toList_ofList]) rfl

/-- The line is taken apart at its bars. -/
theorem splitOn_line : (e.line micros).toList.splitOn '|' = e.fields micros := by
  rw [toList_line]
  exact List.splitOn_intercalate '|' (fun _ h => e.bar_notMem_of_mem_fields micros h) nofun

theorem count_bar_line : (e.line micros).toList.count '|' = 4 := by
  have hnone : ∀ shown ∈ e.fields micros, shown.count '|' = 0 :=
    fun _ h => List.count_eq_zero.mpr (e.bar_notMem_of_mem_fields micros h)
  simp only [fields, List.forall_mem_cons] at hnone
  obtain ⟨htime, hid, hpart, hmetric, hmessage, -⟩ := hnone
  simp only [toList_line, fields, List.intercalate_cons_cons, List.intercalate_singleton,
    List.count_append, htime, hid, hpart, hmetric, hmessage, List.count_singleton_self]

theorem noControl_line : NoControl (e.line micros) := by
  have hbar : isControl '|' = false := by decide
  rw [NoControl, toList_line]
  simp only [fields, List.intercalate_cons_cons, List.intercalate_singleton,
    List.forall_mem_append, List.forall_mem_singleton]
  exact ⟨⟨(plain_int micros).noControl, hbar⟩, ⟨(plain_nat _).noControl, hbar⟩,
    ⟨(plain_field _).noControl, hbar⟩, ⟨(plain_field _).noControl, hbar⟩, (plain_field _).noControl⟩

/-- The line of an event that is made of three texts. -/
structure FiveFields (part metric message : String) (id : UInt64) (micros : Int) (line : String) :
    Prop where
  bars : line.toList.count '|' = 4
  noControl : NoControl line
  /-- Between the bars are the time and the id in base ten, and the texts. -/
  split : ∃ shownPart shownMetric shownMessage,
    line.toList.splitOn '|' = [(toString micros).toList, (toString id.toNat).toList, shownPart,
      shownMetric, shownMessage] ∧
    Shows 31 part shownPart ∧ Shows 31 metric shownMetric ∧ Shows 255 message shownMessage

/-- **The line of an event has five fields**, whatever its texts are. -/
theorem fiveFields (part metric message : String) (id : UInt64) (micros : Int) :
    FiveFields part metric message id micros ((Event.of part metric message id).line micros) where
  bars := count_bar_line _ micros
  noControl := noControl_line _ micros
  split := ⟨_, _, _, splitOn_line _ micros, shows_field 31 part, shows_field 31 metric,
    shows_field 255 message⟩

end ReleaseFeed.Telemetry.Event
