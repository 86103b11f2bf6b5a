import Mathlib.Data.List.Forall2
import ReleaseFeed.Program.Decoding
import ReleaseFeed.Proofs.Line.Shape
import ReleaseFeed.Proofs.Program.Verdicts

/-! # What decoding writes

Decoding publishes the contents that verify on a bus that nobody observes, so each of them becomes
one line on the sink, and the other files are counted and leave no trace (`foldl_step`,
`snd_files_insert`).

Making a line decodes the content once more.  A content that verifies decodes, so the line is
that of its record and never one of an error (`renders_ofBuffer`).  What a user can rely on is
put together in `rendered_of_files`.
-/
namespace ReleaseFeed.Decoding
variable {ω σ : Type} [Observer ω σ] {visit : Visit} {visits : List Visit}

/-! ## Files -/

/-- Files are rendered or counted, whatever has been decoded before. -/
theorem foldl_step (visits : List Visit) (state : Summary × Station ω σ) :
    visits.foldl step state =
      (⟨state.1.rendered + (verified visits).length, state.1.rejected + rejectedCount visits⟩,
        Verdict.publishAll part visits state.2) := by
  induction visits generalizing state with
  | nil => rfl
  | cons visit rest ih =>
    obtain ⟨hpublished, hrejected⟩ := counts_cons visit rest
    rw [List.foldl_cons, ih, step, Summary.count, Verdict.isAccepted_of, hpublished, hrejected,
      ← Nat.add_assoc, ← Nat.add_assoc]
    cases (verified? visit.content).isSome <;> rfl

theorem fst_files (visits : List Visit) (s : Station ω σ) :
    (files visits s).1 = ⟨(verified visits).length, rejectedCount visits⟩ := by
  rw [files, foldl_step, Nat.zero_add, Nat.zero_add]

/-- A file that is put aside leaves the whole station as it is, telemetry and all. -/
theorem snd_files_insert (before after : List Visit) (h : verified? visit.content = none)
    (s : Station ω σ) :
    (files (before ++ visit :: after) s).2 = (files (before ++ after) s).2 := by
  rw [files, files, foldl_step, foldl_step, Verdict.publishAll_insert before after h]

/-! ## Lines -/

/-- A line says what a buffer holds. -/
structure Renders (now : WallClock) (buffer : ByteArray) (line : String) : Prop where
  record : ∃ r, Record.decode buffer = .ok r ∧ line = Line.ofRecord now r
  /-- A log record is a line of its own kind. -/
  log {r : LogRecord} (h : Record.decode buffer = .ok (.log r)) : line = Line.ofLog r
  /-- The line of every other record starts with a stamp and the type. -/
  typed {r : Record} (h : Record.decode buffer = .ok r) (hlog : r.type ≠ .log) :
    ∃ rest, line = Line.stamp now ++ " type=" ++ r.type.name ++ rest
  not_error (now' : WallClock) (e : Wire.Error) (size : Nat) : line ≠ Line.ofError now' e size
  oneLine : Text.OneLine line

theorem renders_ofBuffer {buffer : ByteArray} {r : Record} (h : Record.decode buffer = .ok r)
    (now : WallClock) : Renders now buffer (Line.ofBuffer now buffer) := by
  have hline : Line.ofBuffer now buffer = Line.ofRecord now r := by rw [Line.ofBuffer, h]
  rw [hline]
  refine ⟨⟨r, h, rfl⟩, ?_, ?_, ?_, Line.oneLine_ofRecord now r⟩
  · intro record hrecord
    cases h.symm.trans hrecord
    rfl
  · intro r' hr' hlog
    cases h.symm.trans hr'
    exact Line.exists_ofRecord_eq now hlog
  · exact fun now' e size => Line.ofRecord_ne_ofError now now' r e size

/-- Each content that verifies has its line, of the time when it is published. -/
theorem forall₂_renders (visits : List Visit) :
    List.Forall₂ (fun p line => Renders p.now p.buffer line) (postings visits)
      ((postings visits).map Bus.Posting.line) := by
  rw [List.forall₂_map_right_iff, List.forall₂_same]
  intro p hmem
  have hbuffer : p.buffer ∈ verified visits := by
    rw [← map_buffer_postings]
    exact List.mem_map_of_mem hmem
  obtain ⟨r, hr⟩ := exists_decode_of_mem_verified hbuffer
  exact renders_ofBuffer hr p.now

/-! ## What a user can rely on -/

/-- A station with a bus that nobody observes, and with a sink that works. -/
def unobserved (ω : Type) (lines : List String) (counters : BusCounters)
    (telemetry : Option Telemetry.Machine) (world : σ) : Station ω σ :=
  { bus := some { sink := { lines }, counters }, telemetry, world }

/-- What holds of the decoding of a list of files, and of the station after it. -/
structure Rendered (visits : List Visit) (lines : List String) (counters : BusCounters)
    (telemetry : Option Telemetry.Machine) (world : σ) (summary : Summary) (s : Station ω σ) :
    Prop where
  /-- The contents that verify are rendered, and all other files are put aside. -/
  rendered : summary.rendered = (verified visits).length
  rejected : summary.rejected = rejectedCount visits
  total : summary.rendered + summary.rejected = visits.length
  /-- Each content that verifies is one line, in the order of the files and stamped with the time of
  its own publication, and nothing else has happened to the bus. -/
  buffers : (postings visits).map Bus.Posting.buffer = verified visits
  bus : ∃ new, List.Forall₂ (fun p line => Renders p.now p.buffer line) (postings visits) new ∧
    s.bus = some
      { sink := { lines := lines ++ new }
        counters := { counters with
          publishes := counters.publishes + .ofNat summary.rendered
          fallbackLines := counters.fallbackLines + .ofNat summary.rendered } }
  world_eq : s.world = world
  /-- A file that is put aside is counted, and leaves the whole station as it is, telemetry and
  all, wherever it stands. -/
  insensitive {before after : List Visit} {visit : Visit}
      (hvisits : visits = before ++ visit :: after) (hcontent : verified? visit.content = none) :
    summary =
        { (files (before ++ after) (unobserved ω lines counters telemetry world)).1 with
          rejected := (files (before ++ after)
            (unobserved ω lines counters telemetry world)).1.rejected + 1 } ∧
      s = (files (before ++ after) (unobserved ω lines counters telemetry world)).2
  /-- Telemetry is beside all this. -/
  unmeasured (other : Option Telemetry.Machine) :
    (files visits (unobserved ω lines counters other world)).1 = summary ∧
      (files visits (unobserved ω lines counters other world)).2.bus = s.bus

section
variable (ω) (visits : List Visit) (lines : List String) (counters : BusCounters)
  (telemetry : Option Telemetry.Machine) (world : σ)

/-- The bus has a line for each content that verifies. -/
theorem snd_files :
    (files visits (unobserved ω lines counters telemetry world)).2.bus = some
        { sink := { lines := lines ++ (postings visits).map Bus.Posting.line }
          counters := { counters with
            publishes := counters.publishes + .ofNat (verified visits).length
            fallbackLines := counters.fallbackLines + .ofNat (verified visits).length } } ∧
      (files visits (unobserved ω lines counters telemetry world)).2.world = world := by
  have hpublished := Verdict.published_publishAll part visits
    (unobserved ω lines counters telemetry world)
  have hrun := Bus.run_postings_of_nil (b := { sink := { lines }, counters : Bus ω }) rfl rfl
    world (postings visits)
  rw [Bus.afterLines, List.length_map, length_postings] at hrun
  rw [files, foldl_step]
  exact ⟨hpublished.1.trans (congrArg (fun s => some s.1) hrun),
    hpublished.2.trans (congrArg Prod.snd hrun)⟩

/-- **Decoding writes one line for each content that verifies, and never a line of an error**,
whatever else is in the list, however much time passes and however full the telemetry is. -/
theorem rendered_of_files : Rendered visits lines counters telemetry world
    (files visits (unobserved ω lines counters telemetry world)).1
    (files visits (unobserved ω lines counters telemetry world)).2 := by
  obtain ⟨hbus, hworld⟩ := snd_files ω visits lines counters telemetry world
  refine ⟨?_, ?_, ?_, map_buffer_postings visits, ?_, hworld, ?_, ?_⟩
  · rw [fst_files]
  · rw [fst_files]
  · rw [fst_files]
    exact length_verified_add_rejectedCount visits
  · rw [fst_files]
    exact ⟨_, forall₂_renders visits, hbus⟩
  · intro before after visit hvisits hcontent
    rw [hvisits, snd_files_insert before after hcontent, fst_files, fst_files,
      verified_insert before after hcontent, rejectedCount_insert before after hcontent]
    exact ⟨rfl, rfl⟩
  · intro other
    obtain ⟨hbus', -⟩ := snd_files ω visits lines counters other world
    rw [fst_files, fst_files]
    exact ⟨rfl, hbus'.trans hbus.symm⟩

end

end ReleaseFeed.Decoding
