import Mathlib.Data.List.Forall2
import ReleaseFeed.Proofs.Telemetry.Safety

/-! # What becomes of accepted events when writes fail

The writer settles each event that it takes out: it tries to write the line and counts the
event as written or as failed.  `Settlement` records this, and the settlements of a run
are, event for event, what was accepted and is no longer waiting (`Account.settled`); the
counters count them (`counted_of_run`).

The count does not decide what is in the file.  The line of a written event is there.  The
line of a failed event may still be held back when the count is made, and a later flush
puts it into the file: a failed event leaves nothing, its line without the end, or its
whole line (`Settlement.Leaves`).  Every step keeps the file and the text that is held
back in this form (`Takes.told`).  With no failure the file has exactly the lines
(`Left.eq_of_written`).
-/
namespace ReleaseFeed.Telemetry

/-- What the writer has done with an event. -/
structure Settlement where
  event : Event
  micros : Int
  /-- The event was counted as written. -/
  written : Bool
deriving DecidableEq

namespace Settlement

/-- The line that the writer tried to write. -/
def line (s : Settlement) : String :=
  s.event.line s.micros

/-- The event with the time of its line. -/
def entry (s : Settlement) : Event × Int :=
  (s.event, s.micros)

/-- What a settled event can leave in the file. -/
inductive Leaves (s : Settlement) : String → Prop where
  | ended : s.Leaves (s.line ++ "\n")
  | unended (h : s.written = false) : s.Leaves s.line
  | nothing (h : s.written = false) : s.Leaves ""

/-- Of a line and its end, any number of texts from the start. -/
theorem leaves_take {s : Settlement} (h : s.written = false) (n : Nat) :
    s.Leaves (String.join ([s.line, "\n"].take n)) := by
  match n with
  | 0 => exact .nothing h
  | 1 =>
    rw [List.take_succ_cons, List.take_zero, String.join_cons, String.join_nil,
      String.append_empty]
    exact .unended h
  | n + 2 =>
    rw [List.take_of_length_le (Nat.le_add_left 2 n), String.join_cons, String.join_cons,
      String.join_nil, String.append_empty]
    exact .ended

/-- All that the events have left, after the text that was there before. -/
def Left (before : String) (settled : List Settlement) (text : String) : Prop :=
  ∃ traces, List.Forall₂ Leaves settled traces ∧ text = before ++ String.join traces

variable {before text trace : String} {settled : List Settlement} {s : Settlement}

theorem Left.concat (h : Left before settled text) (hs : s.Leaves trace) :
    Left before (settled ++ [s]) (text ++ trace) := by
  obtain ⟨traces, hleaves, rfl⟩ := h
  refine ⟨traces ++ [trace], List.rel_append hleaves (.cons hs .nil), ?_⟩
  rw [String.join_append, String.join_cons, String.join_nil, String.append_empty,
    String.append_assoc]

/-- Where none has failed, the lines of all are left. -/
theorem Left.eq_of_written (h : Left before settled text) (hall : ∀ s ∈ settled, s.written) :
    text = before ++ linesText (settled.map entry) := by
  obtain ⟨traces, hleaves, rfl⟩ := h
  have hlines : String.join traces = linesText (settled.map entry) := by
    induction hleaves with
    | nil => rfl
    | @cons s trace settled traces hleaf hleaves ih =>
      have hfirst : trace = s.line ++ "\n" := by
        cases hleaf with
        | ended => rfl
        | unended hfailed | nothing hfailed =>
          have hwritten := hall s List.mem_cons_self
          rw [hfailed] at hwritten
          cases hwritten
      rw [String.join_cons, ih fun s hs => hall s (List.mem_cons_of_mem _ hs), hfirst]
      rfl
  rw [hlines]

end Settlement

namespace Machine
variable {m m' start : Machine} {a : Step} {steps : List Step} {capacity : Nat} {outlet : Outlet}

/-! ## Settlements of a run -/

/-- The event that a step settles. -/
def settles? (m : Machine) : Step → Option Settlement
  | .write micros =>
    match m.writer with
    | .holding event => some ⟨event, micros, (m.output.writeLine (event.line micros)).1⟩
    | _ => none
  | _ => none

theorem writes?_eq_settles? (m : Machine) (a : Step) :
    m.writes? a = (m.settles? a).map Settlement.entry := by
  cases a with
  | write micros =>
    rw [writes?, settles?]
    cases m.writer with
    | holding event => rfl
    | absent | ready | gone => rfl
  | push | attach | take | leave | signal | claim | join => rfl

/-- What became of the events, in the order of the writer. -/
def settlements (start : Machine) (steps : List Step) : List Settlement :=
  Runs.history step? settles? start steps

theorem settlements_concat (h : start.run? steps = some m) (a : Step) :
    settlements start (steps ++ [a]) = settlements start steps ++ (m.settles? a).toList :=
  Runs.history_concat h

theorem written_eq_settlements (start : Machine) (steps : List Step) :
    written start steps = (settlements start steps).map Settlement.entry :=
  Runs.history_map Settlement.entry writes?_eq_settles? start steps

/-- What was accepted is settled, in flight, or in the ring, oldest first. -/
theorem Account.settled (h : Account start steps m) :
    accepted start steps =
      (settlements start steps).map Settlement.event ++ m.writer.inFlight ++
        m.queue.ring.toList := by
  rw [h.conserved, written_eq_settlements, List.map_map]
  rfl

/-! ## The counters -/

/-- How many events were counted as written. -/
def writtenCount (settled : List Settlement) : Nat :=
  settled.countP Settlement.written

/-- How many events were counted as failed. -/
def failedCount (settled : List Settlement) : Nat :=
  settled.countP fun s => !s.written

theorem writtenCount_add_failedCount (settled : List Settlement) :
    writtenCount settled + failedCount settled = settled.length := by
  rw [writtenCount, failedCount, List.length_eq_countP_add_countP Settlement.written]
  simp only [Bool.not_eq_true, Bool.decide_eq_false]

/-- The counters of a run, from what is read off it. -/
structure Counted (start : Machine) (steps : List Step) (m : Machine) : Prop where
  accepted_eq : m.queue.counters.accepted = .ofNat (accepted start steps).length
  written_eq : m.queue.counters.written = .ofNat (writtenCount (settlements start steps))
  failed_eq : m.queue.counters.failed = .ofNat (failedCount (settlements start steps))

/-- What a step adds to the counters is what it accepts and settles. -/
theorem Takes.counters (h : m.Takes a m') (hs : m.Sound capacity) :
    m'.queue.counters.accepted =
        m.queue.counters.accepted + .ofNat (m.accepts? a).toList.length ∧
      m'.queue.counters.written =
        m.queue.counters.written + .ofNat (writtenCount (m.settles? a).toList) ∧
      m'.queue.counters.failed =
        m.queue.counters.failed + .ofNat (failedCount (m.settles? a).toList) := by
  have hzero (c : UInt64) : c = c + .ofNat 0 := (UInt64.add_zero c).symm
  cases h with
  | push event =>
    by_cases hadmits : m.queue.admits
    · obtain ⟨ring, -, -, -, hpush⟩ := Queue.push_of_admits hadmits hs.le event
      rw [hpush, accepts?, Queue.accept?, if_pos hadmits]
      exact ⟨rfl, hzero _, hzero _⟩
    · rw [Queue.push_of_not_admits (Bool.eq_false_iff.mpr hadmits), accepts?, Queue.accept?,
        if_neg hadmits]
      exact ⟨hzero _, hzero _, hzero _⟩
  | take ready taken =>
    obtain ⟨ring, -, rfl⟩ := Queue.take?_eq_some taken
    exact ⟨hzero _, hzero _, hzero _⟩
  | @write event micros holding =>
    rw [settles?, holding]
    dsimp only
    cases (m.output.writeLine (event.line micros)).1 with
    | true => exact ⟨hzero _, rfl, hzero _⟩
    | false => exact ⟨hzero _, hzero _, rfl⟩
  | attach | leave | signal | claim | join => exact ⟨hzero _, hzero _, hzero _⟩

theorem counted_of_run (hrun : (idle capacity outlet).run? steps = some m) :
    Counted (idle capacity outlet) steps m := by
  refine Runs.run_induction (P := fun steps m => Counted _ steps m) ⟨rfl, rfl, rfl⟩ ?_ hrun
  intro steps a m m' hrun hcounted hstep
  obtain ⟨hs, -⟩ := account_of_run hrun
  obtain ⟨haccepted, hwritten, hfailed⟩ := (Takes.of_step? hstep).counters hs
  refine ⟨?_, ?_, ?_⟩
  · rw [haccepted, hcounted.accepted_eq, accepted_concat hrun, List.length_append,
      UInt64.ofNat_add]
  · rw [hwritten, hcounted.written_eq, settlements_concat hrun, ← UInt64.ofNat_add]
    exact congrArg UInt64.ofNat List.countP_append.symm
  · rw [hfailed, hcounted.failed_eq, settlements_concat hrun, ← UInt64.ofNat_add]
    exact congrArg UInt64.ofNat List.countP_append.symm

/-! ## The file -/

/-- What the settled events have left, in the file and with what is held back. -/
structure Told (before : String) (settled : List Settlement) (m : Machine) : Prop where
  filed : Settlement.Left before settled m.output.outlet.content
  text : Settlement.Left before settled m.output.text

/-- Steps that settle nothing and do not touch the file. -/
theorem Told.of_output_eq {before : String} {settled : List Settlement}
    (h : Told before settled m) (houtput : m'.output = m.output) :
    Told before (settled ++ []) m' := by
  rw [List.append_nil]
  refine ⟨?_, ?_⟩
  · rw [houtput]
    exact h.filed
  · rw [houtput]
    exact h.text

/-- A line behind what was left: it is all in the file, or it has failed. -/
theorem Told.writeLine {before : String} {settled : List Settlement} (h : Told before settled m)
    (event : Event) (micros : Int) {m' : Machine}
    (houtput : m'.output = (m.output.writeLine (event.line micros)).2) :
    Told before
      (settled ++ [⟨event, micros, (m.output.writeLine (event.line micros)).1⟩]) m' := by
  rcases m.output.writeLine_cases (event.line micros) with
    ⟨b, hline, hkeeps, hheld⟩ | ⟨b, hline, ⟨n, hkeeps⟩, -⟩
  · rw [hline] at houtput ⊢
    have htext : Settlement.Left before (settled ++ [⟨event, micros, true⟩]) m'.output.text := by
      rw [houtput, hkeeps.text]
      exact h.text.concat .ended
    refine ⟨?_, htext⟩
    rwa [Buffered.content_of_held_eq (houtput ▸ hheld)]
  · rw [hline] at houtput ⊢
    have hcut (k : Nat) : Settlement.Leaves ⟨event, micros, false⟩
        (String.join ([event.line micros, "\n"].take k)) :=
      Settlement.leaves_take (s := ⟨event, micros, false⟩) rfl k
    refine ⟨?_, ?_⟩
    · rw [houtput]
      rcases hkeeps.filed with hsame | ⟨k, hk⟩
      · rw [hsame, ← String.append_empty (s := m.output.outlet.content)]
        exact h.filed.concat (hcut 0)
      · rw [hk, List.take_take]
        exact h.text.concat (hcut _)
    · rw [houtput, hkeeps.text]
      exact h.text.concat (hcut n)

/-- At the end, what could not be flushed is lost. -/
theorem Told.close {before : String} {settled : List Settlement} (h : Told before settled m)
    (houtput : m'.output = m.output.close) : Told before (settled ++ []) m' := by
  rw [List.append_nil]
  have hfiled : Settlement.Left before settled m'.output.outlet.content := by
    rw [houtput]
    rcases m.output.flush_cases with ⟨b, hflush, hkeeps, -⟩ | ⟨b, hflush, hkeeps, -⟩
    all_goals
      rw [Buffered.close, hflush]
      rcases hkeeps.filed with hsame | ⟨k, hk⟩
      · show Settlement.Left before settled b.outlet.content
        rw [hsame]
        exact h.filed
      · show Settlement.Left before settled b.outlet.content
        rw [hk, List.take_nil, String.join_nil, String.append_empty]
        exact h.text
  refine ⟨hfiled, ?_⟩
  rwa [← Buffered.content_of_held_eq (by rw [houtput]; rfl)]

theorem Takes.told {before : String} {settled : List Settlement} (h : m.Takes a m')
    (htold : Told before settled m) : Told before (settled ++ (m.settles? a).toList) m' := by
  cases h with
  | @write event micros holding =>
    rw [settles?, holding]
    exact htold.writeLine event micros rfl
  | leave => exact htold.close rfl
  | push | attach | take | signal | claim | join => exact htold.of_output_eq rfl

theorem told_of_run (hrun : (idle capacity outlet).run? steps = some m) :
    Told outlet.content (settlements (idle capacity outlet) steps) m := by
  refine Runs.run_induction
    (P := fun steps m => Told outlet.content (settlements (idle capacity outlet) steps) m)
    ⟨?_, ?_⟩ ?_ hrun
  · exact ⟨[], .nil, (String.append_empty).symm⟩
  · exact ⟨[], .nil, rfl⟩
  · intro steps a m m' hrun htold hstep
    rw [settlements_concat hrun]
    exact (Takes.of_step? hstep).told htold

/-! ## When everything is settled -/

/-- Nothing is in flight, nothing waits, and nothing more is let in. -/
structure Finished (m : Machine) : Prop where
  inFlight_eq : m.writer.inFlight = []
  ring_eq : m.queue.ring.toList = []
  stopped : m.queue.running = false

theorem Sound.finished (hs : m.Sound capacity) (hgone : m.writer = .gone) : m.Finished := by
  obtain ⟨hempty, hstopped⟩ := hs.gone hgone
  exact ⟨by rw [hgone]; rfl, hempty, hstopped⟩

/-- Every accepted event was written or counted as failed. -/
structure Drained (start : Machine) (steps : List Step) (m : Machine) : Prop where
  ring_eq : m.queue.ring.toList = []
  /-- Each was tried once, in the order of acceptance. -/
  settled : accepted start steps = (settlements start steps).map Settlement.event
  conserved : m.queue.counters.written + m.queue.counters.failed = m.queue.counters.accepted

theorem Finished.drained (h : m.Finished) (hrun : (idle capacity outlet).run? steps = some m) :
    Drained (idle capacity outlet) steps m := by
  obtain ⟨-, haccount⟩ := account_of_run hrun
  have hcounted := counted_of_run hrun
  have hsettled : accepted (idle capacity outlet) steps =
      (settlements (idle capacity outlet) steps).map Settlement.event := by
    rw [haccount.settled, h.inFlight_eq, h.ring_eq, List.append_nil, List.append_nil]
  refine ⟨h.ring_eq, hsettled, ?_⟩
  rw [hcounted.written_eq, hcounted.failed_eq, hcounted.accepted_eq, hsettled, ← UInt64.ofNat_add,
    writtenCount_add_failedCount, List.length_map]

/-- What holds once the writer has left, whatever writes have failed. -/
structure Accounted (capacity : Nat) (outlet : Outlet) (steps : List Step)
    (m : Machine) : Prop where
  drained : Drained (idle capacity outlet) steps m
  /-- The counters count what was tried. -/
  written_eq : m.queue.counters.written =
    .ofNat (writtenCount (settlements (idle capacity outlet) steps))
  failed_eq : m.queue.counters.failed =
    .ofNat (failedCount (settlements (idle capacity outlet) steps))
  /-- The file has the lines of the written events, whole and in order, and between them
  what failed events have left. -/
  left : Settlement.Left outlet.content (settlements (idle capacity outlet) steps)
    m.output.outlet.content
  /-- With no failure there is nothing between them. -/
  unfailing (h : failedCount (settlements (idle capacity outlet) steps) = 0) : m.output.outlet.content =
    outlet.content ++ linesText (written (idle capacity outlet) steps)

/-- The file has gained the lines of the events counted as written, and nothing else. -/
def Exact (capacity : Nat) (outlet : Outlet) (steps : List Step) (m : Machine) : Prop :=
  m.output.outlet.content = outlet.content ++ linesText
    (((settlements (idle capacity outlet) steps).filter Settlement.written).map Settlement.entry)

/-- **Every accepted event is tried once and counted, and what a failed one leaves is at most
its line.**  This is so after every run of a queue of any capacity that ends with the writer
gone, whatever attempts to write fail. -/
theorem accounted_of_run (capacity : Nat) (outlet : Outlet) (steps : List Step) (m : Machine)
    (hrun : (idle capacity outlet).run? steps = some m) (hgone : m.writer = .gone) :
    Accounted capacity outlet steps m := by
  obtain ⟨hs, -⟩ := account_of_run hrun
  have hcounted := counted_of_run hrun
  have hleft := (told_of_run hrun).filed
  refine ⟨(hs.finished hgone).drained hrun, hcounted.written_eq, hcounted.failed_eq, hleft, ?_⟩
  intro hfailed
  rw [failedCount, List.countP_eq_zero] at hfailed
  rw [written_eq_settlements]
  refine hleft.eq_of_written fun s hs => ?_
  have hwritten := hfailed s hs
  rwa [Bool.not_eq_true, Bool.not_eq_false'] at hwritten

/-- Two events, of which the first is counted as failed because its flush fails. -/
def retriedRun : List Step :=
  [.attach, .push (.of "intake" "latency" "one" 0), .push (.of "intake" "latency" "two" 0),
    .take, .write 10, .take, .write 11, .signal 0, .leave]

/-- A file whose first attempt fails. -/
def failingOnce : Outlet :=
  { fails := fun attempt => attempt == 0 }

theorem accounted_of_run_retried :
    ∃ m, (idle 2 failingOnce).run? retriedRun = some m ∧ m.writer = .gone ∧
      Accounted 2 failingOnce retriedRun m := by
  have hrun : (idle 2 failingOnce).run? retriedRun = some _ := rfl
  exact ⟨_, hrun, rfl, accounted_of_run 2 failingOnce retriedRun _ hrun rfl⟩

/-- The next flush that succeeds writes the line of an event that was counted as failed. -/
theorem not_exact_retried :
    ∃ m, (idle 2 failingOnce).run? retriedRun = some m ∧ m.writer = .gone ∧
      m.queue.counters.written = 1 ∧ m.queue.counters.failed = 1 ∧
      m.output.outlet.content =
        linesText [(.of "intake" "latency" "one" 1, 10), (.of "intake" "latency" "two" 2, 11)] ∧
      ¬ Exact 2 failingOnce retriedRun m := by
  have hrun : (idle 2 failingOnce).run? retriedRun = some _ := rfl
  refine ⟨_, hrun, rfl, rfl, rfl, ?_, ?_⟩
  · decide +kernel
  · unfold Exact
    decide +kernel

end Machine

end ReleaseFeed.Telemetry
