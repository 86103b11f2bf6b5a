import ReleaseFeed.Proofs.Runs
import ReleaseFeed.Proofs.Telemetry.Steps

/-! # No accepted event is lost

A run of a queue interleaves pushes, the writer's steps and stops in any order.  Three
sequences are read off it: the events that were accepted, the events that were written,
and the fresh ids that were given away.

`Account` says how they are tied to the machine that the run ends in: what was accepted
is what was written, then what the writer holds, then what waits in the ring; the ids
count from 1; and the queue runs until it is signalled.  Every step keeps the account
(`Account.concat`), so every run has it (`account_of_run`).  A file that does not fail has
the lines (`filed_of_run`).  What a user of the queue can rely on, `Safe`, follows
(`safe_of_run`).
-/
namespace ReleaseFeed.Telemetry.Machine

/-! ## What is read off a run -/

section Histories
variable {start m : Machine} {steps : List Step}

/-- The events that a run accepts, with their ids, in the order of acceptance. -/
def accepted (start : Machine) (steps : List Step) : List Event :=
  Runs.history step? accepts? start steps

/-- The events that a run writes, each with its time, in the order of writing. -/
def written (start : Machine) (steps : List Step) : List (Event × Int) :=
  Runs.history step? writes? start steps

/-- The fresh ids that a run gives away, in order. -/
def issued (start : Machine) (steps : List Step) : List UInt64 :=
  Runs.history step? draws? start steps

theorem accepted_concat (h : start.run? steps = some m) (a : Step) :
    accepted start (steps ++ [a]) = accepted start steps ++ (m.accepts? a).toList :=
  Runs.history_concat h

theorem written_concat (h : start.run? steps = some m) (a : Step) :
    written start (steps ++ [a]) = written start steps ++ (m.writes? a).toList :=
  Runs.history_concat h

theorem issued_concat (h : start.run? steps = some m) (a : Step) :
    issued start (steps ++ [a]) = issued start steps ++ (m.draws? a).toList :=
  Runs.history_concat h

/-- How many events a run pushes, accepted or not. -/
def pushes (steps : List Step) : Nat :=
  steps.countP Step.isPush

/-- The queue was told to stop. -/
def Stopped (steps : List Step) : Prop :=
  ∃ caller, Step.signal caller ∈ steps

theorem any_isSignal_iff : steps.any Step.isSignal ↔ Stopped steps := by
  rw [List.any_eq_true]
  constructor
  · rintro ⟨step, hmem, hsignal⟩
    cases step with
    | signal caller => exact ⟨caller, hmem⟩
    | push | attach | take | write | leave | claim | join => cases hsignal
  · rintro ⟨caller, hmem⟩
    exact ⟨_, hmem, rfl⟩

end Histories

/-! ## The account of a run -/

/-- The ids 1, 2, 3 and so on. -/
def firstIds (n : Nat) : List UInt64 :=
  (List.range n).map fun i => UInt64.ofNat (i + 1)

theorem firstIds_succ (n : Nat) : firstIds (n + 1) = firstIds n ++ [UInt64.ofNat (n + 1)] := by
  rw [firstIds, List.range_succ, List.map_append]
  rfl

variable {capacity : Nat} {outlet : Outlet} {steps : List Step} {m m' : Machine} {a : Step}

/-- How what is read off a run is tied to the machine that it ends in. -/
structure Account (start : Machine) (steps : List Step) (m : Machine) : Prop where
  conserved : accepted start steps =
    (written start steps).map Prod.fst ++ m.writer.inFlight ++ m.queue.ring.toList
  nextId_eq : m.queue.nextId = UInt64.ofNat ((issued start steps).length + 1)
  issued_eq : issued start steps = firstIds (issued start steps).length
  issued_le : (issued start steps).length ≤ pushes steps
  running_eq : m.queue.running = !steps.any Step.isSignal

/-- A step that can be taken keeps the account. -/
theorem Account.concat {start : Machine} (h : Account start steps m) (hs : m.Sound capacity)
    (hrun : start.run? steps = some m) (hstep : m.Takes a m') :
    Account start (steps ++ [a]) m' where
  conserved := by
    have hflow := hstep.flow hs
    rw [accepted_concat hrun, written_concat hrun, h.conserved, List.map_append]
    calc (written start steps).map Prod.fst ++ m.writer.inFlight ++ m.queue.ring.toList
          ++ (m.accepts? a).toList
        = (written start steps).map Prod.fst ++
            (m.writer.inFlight ++ m.queue.ring.toList ++ (m.accepts? a).toList) := by
          simp only [List.append_assoc]
      _ = _ := by
          rw [← hflow]
          simp only [List.append_assoc]
  nextId_eq := by
    rw [issued_concat hrun]
    rcases hstep.nextId hs with ⟨hdraw, hnext⟩ | ⟨hdraw, hnext⟩
    · rw [hdraw, hnext, h.nextId_eq, Option.toList_none, List.append_nil]
    · rw [hdraw, hnext, h.nextId_eq, Option.toList_some, List.length_append, List.length_singleton,
        UInt64.ofNat_add (_ + 1) 1]
      rfl
  issued_eq := by
    rw [issued_concat hrun]
    rcases hstep.nextId hs with ⟨hdraw, -⟩ | ⟨hdraw, -⟩
    · rw [hdraw, Option.toList_none, List.append_nil]
      exact h.issued_eq
    · rw [hdraw, Option.toList_some, List.length_append, List.length_singleton, firstIds_succ,
        ← h.issued_eq, h.nextId_eq]
  issued_le := by
    rw [issued_concat hrun, List.length_append, pushes, List.countP_append]
    exact Nat.add_le_add h.issued_le (length_draws?_le m a)
  running_eq := by
    rw [hstep.running hs, h.running_eq, List.any_append, List.any_cons, List.any_nil, Bool.or_false,
      Bool.not_or]

/-- What is read off a run from an empty queue is accounted for. -/
theorem account_of_run (hrun : (idle capacity outlet).run? steps = some m) :
    m.Sound capacity ∧ Account (idle capacity outlet) steps m := by
  refine Runs.run_induction (P := fun steps m => m.Sound capacity ∧ Account _ steps m)
    ⟨?_, ?_⟩ ?_ hrun
  · exact ⟨Ring.capacity_ofCapacity capacity, Nat.zero_le _, nofun⟩
  · exact ⟨rfl, rfl, rfl, Nat.zero_le _, rfl⟩
  · rintro steps a m m' hrun ⟨hs, haccount⟩ hstep
    have htakes := Takes.of_step? hstep
    exact ⟨htakes.sound hs, haccount.concat hs hrun htakes⟩

/-- A file that does not fail has a line for every event that was written. -/
theorem filed_of_run (hreliable : outlet.Reliable)
    (hrun : (idle capacity outlet).run? steps = some m) :
    m.Punctual ∧ m.output.outlet.content =
      outlet.content ++ linesText (written (idle capacity outlet) steps) := by
  refine Runs.run_induction (P := fun steps m => m.Punctual ∧ m.output.outlet.content =
    outlet.content ++ linesText (written (idle capacity outlet) steps)) ⟨?_, ?_⟩ ?_ hrun
  · exact ⟨hreliable, rfl⟩
  · exact (String.append_empty).symm
  · rintro steps a m m' hrun ⟨hpunctual, hfiled⟩ hstep
    have htakes := Takes.of_step? hstep
    refine ⟨htakes.punctual hpunctual, ?_⟩
    rw [htakes.filed hpunctual, hfiled, written_concat hrun, linesText_append, String.append_assoc]

/-- From the first signal on, nothing is accepted. -/
theorem accepted_of_signal (hrun : (idle capacity outlet).run? steps = some m)
    {before after : List Step} {caller : Nat} (hsteps : steps = before ++ .signal caller :: after) :
    accepted (idle capacity outlet) steps = accepted (idle capacity outlet) before := by
  induction after using List.reverseRecOn generalizing steps m with
  | nil =>
    obtain ⟨m₀, hbefore, -⟩ := Runs.run_concat_iff.mp (hsteps ▸ hrun)
    rw [hsteps, accepted_concat hbefore]
    exact List.append_nil _
  | append_singleton after a ih =>
    rw [← List.cons_append, ← List.append_assoc] at hsteps
    obtain ⟨m₀, hbefore, -⟩ := Runs.run_concat_iff.mp (hsteps ▸ hrun)
    obtain ⟨-, haccount⟩ := account_of_run hbefore
    have hstopped : Stopped (before ++ .signal caller :: after) :=
      ⟨caller, List.mem_append_right _ List.mem_cons_self⟩
    have hrunning : m₀.queue.running = false := by
      rw [haccount.running_eq, any_isSignal_iff.mpr hstopped, Bool.not_true]
    rw [hsteps, accepted_concat hbefore, accepts?_of_stopped hrunning, ih hbefore rfl]
    exact List.append_nil _

/-! ## What a user can rely on -/

/-- What holds after a run of the machine whose ring has a given capacity. -/
structure Safe (capacity : Nat) (outlet : Outlet) (steps : List Step) (m : Machine) : Prop where
  /-- The ring holds no more events than fit. -/
  bounded : m.queue.ring.toList.length ≤ capacity
  /-- What was accepted is written, in flight, or in the ring, oldest first. -/
  conserved : accepted (idle capacity outlet) steps =
    (written (idle capacity outlet) steps).map Prod.fst ++ m.writer.inFlight ++ m.queue.ring.toList
  /-- What was written is in the file, line by line. -/
  filed : m.output.outlet.content =
    outlet.content ++ linesText (written (idle capacity outlet) steps)
  /-- A push is refused when the ring is full or the queue was told to stop: it returns 0 and
  counts one drop. -/
  refused (event : Event) (h : m.queue.ring.toList.length = capacity ∨ Stopped steps) :
    m.queue.push event =
        (0, { m.queue with
          counters := { m.queue.counters with dropped := m.queue.counters.dropped + 1 } }) ∧
      accepted (idle capacity outlet) (steps ++ [.push event]) =
        accepted (idle capacity outlet) steps
  /-- Every other push is accepted: it returns the event's own id, or the next fresh one. -/
  admitted (event : Event) (h : ¬ (m.queue.ring.toList.length = capacity ∨ Stopped steps))
      (hpushes : pushes steps + 1 < 2 ^ 64) :
    ∃ id ring,
      m.queue.push event =
          (id, { m.queue with
            ring
            nextId := if event.id = 0 then m.queue.nextId + 1 else m.queue.nextId
            counters := { m.queue.counters with accepted := m.queue.counters.accepted + 1 } }) ∧
        ring.toList = m.queue.ring.toList ++ [{ event with id }] ∧
        accepted (idle capacity outlet) (steps ++ [.push event]) =
          accepted (idle capacity outlet) steps ++ [{ event with id }] ∧
        id ≠ 0 ∧ (event.id ≠ 0 → id = event.id) ∧
        (event.id = 0 → id.toNat = (issued (idle capacity outlet) steps).length + 1)
  /-- The fresh ids are 1, 2, 3 and so on. -/
  numbered (hpushes : pushes steps < 2 ^ 64) :
    (issued (idle capacity outlet) steps).map UInt64.toNat =
      List.range' 1 (issued (idle capacity outlet) steps).length
  /-- Nothing is accepted after a signal. -/
  closed {before after : List Step} {caller : Nat}
      (h : steps = before ++ .signal caller :: after) :
    accepted (idle capacity outlet) steps = accepted (idle capacity outlet) before
  /-- The writer leaves a stopped queue, with every accepted event written. -/
  drained (h : m.writer = .gone) :
    Stopped steps ∧ m.queue.ring.toList = [] ∧
      accepted (idle capacity outlet) steps =
        (written (idle capacity outlet) steps).map Prod.fst

theorem toNat_firstId {n : Nat} (h : n + 1 < 2 ^ 64) : (UInt64.ofNat (n + 1)).toNat = n + 1 :=
  UInt64.toNat_ofNat_of_lt' h

theorem map_toNat_firstIds {n : Nat} (h : n < 2 ^ 64) :
    (firstIds n).map UInt64.toNat = List.range' 1 n := by
  rw [firstIds, List.map_map, List.range'_eq_map_range]
  refine List.map_congr_left fun i hi => ?_
  have hlt := List.mem_range.mp hi
  rw [Function.comp_apply, toNat_firstId (by omega), Nat.add_comm]

theorem Account.running_eq_false_iff {start : Machine} (h : Account start steps m) :
    m.queue.running = false ↔ Stopped steps := by
  rw [h.running_eq, Bool.not_eq_false', any_isSignal_iff]

theorem admits_iff_of_account {start : Machine} (hs : m.Sound capacity)
    (h : Account start steps m) :
    m.queue.admits ↔ ¬ (m.queue.ring.toList.length = capacity ∨ Stopped steps) := by
  rw [Queue.admits_iff hs.le, Ring.length_toList, ← h.running_eq_false_iff, hs.capacity_eq]
  rw [not_or, Bool.not_eq_false]
  constructor
  · rintro ⟨hrunning, hroom⟩
    exact ⟨Nat.ne_of_lt hroom, hrunning⟩
  · rintro ⟨hne, hrunning⟩
    exact ⟨hrunning, Nat.lt_of_le_of_ne hs.count_le hne⟩

/-- **No accepted event is lost, and a push is accepted exactly when there is room and the
queue runs.**  This is so after every run of a queue of any capacity, if its file does not
fail. -/
theorem safe_of_run (capacity : Nat) (outlet : Outlet) (hreliable : outlet.Reliable)
    (steps : List Step) (m : Machine) (hrun : (idle capacity outlet).run? steps = some m) :
    Safe capacity outlet steps m := by
  obtain ⟨hs, haccount⟩ := account_of_run hrun
  have hadmits := admits_iff_of_account hs haccount
  refine ⟨?_, haccount.conserved, (filed_of_run hreliable hrun).2, ?_, ?_, ?_, ?_, ?_⟩
  · rw [Ring.length_toList]
    exact hs.count_le
  · intro event h
    have hrefused : m.queue.admits = false :=
      Bool.eq_false_iff.mpr fun hadmitted => hadmits.mp hadmitted h
    refine ⟨Queue.push_of_not_admits hrefused, ?_⟩
    rw [accepted_concat hrun, accepts?, Queue.accept?, hrefused]
    exact List.append_nil _
  · intro event h hpushes
    have hadmitted := hadmits.mpr h
    obtain ⟨ring, hlist, -, -, hpush⟩ := Queue.push_of_admits hadmitted hs.le event
    have hfits : (issued (idle capacity outlet) steps).length + 1 < 2 ^ 64 :=
      Nat.lt_of_le_of_lt (Nat.succ_le_succ haccount.issued_le) hpushes
    have hnext := toNat_firstId hfits
    rw [← haccount.nextId_eq] at hnext
    refine ⟨(m.queue.stamp event).id, ring, hpush, ?_, ?_, ?_, ?_, ?_⟩
    · rw [← Queue.stamp_eq, hlist]
    · rw [← Queue.stamp_eq, accepted_concat hrun, accepts?, Queue.accept?, if_pos hadmitted,
        Option.toList_some]
    · intro hzero
      rcases Queue.stamp_id m.queue event with ⟨hfresh, hid⟩ | ⟨hown, hid⟩
      · rw [hid] at hzero
        rw [hzero] at hnext
        cases hnext
      · exact hown (hid ▸ hzero)
    · intro hown
      rcases Queue.stamp_id m.queue event with ⟨hfresh, -⟩ | ⟨-, hid⟩
      · exact absurd hfresh hown
      · exact hid
    · intro hfresh
      rcases Queue.stamp_id m.queue event with ⟨-, hid⟩ | ⟨hown, -⟩
      · rw [hid, hnext]
      · exact absurd hfresh hown
  · intro hpushes
    have hids := map_toNat_firstIds (Nat.lt_of_le_of_lt haccount.issued_le hpushes)
    rwa [← haccount.issued_eq] at hids
  · exact fun h => accepted_of_signal hrun h
  · intro hgone
    obtain ⟨hempty, hstopped⟩ := hs.gone hgone
    refine ⟨haccount.running_eq_false_iff.mp hstopped, hempty, ?_⟩
    rw [haccount.conserved, hgone, hempty, List.append_nil]
    exact List.append_nil _

/-- A queue with one slot: an event is refused by the full ring, one by the stopped queue, and
the two that were accepted are written before the writer leaves. -/
def stoppedRun : List Step :=
  [.attach, .push (.of "intake" "latency" "one" 0), .push (.of "intake" "latency" "two" 0), .take,
    .push (.of "intake" "latency" "three" 7), .signal 0, .push (.of "intake" "latency" "four" 0),
    .write 10, .claim 0, .take, .write 11, .leave, .join 0]

theorem safe_of_run_stopped :
    Outlet.Reliable {} ∧ ∃ m, (idle 1 {}).run? stoppedRun = some m ∧ m.writer = .gone ∧
      Safe 1 {} stoppedRun m := by
  have hreliable : Outlet.Reliable {} := fun _ => rfl
  have hrun : (idle 1 {}).run? stoppedRun = some _ := rfl
  exact ⟨hreliable, _, hrun, rfl, safe_of_run 1 {} hreliable stoppedRun _ hrun⟩

end ReleaseFeed.Telemetry.Machine
