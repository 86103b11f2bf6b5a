import ReleaseFeed.Proofs.Telemetry.Settlements

/-! # What a caller that stops a queue can rely on

A caller that stops the queue signals it and claims the writer.  The one that claims it
waits until the writer has left, and then every accepted event is settled.  A caller that
comes while another waits finds the writer claimed and returns at once, with events still
in the ring.

A queue with a writer is in one of three stages: the writer is unclaimed and nobody has
returned; somebody waits for it; or everything is settled (`Stage`).  Every step keeps
to them (`Takes.stage`), and the last stage is never left (`Takes.finished`).  What a
caller can rely on follows (`stops_of_run`).
-/
namespace ReleaseFeed.Telemetry.Machine
variable {m m' : Machine} {a : Step} {steps : List Step} {capacity : Nat} {outlet : Outlet}

/-! ## Stages of a shutdown -/

/-- What is settled stays settled, since nothing more is accepted. -/
theorem Takes.finished (h : m.Takes a m') (hs : m.Sound capacity) (hfinished : m.Finished) :
    m'.Finished := by
  have hflow := h.flow hs
  rw [hfinished.inFlight_eq, hfinished.ring_eq, accepts?_of_stopped hfinished.stopped] at hflow
  obtain ⟨hfront, hring⟩ := List.append_eq_nil_iff.mp hflow
  obtain ⟨-, hinFlight⟩ := List.append_eq_nil_iff.mp hfront
  refine ⟨hinFlight, hring, ?_⟩
  rw [h.running hs, hfinished.stopped, Bool.false_and]

/-- How far the shutdown of a queue with a writer has come. -/
inductive Stage (m : Machine) : Prop where
  /-- Nobody has claimed the writer, so nobody has returned. -/
  | unclaimed (writer : m.writer ≠ .absent) (claimable : m.unclaimed = true)
      (early : ∀ caller, m.callers caller = .outside ∨ m.callers caller = .signalled)
  /-- The caller that has claimed the writer waits for it to leave. -/
  | claimed (writer : m.writer ≠ .absent) (caller : Nat) (waiting : m.callers caller = .waiting)
  | finished (h : m.Finished)

theorem withCaller_self (m : Machine) (caller : Nat) (phase : StopPhase) :
    (m.withCaller caller phase).callers caller = phase :=
  if_pos rfl

theorem withCaller_of_ne {caller other : Nat} (h : other ≠ caller) (phase : StopPhase) :
    (m.withCaller caller phase).callers other = m.callers other :=
  if_neg h

/-- A caller that waits goes on waiting while another moves. -/
theorem waiting_withCaller {caller other : Nat} (h : m.callers other = .waiting)
    (hne : m.callers caller ≠ .waiting) (phase : StopPhase) :
    (m.withCaller caller phase).callers other = .waiting := by
  have hother : other ≠ caller := fun hsame => hne (hsame ▸ h)
  rw [withCaller_of_ne hother]
  exact h

/-- Steps that touch neither the callers nor the claim. -/
theorem Stage.of_same (h : m.Stage) (hwriter : m.writer ≠ .absent → m'.writer ≠ .absent)
    (hfinished : m.Finished → m'.Finished) (hcallers : m'.callers = m.callers)
    (hunclaimed : m'.unclaimed = m.unclaimed) : m'.Stage := by
  cases h with
  | unclaimed writer claimable early =>
    exact .unclaimed (hwriter writer) (hunclaimed.trans claimable) (hcallers ▸ early)
  | claimed writer caller waiting => exact .claimed (hwriter writer) caller (hcallers ▸ waiting)
  | finished h => exact .finished (hfinished h)

theorem Takes.stage (h : m.Takes a m') (hs : m.Sound capacity) (hstage : m.Stage) :
    m'.Stage := by
  have hkept := h.finished hs
  by_cases hgone : m.writer = .gone
  · exact .finished (hkept (hs.finished hgone))
  cases h with
  | push => exact hstage.of_same id hkept rfl rfl
  | take | write | leave => exact hstage.of_same (fun _ => nofun) hkept rfl rfl
  | attach hwriter =>
    cases hstage with
    | finished hfinished => exact .finished (hkept hfinished)
    | unclaimed writer | claimed writer => exact (hwriter.elim writer hgone).elim
  | @signal caller outside =>
    cases hstage with
    | finished hfinished => exact .finished (hkept hfinished)
    | unclaimed writer claimable early =>
      refine .unclaimed writer claimable fun other => ?_
      by_cases hsame : other = caller
      · rw [hsame]
        exact .inr (withCaller_self _ _ _)
      · rw [withCaller_of_ne hsame]
        exact early other
    | claimed writer other waiting =>
      refine .claimed writer other (waiting_withCaller waiting ?_ _)
      rw [outside]
      nofun
  | @claim caller signalled =>
    cases hstage with
    | finished hfinished => exact .finished (hkept hfinished)
    | unclaimed writer claimable =>
      refine .claimed writer caller ?_
      rw [withCaller_self, if_pos claimable]
    | claimed writer other waiting =>
      refine .claimed writer other (waiting_withCaller waiting ?_ _)
      rw [signalled]
      nofun
  | join waiting gone => exact absurd gone hgone

/-! ## Runs of a queue with a writer -/

/-- A queue that has just been given its writer. -/
def attached (capacity : Nat) (outlet : Outlet) : Machine :=
  { idle capacity outlet with writer := .ready, unclaimed := true }

/-- After every run of a queue with a writer the shutdown is in one of its stages, and whoever
has waited for the writer has seen everything settled. -/
theorem stage_of_run (hrun : (attached capacity outlet).run? steps = some m) :
    m.Sound capacity ∧ m.Stage ∧ ∀ caller, Step.join caller ∈ steps → m.Finished := by
  refine Runs.run_induction
    (P := fun steps m => m.Sound capacity ∧ m.Stage ∧
      ∀ caller, Step.join caller ∈ steps → m.Finished) ⟨?_, ?_, ?_⟩ ?_ hrun
  · exact ⟨Ring.capacity_ofCapacity capacity, Nat.zero_le _, nofun⟩
  · exact .unclaimed nofun rfl fun _ => .inl rfl
  · nofun
  · rintro steps a m m' - ⟨hs, hstage, hjoined⟩ hstep
    have htakes := Takes.of_step? hstep
    refine ⟨htakes.sound hs, htakes.stage hs hstage, fun caller hmem => ?_⟩
    rcases List.mem_append.mp hmem with hbefore | hlast
    · exact htakes.finished hs (hjoined caller hbefore)
    · cases List.mem_singleton.mp hlast
      cases htakes with
      | join waiting gone =>
        have hfinished := hs.finished gone
        exact ⟨hfinished.inFlight_eq, hfinished.ring_eq, hfinished.stopped⟩

/-- What holds after a run of a queue with a writer, whoever stops it and whatever writes have
failed. -/
structure Stops (capacity : Nat) (outlet : Outlet) (steps : List Step) (m : Machine) : Prop where
  /-- Who has waited for the writer finds every accepted event settled, from then on. -/
  joined {caller : Nat} (h : Step.join caller ∈ steps) :
    Drained (idle capacity outlet) (.attach :: steps) m
  /-- Who has returned finds so too, unless somebody else still waits for the writer. -/
  returned {caller : Nat} (h : m.callers caller = .returned) :
    Drained (idle capacity outlet) (.attach :: steps) m ∨
      ∃ other, m.callers other = .waiting
  /-- Who stops the queue while nobody else does finds every accepted event settled. -/
  alone {caller : Nat} (h : m.callers caller = .returned)
      (hothers : ∀ other, m.callers other = .outside ∨ m.callers other = .returned) :
    Drained (idle capacity outlet) (.attach :: steps) m

/-- **Who waits for the writer finds every accepted event settled.**  This is so after every
run of a queue with a writer, of any capacity and on any file. -/
theorem stops_of_run (capacity : Nat) (outlet : Outlet) (steps : List Step) (m : Machine)
    (hrun : (idle capacity outlet).run? (.attach :: steps) = some m) :
    Stops capacity outlet steps m := by
  have hattached : (attached capacity outlet).run? steps = some m := hrun
  obtain ⟨-, hstage, hjoined⟩ := stage_of_run hattached
  have hreturned {caller : Nat} (h : m.callers caller = .returned) :
      Drained (idle capacity outlet) (.attach :: steps) m ∨
        ∃ other, m.callers other = .waiting := by
    cases hstage with
    | unclaimed writer claimable early =>
      rcases early caller with hearly | hearly
      all_goals
        rw [h] at hearly
        cases hearly
    | claimed writer other waiting => exact .inr ⟨other, waiting⟩
    | finished hfinished => exact .inl (hfinished.drained hrun)
  refine ⟨fun hmem => (hjoined _ hmem).drained hrun, hreturned, ?_⟩
  intro caller h hothers
  rcases hreturned h with hdrained | ⟨other, hwaiting⟩
  · exact hdrained
  · rcases hothers other with hphase | hphase
    all_goals
      rw [hwaiting] at hphase
      cases hphase

/-- Two callers stop a queue at the same time; the second finds the writer claimed. -/
def overlappingRun : List Step :=
  [.push (.of "intake" "latency" "one" 0), .signal 0, .claim 0, .signal 1, .claim 1]

theorem stops_of_run_overlapping :
    ∃ m, (idle 1 {}).run?
        (.attach :: (overlappingRun ++ [.take, .write 10, .leave, .join 0])) = some m ∧
      m.callers 0 = .returned ∧
      Stops 1 {} (overlappingRun ++ [.take, .write 10, .leave, .join 0]) m := by
  have hrun : (idle 1 {}).run?
      (.attach :: (overlappingRun ++ [.take, .write 10, .leave, .join 0])) = some _ := rfl
  exact ⟨_, hrun, rfl, stops_of_run 1 {} _ _ hrun⟩

/-- The second caller has returned, and the event is still in the ring. -/
theorem not_drained_overlapping :
    ∃ m, (idle 1 {}).run? (.attach :: overlappingRun) = some m ∧ m.callers 1 = .returned ∧
      m.queue.ring.toList = [.of "intake" "latency" "one" 1] ∧
      ¬ Drained (idle 1 {}) (.attach :: overlappingRun) m := by
  have hrun : (idle 1 {}).run? (.attach :: overlappingRun) = some _ := rfl
  refine ⟨_, hrun, rfl, rfl, fun hdrained => ?_⟩
  cases hdrained.ring_eq

end ReleaseFeed.Telemetry.Machine
