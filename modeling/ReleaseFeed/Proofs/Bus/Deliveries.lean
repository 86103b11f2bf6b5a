import Mathlib
import ReleaseFeed.Proofs.Bus.Watching

/-! # Who is notified of what, and how it is counted

Every publication calls those that were registered when it began, or becomes one line for the
sink if there was nobody (`delivered_of_run`).  The counters of the bus are tied to the calls,
the publications and the lines of a run by its `Account`, which each of three kinds of
operation keeps: those that publish nothing, those that publish to nobody, and those that
publish to somebody.

Whom a publication calls is told by the operations before it: those who were there at the start
and those who have been registered since, in order and as often as that happened
(`Delivered.registered`, `Delivered.published`).
-/
namespace ReleaseFeed.Bus
variable {ω σ : Type} [Observer ω σ] {ops : List (Operation ω)} {op : Operation ω}
  {buffer : ByteArray} {now : WallClock}

/-! ## The account of a run -/

omit [Observer ω σ] in
/-- What is published is a buffer, or a log record of a component that is not suppressed. -/
theorem length_publication? (s : Bus ω × σ) (op : Operation ω) :
    (publication? s op).toList.length =
      (if op.isPublish then 1 else 0) + if op.isLog false then 1 else 0 := by
  cases op with
  | log now component status correlationId message =>
    by_cases hnone : component = .unknown
    · simp [publication?, Operation.publishedTo, Operation.message?, Operation.isPublish,
        Operation.isLog, hnone]
    · simp [publication?, Operation.publishedTo, Operation.message?, Operation.isPublish,
        Operation.isLog, hnone]
  | publish | register | turn => rfl

theorem isLog_true_of_message? (h : op.message?.isSome) : op.isLog true = false := by
  cases op with
  | log now component status correlationId message =>
    by_cases hnone : component = .unknown
    · rw [Operation.message?, if_pos hnone] at h
      cases h
    · simp only [Operation.isLog, decide_eq_false hnone]
      rfl
  | publish | register | turn => rfl

/-- The line of a publication on the sink. -/
def Publication.line (p : Publication ω) : String :=
  Line.ofBuffer p.now p.buffer

/-- Nobody was there to be notified. -/
def Publication.isUnobserved (p : Publication ω) : Bool :=
  p.observers.isEmpty

/-- How the counters and the sink are tied to what a run did. -/
structure Account (start : Bus ω × σ) (ops : List (Operation ω)) (b : Bus ω) : Prop where
  publishes_eq : b.counters.publishes =
    start.1.counters.publishes + .ofNat (publications start ops).length
  deliveries_eq : b.counters.deliveries =
    start.1.counters.deliveries + .ofNat ((calls start ops).countP fun c => !c.failed)
  failures_eq : b.counters.observerFailures =
    start.1.counters.observerFailures + .ofNat ((calls start ops).countP Call.failed)
  fallbacks_eq : b.counters.fallbackLines + b.counters.fallbackErrors =
    start.1.counters.fallbackLines + start.1.counters.fallbackErrors +
      .ofNat ((publications start ops).countP Publication.isUnobserved)
  /-- Some of the lines that were tried were taken. -/
  taken : ∃ lines, b.sink.lines = start.1.sink.lines ++ lines ∧
    b.counters.fallbackLines = start.1.counters.fallbackLines + .ofNat lines.length ∧
    lines.Sublist (((publications start ops).filter Publication.isUnobserved).map Publication.line)
  suppressed_eq : b.counters.suppressed =
    start.1.counters.suppressed + .ofNat (ops.countP (·.isLog true))

/-- An operation that publishes nothing keeps the account. -/
theorem Account.concat_silent {start : Bus ω × σ} (h : Account start ops (run start ops).1)
    (hmessage : op.message? = none) :
    Account start (ops ++ [op]) (run start (ops ++ [op])).1 := by
  obtain ⟨hlines, hcounters⟩ := perform_of_message?_eq_none hmessage (run start ops)
  have hpublications : publications start (ops ++ [op]) = publications start ops := by
    rw [publications_concat, publication?, Operation.publishedTo, hmessage]
    exact List.append_nil _
  have hcalls : calls start (ops ++ [op]) = calls start ops := by
    rw [calls_concat, callsBy_of_message?_eq_none hmessage, List.append_nil]
  refine ⟨?_, ?_, ?_, ?_, ?_, ?_⟩
  · rw [hpublications, run_concat, hcounters]
    exact h.publishes_eq
  · rw [hcalls, run_concat, hcounters]
    exact h.deliveries_eq
  · rw [hcalls, run_concat, hcounters]
    exact h.failures_eq
  · rw [hpublications, run_concat, hcounters]
    exact h.fallbacks_eq
  · rw [hpublications, run_concat, hlines, hcounters]
    exact h.taken
  · rw [run_concat, hcounters, List.countP_append, List.countP_singleton, UInt64.ofNat_add,
      ← UInt64.add_assoc, ← h.suppressed_eq]
    cases op.isLog true <;> rfl

/-- A publication to nobody keeps the account: it tries one line. -/
theorem Account.concat_unobserved {start : Bus ω × σ} (h : Account start ops (run start ops).1)
    (hmessage : op.message? = some (now, buffer)) (hnobody : (run start ops).1.observers = []) :
    Account start (ops ++ [op]) (run start (ops ++ [op])).1 := by
  have hpublications : publications start (ops ++ [op]) =
      publications start ops ++ [⟨now, buffer, []⟩] := by
    rw [publications_concat, publication?, Operation.publishedTo, hmessage, Option.map_some, hnobody]
    rfl
  have hcalls : calls start (ops ++ [op]) = calls start ops := by
    rw [calls_concat, callsBy_of_message?_eq_some hmessage, hnobody]
    exact List.append_nil _
  have hlog : op.isLog true = false := isLog_true_of_message? (hmessage ▸ rfl)
  have hrun := (run_concat start ops op).trans (perform_of_message?_eq_some hmessage _)
  rw [publish_of_nil hnobody] at hrun
  obtain ⟨lines, htaken, hcount, hsublist⟩ := h.taken
  refine ⟨?_, ?_, ?_, ?_, ?_, ?_⟩
  · rw [hpublications, hrun, h.publishes_eq, List.length_append, List.length_singleton,
      UInt64.ofNat_add, UInt64.add_assoc]
    rfl
  · rw [hcalls, hrun]
    exact h.deliveries_eq
  · rw [hcalls, hrun]
    exact h.failures_eq
  · have hunobserved : Publication.isUnobserved (⟨now, buffer, []⟩ : Publication ω) = true := rfl
    have hone := congrArg (· + (1 : UInt64)) h.fallbacks_eq
    rw [UInt64.add_assoc (_ + _), ← UInt64.ofNat_one, ← UInt64.ofNat_add, UInt64.ofNat_one] at hone
    rw [hpublications, hrun, List.countP_append, List.countP_singleton, if_pos hunobserved, ← hone]
    cases (run start ops).1.sink.refusing with
    | false =>
      simp only [Bool.false_eq_true, if_false, UInt64.add_zero]
      ac_rfl
    | true =>
      simp only [if_true, UInt64.add_zero]
      ac_rfl
  · rw [hpublications, hrun, List.filter_append, List.map_append]
    cases hrefusing : (run start ops).1.sink.refusing with
    | true =>
      refine ⟨lines, ?_, ?_, hsublist.trans (List.sublist_append_left _ _)⟩
      · simp only [Sink.write, hrefusing, if_true]
        exact htaken
      · simp only [if_true, UInt64.add_zero, hcount]
    | false =>
      refine ⟨lines ++ [Line.ofBuffer now buffer], ?_, ?_,
        hsublist.append (List.Sublist.refl _)⟩
      · simp only [Sink.write, hrefusing, Bool.false_eq_true, if_false, htaken, List.append_assoc]
      · simp only [Bool.false_eq_true, if_false, hcount, List.length_append, List.length_singleton,
          UInt64.ofNat_add, UInt64.ofNat_one, UInt64.add_assoc]
  · rw [hrun, List.countP_append, List.countP_singleton, hlog]
    exact h.suppressed_eq

/-- A publication to somebody keeps the account: it makes the calls. -/
theorem Account.concat_observed {start : Bus ω × σ} (h : Account start ops (run start ops).1)
    (hmessage : op.message? = some (now, buffer)) (hsomebody : (run start ops).1.observers ≠ []) :
    Account start (ops ++ [op]) (run start (ops ++ [op])).1 := by
  have hpublications : publications start (ops ++ [op]) =
      publications start ops ++ [⟨now, buffer, (run start ops).1.observers⟩] := by
    rw [publications_concat, publication?, Operation.publishedTo, hmessage]
    rfl
  have hobserved : Publication.isUnobserved ⟨now, buffer, (run start ops).1.observers⟩ = false := by
    rw [Publication.isUnobserved, List.isEmpty_eq_false_iff]
    exact hsomebody
  have hcalls := calls_concat start ops op
  rw [callsBy_of_message?_eq_some hmessage] at hcalls
  have hlog : op.isLog true = false := isLog_true_of_message? (hmessage ▸ rfl)
  have hrun := congrArg Prod.fst
    ((run_concat start ops op).trans (perform_of_message?_eq_some hmessage _))
  rw [publish_of_ne_nil hsomebody] at hrun
  obtain ⟨lines, htaken, hcount, hsublist⟩ := h.taken
  refine ⟨?_, ?_, ?_, ?_, ?_, ?_⟩
  · rw [hpublications, hrun, List.length_append, List.length_singleton, UInt64.ofNat_add,
      ← UInt64.add_assoc, ← h.publishes_eq]
    rfl
  · rw [hcalls, hrun, List.countP_append, UInt64.ofNat_add, ← UInt64.add_assoc, ← h.deliveries_eq]
    rfl
  · rw [hcalls, hrun, List.countP_append, UInt64.ofNat_add, ← UInt64.add_assoc, ← h.failures_eq]
    rfl
  · rw [hpublications, hrun, List.countP_append, List.countP_singleton, hobserved]
    exact h.fallbacks_eq
  · rw [hpublications, hrun, List.filter_append,
      List.filter_cons_of_neg (Bool.eq_false_iff.mp hobserved), List.filter_nil, List.append_nil]
    exact ⟨lines, htaken, hcount, hsublist⟩
  · rw [hrun, List.countP_append, List.countP_singleton, hlog]
    exact h.suppressed_eq

/-- Every run is accounted for. -/
theorem account_of_run (start : Bus ω × σ) (ops : List (Operation ω)) :
    Account start ops (run start ops).1 := by
  induction ops using List.reverseRecOn with
  | nil =>
    have hzero (c : UInt64) : c = c + .ofNat 0 := (UInt64.add_zero c).symm
    exact ⟨hzero _, hzero _, hzero _, hzero _,
      ⟨[], (List.append_nil _).symm, hzero _, List.Sublist.refl _⟩, hzero _⟩
  | append_singleton ops op ih =>
    cases hmessage : op.message? with
    | none => exact ih.concat_silent hmessage
    | some message =>
      obtain ⟨now, buffer⟩ := message
      by_cases hnobody : (run start ops).1.observers = []
      · exact ih.concat_unobserved hmessage hnobody
      · exact ih.concat_observed hmessage hnobody

theorem length_publications (start : Bus ω × σ) (ops : List (Operation ω)) :
    (publications start ops).length =
      ops.countP Operation.isPublish + ops.countP (Operation.isLog false) := by
  induction ops using List.reverseRecOn with
  | nil => rfl
  | append_singleton ops op ih =>
    rw [publications_concat, List.length_append, ih, length_publication?, List.countP_append,
      List.countP_append, List.countP_singleton, List.countP_singleton]
    omega

/-! ## What holds after every run -/

/-- A new bus on a sink. -/
def opened (sink : Sink) (world : σ) : Bus ω × σ :=
  ({ sink }, world)

/-- What holds of a new bus on a given sink after a run. -/
structure Delivered (sink : Sink) (world : σ) (ops : List (Operation ω)) : Prop where
  /-- Observers that are watched do what they do unwatched. -/
  unseen : run (watch (opened sink world) []) (ops.map (·.map Watched.mk)) =
    watch (run (opened sink world) ops) (calls (opened sink world) ops)
  /-- Those who are registered are those that the operations have registered, and those that
  observers have registered while they were called, in order, each as often as it was registered. -/
  registered : (run (opened sink world) ops).1.observers = registrations (opened sink world) ops
  /-- Each publication finds those registered that the operations before it have registered.  Nobody
  who is registered while it goes out is among them. -/
  published : publications (opened sink world) ops = ops.zipIdx.filterMap fun (op, i) =>
    op.publishedTo (registrations (opened sink world) (ops.take i))
  /-- Each publication, one after the other, calls those that were registered when it began, once
  and in order, with its buffer. -/
  called : (calls (opened sink world) ops).map Call.toPair =
    (publications (opened sink world) ops).flatMap fun p => p.observers.map (·, p.buffer)
  /-- What goes out next calls all that are registered now, and nobody else. -/
  notifies {op : Operation ω} {now : WallClock} {buffer : ByteArray}
      (h : op.message? = some (now, buffer)) :
    ∃ new, calls (opened sink world) (ops ++ [op]) = calls (opened sink world) ops ++ new ∧
      new.map Call.toPair = (run (opened sink world) ops).1.observers.map (·, buffer)
  /-- With nobody registered, what goes out next is tried as one line on the sink. -/
  fallsBack {op : Operation ω} {now : WallClock} {buffer : ByteArray}
      (h : op.message? = some (now, buffer))
      (hnobody : (run (opened sink world) ops).1.observers = []) :
    let b := (run (opened sink world) ops).1
    let next := (run (opened sink world) (ops ++ [op])).1
    if b.sink.refusing then
      next.sink.lines = b.sink.lines ∧
        next.counters.fallbackLines = b.counters.fallbackLines ∧
        next.counters.fallbackErrors = b.counters.fallbackErrors + 1
    else
      next.sink.lines = b.sink.lines ++ [Line.ofBuffer now buffer] ∧
        next.counters.fallbackLines = b.counters.fallbackLines + 1 ∧
        next.counters.fallbackErrors = b.counters.fallbackErrors
  /-- With somebody registered, nothing is tried on the sink. -/
  spares {op : Operation ω} {now : WallClock} {buffer : ByteArray}
      (h : op.message? = some (now, buffer))
      (hsomebody : (run (opened sink world) ops).1.observers ≠ []) :
    let b := (run (opened sink world) ops).1
    let next := (run (opened sink world) (ops ++ [op])).1
    next.sink = b.sink ∧ next.counters.fallbackLines = b.counters.fallbackLines ∧
      next.counters.fallbackErrors = b.counters.fallbackErrors
  /-- A log record of no component is counted, and that is all. -/
  suppresses (now : WallClock) (status : UInt8) (correlationId : UInt64) (message : String) :
    let s := run (opened sink world) ops
    let op := Operation.log now .unknown status correlationId message
    run (opened sink world) (ops ++ [op]) =
        ({ s.1 with counters := { s.1.counters with
            suppressed := s.1.counters.suppressed + 1 } }, s.2) ∧
      calls (opened sink world) (ops ++ [op]) = calls (opened sink world) ops
  /-- Publications are the buffers and the log records of all other components. -/
  publishes_eq : (run (opened sink world) ops).1.counters.publishes =
    .ofNat (ops.countP Operation.isPublish + ops.countP (Operation.isLog false))
  /-- Each call is delivered or failed, so all calls are counted. -/
  calls_eq : (run (opened sink world) ops).1.counters.deliveries +
      (run (opened sink world) ops).1.counters.observerFailures =
    .ofNat ((publications (opened sink world) ops).map fun p => p.observers.length).sum
  failures_eq : (run (opened sink world) ops).1.counters.observerFailures =
    .ofNat ((calls (opened sink world) ops).countP Call.failed)
  /-- Each publication to nobody is a line that was taken or refused. -/
  fallbacks_eq : (run (opened sink world) ops).1.counters.fallbackLines +
      (run (opened sink world) ops).1.counters.fallbackErrors =
    .ofNat ((publications (opened sink world) ops).countP Publication.isUnobserved)
  /-- The lines that were taken are on the sink, in order. -/
  lines_eq : ∃ lines, (run (opened sink world) ops).1.sink.lines = sink.lines ++ lines ∧
    (run (opened sink world) ops).1.counters.fallbackLines = .ofNat lines.length ∧
    lines.Sublist (((publications (opened sink world) ops).filter
      Publication.isUnobserved).map Publication.line)
  suppressed_eq : (run (opened sink world) ops).1.counters.suppressed =
    .ofNat (ops.countP (Operation.isLog true))

/-- **Every publication calls those that were registered when it began, each once and in order,
or becomes one line for the sink if there was nobody; and the counters tell how many of each
there were.**  This is so after every run, whatever the observers do. -/
theorem delivered_of_run (sink : Sink) (world : σ) (ops : List (Operation ω)) :
    Delivered sink world ops := by
  have haccount := account_of_run (opened sink world) ops
  refine ⟨run_watch _ ops, observers_run _ ops, publications_eq _ ops, map_toPair_calls _ ops,
    ?_, ?_, ?_, ?_, ?_, ?_, ?_, ?_, ?_, ?_⟩
  · intro op now buffer h
    refine ⟨callsBy (run (opened sink world) ops) op, calls_concat _ ops op, ?_⟩
    rw [callsBy_of_message?_eq_some h, map_toPair_callsTo]
  · intro op now buffer h hnobody
    rw [run_concat, perform_of_message?_eq_some h, publish_of_nil hnobody]
    cases hrefusing : (run (opened sink world) ops).1.sink.refusing with
    | false =>
      simp only [Sink.write, hrefusing, Bool.false_eq_true, if_false, UInt64.add_zero, and_self]
    | true => simp only [Sink.write, hrefusing, if_true, UInt64.add_zero, and_self]
  · intro op now buffer h hsomebody
    rw [run_concat, perform_of_message?_eq_some h, publish_of_ne_nil hsomebody]
    exact ⟨rfl, rfl, rfl⟩
  · intro now status correlationId message
    refine ⟨run_concat _ ops _, ?_⟩
    rw [calls_concat, callsBy_of_message?_eq_none rfl, List.append_nil]
  · rw [haccount.publishes_eq, length_publications]
    exact UInt64.zero_add _
  · have hcalls := congrArg List.length (map_toPair_calls (opened sink world) ops)
    rw [List.length_map, List.length_flatMap] at hcalls
    simp only [List.length_map] at hcalls
    rw [haccount.deliveries_eq, haccount.failures_eq, ← hcalls,
      List.length_eq_countP_add_countP Call.failed, UInt64.ofNat_add]
    simp only [opened, UInt64.zero_add, Bool.not_eq_true, Bool.decide_eq_false, UInt64.add_comm]
  · rw [haccount.failures_eq]
    exact UInt64.zero_add _
  · rw [haccount.fallbacks_eq]
    exact UInt64.zero_add _
  · obtain ⟨lines, htaken, hcount, hsublist⟩ := haccount.taken
    exact ⟨lines, htaken, hcount.trans (UInt64.zero_add _), hsublist⟩
  · rw [haccount.suppressed_eq]
    exact UInt64.zero_add _

end ReleaseFeed.Bus
