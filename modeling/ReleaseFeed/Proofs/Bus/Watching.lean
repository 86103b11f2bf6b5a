import Mathlib.Data.List.Basic
import ReleaseFeed.Bus
import ReleaseFeed.Proofs.Runs

/-! # The calls that a bus makes

A run of a bus is a list of operations: observers are registered, buffers and log records are
published, and the sink breaks down or is mended at any time in between.

Which calls the bus makes is seen by the observers.  So each of them is watched: it does what
it would do, and writes the call into the world (`Watched`).  Watching changes nothing else
(`perform_watch`), and what is written down for one operation are the calls of the observers
that were registered before it, each made once and in order (`calls_concat`,
`map_toPair_callsTo`).  `publish_of_nil` and `publish_of_ne_nil` say all that publishing does
to the bus.

Who is registered is a matter of history: an operation that registers somebody adds them, and so
does each observer that registers others while it is called (`registrations`).  The observers of
a bus are those that it started with and its registrations, in order (`observers_run`), and each
publication goes to those that there were before it (`publications_eq`).
-/
namespace ReleaseFeed

/-- A call of an observer. -/
structure Call (ω : Type) where
  observer : ω
  buffer : ByteArray
  reaction : Reaction ω

namespace Call
variable {ω : Type}

/-- Who was called with what. -/
def toPair (c : Call ω) : ω × ByteArray :=
  (c.observer, c.buffer)

/-- The observer failed. -/
def failed (c : Call ω) : Bool :=
  c.reaction.failed

end Call

namespace Bus
variable {ω σ : Type}

/-! ## Operations and runs -/

/-- What is done to a bus, and what happens to its sink. -/
inductive Operation (ω : Type) where
  | register (o : ω)
  | publish (now : WallClock) (buffer : ByteArray)
  | log (now : WallClock) (component : Component) (status : UInt8) (correlationId : UInt64)
    (message : String)
  /-- From here on the sink refuses lines, or takes them. -/
  | turn (refusing : Bool)

namespace Operation

/-- A buffer is published. -/
def isPublish : Operation ω → Bool
  | publish .. => true
  | register _ | log .. | turn _ => false

/-- A log record is published, whose component is or is not the one that is suppressed. -/
def isLog (suppressed : Bool) : Operation ω → Bool
  | log _ component .. => decide (component = .unknown) == suppressed
  | register _ | publish .. | turn _ => false

/-- The buffer that goes out and when, if one does: log records of no component do not. -/
def message? : Operation ω → Option (WallClock × ByteArray)
  | publish now buffer => some (now, buffer)
  | log now component status correlationId message =>
    if component = .unknown then none
    else some (now, Record.encode (.log (logRecord now component status correlationId message)))
  | register _ | turn _ => none

/-- The same operation on other observers. -/
def map {ω' : Type} (f : ω → ω') : Operation ω → Operation ω'
  | register o => register (f o)
  | publish now buffer => publish now buffer
  | log now component status correlationId message =>
    log now component status correlationId message
  | turn refusing => turn refusing

end Operation

section Runs
variable [Observer ω σ]

/-- The bus and the world after an operation. -/
def perform (s : Bus ω × σ) : Operation ω → Bus ω × σ
  | .register o => (s.1.register o, s.2)
  | .publish now buffer => s.1.publish now buffer s.2
  | .log now component status correlationId message =>
    s.1.log now component status correlationId message s.2
  | .turn refusing => ({ s.1 with sink := { s.1.sink with refusing } }, s.2)

/-- The bus and the world after a list of operations. -/
def run (s : Bus ω × σ) (ops : List (Operation ω)) : Bus ω × σ :=
  ops.foldl perform s

theorem run_concat (s : Bus ω × σ) (ops : List (Operation ω)) (op : Operation ω) :
    run s (ops ++ [op]) = perform (run s ops) op := by
  rw [run, List.foldl_append]
  rfl

/-- A buffer that goes out, and who is registered when it does. -/
structure Publication (ω : Type) where
  now : WallClock
  buffer : ByteArray
  observers : List ω

/-- What an operation publishes when these observers are registered. -/
def Operation.publishedTo (observers : List ω) (op : Operation ω) : Option (Publication ω) :=
  op.message?.map fun (now, buffer) => ⟨now, buffer, observers⟩

/-- What an operation on a bus publishes. -/
def publication? (s : Bus ω × σ) (op : Operation ω) : Option (Publication ω) :=
  op.publishedTo s.1.observers

/-- What a run publishes, in order. -/
def publications (s : Bus ω × σ) (ops : List (Operation ω)) : List (Publication ω) :=
  Runs.history (fun s op => some (perform s op)) publication? s ops

theorem publications_concat (s : Bus ω × σ) (ops : List (Operation ω)) (op : Operation ω) :
    publications s (ops ++ [op]) =
      publications s ops ++ (publication? (run s ops) op).toList :=
  Runs.history_concat (List.foldlM_pure (m := Option))

/-! ## Watching -/

/-- An observer whose calls are written down. -/
structure Watched (ω : Type) where
  observer : ω

/-- A watched observer does what it does, and the call is written down after the others. -/
instance : Observer (Watched ω) (σ × List (Call ω)) where
  notify o buffer state :=
    let (reaction, world) := Observer.notify o.observer buffer state.1
    ({ failed := reaction.failed, registers := reaction.registers.map Watched.mk }, world,
      state.2 ++ [⟨o.observer, buffer, reaction⟩])

/-- A bus and a world with all observers watched, and some calls written down. -/
def watch (s : Bus ω × σ) (calls : List (Call ω)) : Bus (Watched ω) × (σ × List (Call ω)) :=
  ({ observers := s.1.observers.map Watched.mk, sink := s.1.sink, counters := s.1.counters },
    s.2, calls)

/-- The calls that observers get one after the other, and how they react. -/
def callsTo (buffer : ByteArray) : List ω → σ → List (Call ω)
  | [], _ => []
  | o :: rest, world =>
    let (reaction, world) := Observer.notify o buffer world
    ⟨o, buffer, reaction⟩ :: callsTo buffer rest world

/-- The calls that an operation on a bus leads to. -/
def callsBy (s : Bus ω × σ) (op : Operation ω) : List (Call ω) :=
  match op.message? with
  | some (_, buffer) => callsTo buffer s.1.observers s.2
  | none => []

/-- All calls of a run from a given bus and world, as the observers see them. -/
def calls (s : Bus ω × σ) (ops : List (Operation ω)) : List (Call ω) :=
  (run (watch s []) (ops.map (·.map Watched.mk))).2.2

/-- The observers that an operation on a bus registers: the one that it is given, or those that the
observers register while it calls them. -/
def registrationsBy (s : Bus ω × σ) : Operation ω → List ω
  | .register o => [o]
  | op => (callsBy s op).flatMap fun c => c.reaction.registers

/-- All observers that a run from a given bus and world registers, in order. -/
def registrations (s : Bus ω × σ) (ops : List (Operation ω)) : List ω :=
  (Runs.history (fun s op => some (perform s op)) (fun s op => some (registrationsBy s op))
    s ops).flatten

variable {s : Bus ω × σ} {ops : List (Operation ω)} {op : Operation ω} {buffer : ByteArray}
  {now : WallClock}

/-- Observers get one call each, in order, and all of them the same buffer. -/
theorem map_toPair_callsTo (observers : List ω) (world : σ) :
    (callsTo buffer observers world).map Call.toPair = observers.map (·, buffer) := by
  induction observers generalizing world with
  | nil => rfl
  | cons o rest ih =>
    rw [callsTo, List.map_cons, List.map_cons, ih]
    rfl

theorem register_foldl (b : Bus ω) (observers : List ω) :
    observers.foldl register b = { b with observers := b.observers ++ observers } := by
  induction observers generalizing b with
  | nil => rw [List.foldl_nil, List.append_nil]
  | cons o rest ih =>
    rw [List.foldl_cons, ih, register, List.append_assoc]
    rfl

/-- A call to a watched observer is the call, and is written down. -/
theorem deliver_watch (s : Bus ω × σ) (calls : List (Call ω)) (o : ω) :
    deliver buffer (watch s calls) ⟨o⟩ =
      watch (deliver buffer s o) (calls ++ [⟨o, buffer, (Observer.notify o buffer s.2).1⟩]) := by
  simp only [deliver, watch, Observer.notify, register_foldl, count, List.map_append]

theorem foldl_deliver_watch (observers : List ω) (s : Bus ω × σ) (calls : List (Call ω)) :
    (observers.map Watched.mk).foldl (deliver buffer) (watch s calls) =
      watch (observers.foldl (deliver buffer) s) (calls ++ callsTo buffer observers s.2) := by
  induction observers generalizing s calls with
  | nil => rw [callsTo, List.append_nil, List.map_nil, List.foldl_nil, List.foldl_nil]
  | cons o rest ih =>
    rw [List.map_cons, List.foldl_cons, List.foldl_cons, deliver_watch, ih, callsTo,
      List.append_assoc]
    rfl

/-! ## What publishing does -/

/-- The bus after some calls: whoever was registered in them comes last, and each is counted as
delivered or failed. -/
def afterCalls (b : Bus ω) (calls : List (Call ω)) : Bus ω :=
  { b with
    observers := b.observers ++ calls.flatMap fun c => c.reaction.registers
    counters := { b.counters with
      deliveries := b.counters.deliveries + .ofNat (calls.countP fun c => !c.failed)
      observerFailures := b.counters.observerFailures + .ofNat (calls.countP Call.failed) } }

theorem afterCalls_cons (b : Bus ω) (c : Call ω) (rest : List (Call ω)) :
    b.afterCalls (c :: rest) = (b.afterCalls [c]).afterCalls rest := by
  have hcount (p : Call ω → Bool) : (c :: rest).countP p = [c].countP p + rest.countP p := by
    rw [← List.countP_append, List.singleton_append]
  simp only [afterCalls, List.flatMap_cons, List.flatMap_nil, List.append_nil, List.append_assoc,
    hcount, UInt64.ofNat_add, UInt64.add_assoc]

theorem deliver_eq (s : Bus ω × σ) (o : ω) :
    deliver buffer s o = (s.1.afterCalls [⟨o, buffer, (Observer.notify o buffer s.2).1⟩],
      (Observer.notify o buffer s.2).2) := by
  rcases hreaction : Observer.notify o buffer s.2 with ⟨⟨failed, registers⟩, world⟩
  simp only [deliver, hreaction, register_foldl, count, afterCalls, List.flatMap_singleton,
    List.countP_singleton, Call.failed]
  cases failed with
  | false => simp
  | true => simp

/-- The bus after the observers of a publication have been called. -/
theorem foldl_deliver (observers : List ω) (s : Bus ω × σ) :
    (observers.foldl (deliver buffer) s).1 = s.1.afterCalls (callsTo buffer observers s.2) := by
  induction observers generalizing s with
  | nil =>
    simp [callsTo, afterCalls]
  | cons o rest ih =>
    rw [List.foldl_cons, ih, deliver_eq, callsTo, ← afterCalls_cons]

/-- With nobody to notify, one line is tried on the sink. -/
theorem publish_of_nil {b : Bus ω} {world : σ} (h : b.observers = []) :
    b.publish now buffer world =
      ({ b with
        sink := (b.sink.write (Line.ofBuffer now buffer)).2
        counters := { b.counters with
          publishes := b.counters.publishes + 1
          fallbackLines := b.counters.fallbackLines + if b.sink.refusing then 0 else 1
          fallbackErrors := b.counters.fallbackErrors + if b.sink.refusing then 1 else 0 } },
        world) := by
  simp only [publish, count, h, fallBack, Sink.write]
  cases b.sink.refusing with
  | false => simp
  | true => simp

/-- With somebody to notify, the calls are made, and the sink is left alone. -/
theorem publish_of_ne_nil {b : Bus ω} {world : σ} (h : b.observers ≠ []) :
    (b.publish now buffer world).1 =
      { b with counters := { b.counters with publishes := b.counters.publishes + 1 } }.afterCalls
        (callsTo buffer b.observers world) := by
  obtain ⟨o, rest, hcons⟩ := List.exists_cons_of_ne_nil h
  simp only [publish, count, hcons]
  exact foldl_deliver _ _

theorem publish_watch (s : Bus ω × σ) (calls : List (Call ω)) :
    (watch s calls).1.publish now buffer (watch s calls).2 =
      watch (s.1.publish now buffer s.2) (calls ++ callsTo buffer s.1.observers s.2) := by
  rcases hobservers : s.1.observers with _ | ⟨o, rest⟩
  · rw [publish_of_nil (congrArg (List.map Watched.mk) hobservers), publish_of_nil hobservers,
      callsTo, List.append_nil]
    simp only [watch, hobservers, List.map_nil]
  · have hfold : ((o :: rest).map Watched.mk).foldl (deliver buffer) _ = _ :=
      foldl_deliver_watch (o :: rest)
        (s.1.count fun c => { c with publishes := c.publishes + 1 }, s.2) calls
    simp only [publish, watch, count, hobservers, List.map_cons] at hfold ⊢
    exact hfold

/-- Watching changes nothing: an operation does to watched observers what it does to observers,
and the calls that it makes are written down. -/
theorem perform_watch (s : Bus ω × σ) (calls : List (Call ω)) (op : Operation ω) :
    perform (watch s calls) (op.map Watched.mk) = watch (perform s op) (calls ++ callsBy s op) := by
  cases op with
  | register o =>
    simp only [perform, Operation.map, register, watch, callsBy, Operation.message?,
      List.map_append, List.append_nil, List.map_cons, List.map_nil]
  | publish now buffer => exact publish_watch s calls
  | log now component status correlationId message =>
    by_cases hnone : component = .unknown
    · subst hnone
      simp only [perform, Operation.map, log, watch, callsBy, Operation.message?, count,
        Component.isSuppressed, List.append_nil, if_pos, beq_self_eq_true]
    · have hsuppressed : component.isSuppressed = false := beq_false_of_ne hnone
      simp only [perform, Operation.map, log, callsBy, Operation.message?, hsuppressed,
        if_neg hnone, Bool.false_eq_true, if_false]
      exact publish_watch s calls
  | turn refusing => simp only [perform, Operation.map, watch, callsBy, Operation.message?,
      List.append_nil]

theorem run_watch (s : Bus ω × σ) (ops : List (Operation ω)) :
    run (watch s []) (ops.map (·.map Watched.mk)) = watch (run s ops) (calls s ops) := by
  suffices h : ∃ calls, run (watch s []) (ops.map (·.map Watched.mk)) = watch (run s ops) calls by
    obtain ⟨all, hall⟩ := h
    rw [calls, hall]
    rfl
  induction ops using List.reverseRecOn with
  | nil => exact ⟨[], rfl⟩
  | append_singleton ops op ih =>
    obtain ⟨before, hbefore⟩ := ih
    refine ⟨before ++ callsBy (run s ops) op, ?_⟩
    rw [List.map_append, List.map_singleton, run_concat, run_concat, hbefore, perform_watch]

theorem calls_concat (s : Bus ω × σ) (ops : List (Operation ω)) (op : Operation ω) :
    calls s (ops ++ [op]) = calls s ops ++ callsBy (run s ops) op := by
  rw [calls, List.map_append, List.map_singleton, run_concat, run_watch, perform_watch]
  rfl

theorem callsBy_of_message?_eq_some (h : op.message? = some (now, buffer)) (s : Bus ω × σ) :
    callsBy s op = callsTo buffer s.1.observers s.2 := by
  rw [callsBy, h]

theorem callsBy_of_message?_eq_none (h : op.message? = none) (s : Bus ω × σ) :
    callsBy s op = [] := by
  rw [callsBy, h]

/-- All calls of a run, publication by publication. -/
theorem map_toPair_calls (start : Bus ω × σ) (ops : List (Operation ω)) :
    (calls start ops).map Call.toPair =
      (publications start ops).flatMap fun p => p.observers.map (·, p.buffer) := by
  induction ops using List.reverseRecOn with
  | nil => rfl
  | append_singleton ops op ih =>
    rw [calls_concat, publications_concat, List.map_append, List.flatMap_append, ih, publication?,
      Operation.publishedTo]
    cases hmessage : op.message? with
    | none => rw [callsBy_of_message?_eq_none hmessage]; rfl
    | some message =>
      obtain ⟨now, buffer⟩ := message
      rw [callsBy_of_message?_eq_some hmessage, map_toPair_callsTo, Option.map_some,
        Option.toList_some, List.flatMap_singleton]

/-! ## What operations do -/

theorem perform_of_message?_eq_some (h : op.message? = some (now, buffer)) (s : Bus ω × σ) :
    perform s op = s.1.publish now buffer s.2 := by
  cases op with
  | publish => cases h; rfl
  | log now' component status correlationId message =>
    obtain ⟨hknown, hsome⟩ := Option.ite_none_left_eq_some.mp h
    cases hsome
    have hsuppressed : component.isSuppressed = false := beq_false_of_ne hknown
    simp only [perform, log, hsuppressed, Bool.false_eq_true, if_false]
  | register | turn => cases h

/-- An operation that publishes nothing calls nobody and writes nothing. -/
theorem perform_of_message?_eq_none (h : op.message? = none) (s : Bus ω × σ) :
    (perform s op).1.sink.lines = s.1.sink.lines ∧
      (perform s op).1.counters = { s.1.counters with
        suppressed := s.1.counters.suppressed + if op.isLog true then 1 else 0 } := by
  cases op with
  | publish => cases h
  | log now component status correlationId message =>
    have hnone : component = .unknown := by
      by_contra hknown
      rw [Operation.message?, if_neg hknown] at h
      cases h
    subst hnone
    exact ⟨rfl, rfl⟩
  | register | turn => simp [perform, register, Operation.isLog]

/-! ## Who is registered -/

theorem registrations_concat (s : Bus ω × σ) (ops : List (Operation ω)) (op : Operation ω) :
    registrations s (ops ++ [op]) = registrations s ops ++ registrationsBy (run s ops) op := by
  have hrun : ops.foldlM (fun s op => some (perform s op)) s = some (run s ops) :=
    List.foldlM_pure (m := Option)
  rw [registrations, Runs.history_concat hrun, List.flatten_append, Option.toList_some,
    List.flatten_singleton]
  rfl

/-- Publishing registers whoever the observers register while they are called, behind the others. -/
theorem observers_publish (b : Bus ω) (world : σ) :
    (b.publish now buffer world).1.observers =
      b.observers ++ (callsTo buffer b.observers world).flatMap fun c => c.reaction.registers := by
  by_cases hnobody : b.observers = []
  · rw [publish_of_nil hnobody, hnobody]
    rfl
  · rw [publish_of_ne_nil hnobody]
    rfl

theorem observers_perform (s : Bus ω × σ) (op : Operation ω) :
    (perform s op).1.observers = s.1.observers ++ registrationsBy s op := by
  cases op with
  | register o => rfl
  | publish now buffer => exact observers_publish s.1 s.2
  | log now component status correlationId message =>
    by_cases hnone : component = .unknown
    · subst hnone
      exact (List.append_nil _).symm
    · have hmessage : (Operation.log now component status correlationId message : Operation ω).message?
          = some _ := if_neg hnone
      rw [perform_of_message?_eq_some hmessage, observers_publish, registrationsBy,
        callsBy_of_message?_eq_some hmessage]
      nofun
  | turn => exact (List.append_nil _).symm

/-- Those who are registered are the ones who were, and behind them the ones that the run has
registered. -/
theorem observers_run (s : Bus ω × σ) (ops : List (Operation ω)) :
    (run s ops).1.observers = s.1.observers ++ registrations s ops := by
  induction ops using List.reverseRecOn with
  | nil => exact (List.append_nil _).symm
  | append_singleton ops op ih =>
    rw [run_concat, observers_perform, ih, registrations_concat, List.append_assoc]

/-- Each publication finds those registered whom the operations before it have registered. -/
theorem publications_eq (s : Bus ω × σ) (ops : List (Operation ω)) :
    publications s ops = ops.zipIdx.filterMap fun (op, i) =>
      op.publishedTo (s.1.observers ++ registrations s (ops.take i)) := by
  induction ops using List.reverseRecOn with
  | nil => rfl
  | append_singleton ops op ih =>
    rw [publications_concat, ih, List.zipIdx_append, List.filterMap_append, List.zipIdx_singleton,
      publication?, observers_run]
    congr 1
    · refine List.filterMap_congr fun entry hmem => ?_
      have hlt := List.snd_lt_of_mem_zipIdx hmem
      dsimp only
      rw [List.take_append_of_le_length (Nat.le_of_lt hlt)]
    · simp only [Nat.zero_add, List.filterMap_cons, List.filterMap_nil, List.take_left]
      cases op.publishedTo _ <;> rfl

end Runs

end Bus

end ReleaseFeed
