import ReleaseFeed.Proofs.Bus.Watching
import ReleaseFeed.Station

/-! # Publishing one buffer after the other

A buffer that is published goes out at a time of its own (`Bus.Posting`).  A station changes by what
it posts (`Station.Published`), and such changes follow one another (`Published.trans`).  Telemetry is
beside all this: a span around a call leaves the bus and the world of the call as they are
(`published_timed`).  The observers of the bus are called with the buffers one after the other
(`Published.called`).

What a bus makes of the buffers is simple in two cases.  With nobody to notify each buffer is one
line on the sink, if the sink works (`run_postings_of_nil`).  With observers that neither fail nor
register others (`Observer.Quiet`) each buffer is delivered to all of them (`run_postings_of_quiet`).
-/
namespace ReleaseFeed
namespace Bus

/-- A buffer that is published, and when. -/
structure Posting where
  now : WallClock
  buffer : ByteArray

namespace Posting

/-- To publish it. -/
def operation {ω : Type} (p : Posting) : Operation ω :=
  .publish p.now p.buffer

/-- The line of a posting on the sink. -/
def line (p : Posting) : String :=
  Line.ofBuffer p.now p.buffer

end Posting

variable {ω σ : Type} [Observer ω σ]

/-- Who gets which buffer when postings go out: those who are registered get the first one, and each
later one goes to them and to whoever the buffers before it have had registered. -/
def addressees (start : Bus ω × σ) (postings : List Posting) : List (ω × ByteArray) :=
  postings.zipIdx.flatMap fun (p, i) =>
    (start.1.observers ++ registrations start ((postings.take i).map Posting.operation)).map
      (·, p.buffer)

theorem calls_postings (start : Bus ω × σ) (postings : List Posting) :
    (calls start (postings.map Posting.operation)).map Call.toPair =
      addressees start postings := by
  have hpublications : publications start (postings.map Posting.operation) =
      postings.zipIdx.map fun (p, i) => ⟨p.now, p.buffer,
        start.1.observers ++ registrations start ((postings.take i).map Posting.operation)⟩ := by
    rw [publications_eq, List.zipIdx_map, List.filterMap_map]
    refine Eq.trans (List.filterMap_congr fun entry _ => ?_) (congrFun List.filterMap_eq_map _)
    rw [Function.comp_apply, Function.comp_apply]
    dsimp only
    rw [List.map_take]
    rfl
  rw [addressees, map_toPair_calls, hpublications, List.flatMap_map]

end Bus

namespace Station
variable {ω σ : Type} [Observer ω σ] {s s' s'' : Station ω σ} {now : WallClock}
  {postings more : List Bus.Posting}

/-! ## At a station -/

/-- What other stations see of a change of this one: its bus, if there is one, has published these
buffers one after the other, and nothing else has happened to it or to the world. -/
def Published (postings : List Bus.Posting) (s s' : Station ω σ) : Prop :=
  match s.bus with
  | none => s'.bus = none ∧ s'.world = s.world
  | some bus =>
    s'.bus = some (Bus.run (bus, s.world) (postings.map Bus.Posting.operation)).1 ∧
      s'.world = (Bus.run (bus, s.world) (postings.map Bus.Posting.operation)).2

theorem published_nil (hbus : s'.bus = s.bus) (hworld : s'.world = s.world) :
    Published [] s s' := by
  rw [Published]
  cases h : s.bus with
  | none => exact ⟨hbus.trans h, hworld⟩
  | some bus => exact ⟨hbus.trans h, hworld⟩

theorem Published.trans (h : Published postings s s') (h' : Published more s' s'') :
    Published (postings ++ more) s s'' := by
  rw [Published] at h h' ⊢
  cases hbus : s.bus with
  | none =>
    rw [hbus] at h
    obtain ⟨hnone, hworld⟩ := h
    rw [hnone] at h'
    exact ⟨h'.1, h'.2.trans hworld⟩
  | some bus =>
    rw [hbus] at h
    obtain ⟨hsome, hworld⟩ := h
    rw [hsome, hworld] at h'
    simp only [Bus.run, List.map_append, List.foldl_append]
    exact h'

theorem published_publish (now : WallClock) (buffer : ByteArray) (s : Station ω σ) :
    Published [⟨now, buffer⟩] s (s.publish now buffer) := by
  rw [Published, publish, onBus]
  cases hbus : s.bus with
  | none => exact ⟨hbus, rfl⟩
  | some bus => exact ⟨rfl, rfl⟩

/-- A span around a call leaves the bus and the world of the call as they are. -/
theorem published_timed {time : CallTime} {part metric : String}
    {call : Station ω σ → Station ω σ} (hcall : ∀ s, Published postings s (call s))
    (s : Station ω σ) : Published postings s (s.timed time part metric call) := by
  rw [timed]
  cases s.telemetry with
  | none => exact hcall s
  | some machine =>
    have hinner := hcall
      { s with telemetry := some ((machine.begin part metric).2.drain time.begun.micros) }
    exact hinner

/-- The station with all observers of its bus watched. -/
def watched (s : Station ω σ) : Station (Bus.Watched ω) (σ × List (Call ω)) :=
  { bus := s.bus.map fun bus => (Bus.watch (bus, s.world) []).1
    telemetry := s.telemetry
    world := (s.world, []) }

/-- What a station publishes is what the observers of its bus are called with. -/
theorem Published.called {bus : Bus ω} {t : Station (Bus.Watched ω) (σ × List (Call ω))}
    (hbus : s.bus = some bus) (h : Published postings s.watched t) :
    t.world.2.map Call.toPair = Bus.addressees (bus, s.world) postings := by
  have hcalls := Bus.calls_postings (bus, s.world) postings
  rw [Bus.calls, List.map_map] at hcalls
  rw [Published, watched, hbus] at h
  rw [h.2]
  exact hcalls

end Station

/-- The observer neither fails nor registers others. -/
def Observer.Quiet {ω σ : Type} [Observer ω σ] (o : ω) : Prop :=
  ∀ (buffer : ByteArray) (world : σ), (Observer.notify o buffer world).1 = {}

namespace Bus
variable {ω σ : Type} [Observer ω σ] {b : Bus ω}

/-! ## With nobody to notify -/

/-- The bus after buffers that became these lines. -/
def afterLines (b : Bus ω) (lines : List String) : Bus ω :=
  { b with
    sink := { b.sink with lines := b.sink.lines ++ lines }
    counters := { b.counters with
      publishes := b.counters.publishes + .ofNat lines.length
      fallbackLines := b.counters.fallbackLines + .ofNat lines.length } }

omit [Observer ω σ] in
theorem afterLines_cons (b : Bus ω) (line : String) (rest : List String) :
    b.afterLines (line :: rest) = (b.afterLines [line]).afterLines rest := by
  simp only [afterLines, List.append_assoc, List.cons_append, List.nil_append, List.length_cons,
    List.length_nil, Nat.zero_add, UInt64.ofNat_add, UInt64.add_assoc, UInt64.add_comm (.ofNat 1)]

/-- With nobody to notify and a sink that works, each buffer is one line. -/
theorem run_postings_of_nil (hobservers : b.observers = []) (hsink : b.sink.refusing = false)
    (world : σ) (postings : List Posting) :
    run (b, world) (postings.map Posting.operation) =
      (b.afterLines (postings.map Posting.line), world) := by
  induction postings generalizing b with
  | nil => simp [run, afterLines]
  | cons p rest ih =>
    have hfirst : b.publish p.now p.buffer world = (b.afterLines [p.line], world) := by
      rw [publish_of_nil hobservers]
      simp only [afterLines, Sink.write, hsink, Bool.false_eq_true, if_false, UInt64.add_zero,
        List.length_singleton]
      rfl
    rw [List.map_cons, List.map_cons, afterLines_cons, run, List.foldl_cons, Posting.operation,
      perform, hfirst]
    exact ih hobservers hsink

/-! ## With quiet observers -/

/-- The bus after buffers that were delivered to all its observers. -/
def afterDeliveries (b : Bus ω) (buffers : Nat) : Bus ω :=
  { b with counters := { b.counters with
      publishes := b.counters.publishes + .ofNat buffers
      deliveries := b.counters.deliveries + .ofNat (b.observers.length * buffers) } }

/-- What observers do to the world when they get a buffer. -/
def notifyAll (buffer : ByteArray) (observers : List ω) (world : σ) : σ :=
  observers.foldl (fun world o => (Observer.notify o buffer world).2) world

theorem foldl_deliver_of_quiet {observers : List ω} (hquiet : ∀ o ∈ observers, Observer.Quiet o)
    (buffer : ByteArray) (b : Bus ω) (world : σ) :
    observers.foldl (deliver buffer) (b, world) =
      ({ b with counters := { b.counters with
          deliveries := b.counters.deliveries + .ofNat observers.length } },
        notifyAll buffer observers world) := by
  induction observers generalizing b world with
  | nil => simp [notifyAll]
  | cons o rest ih =>
    have hrest := ih fun o ho => hquiet o (List.mem_cons_of_mem _ ho)
    rw [List.foldl_cons, deliver_eq, hquiet o List.mem_cons_self, hrest, afterCalls,
      List.length_cons, Nat.add_comm rest.length, UInt64.ofNat_add, ← UInt64.add_assoc]
    simp [Call.failed, notifyAll]

theorem publish_of_quiet (hobservers : b.observers ≠ [])
    (hquiet : ∀ o ∈ b.observers, Observer.Quiet o) (now : WallClock) (buffer : ByteArray)
    (world : σ) :
    b.publish now buffer world =
      (b.afterDeliveries 1, notifyAll buffer b.observers world) := by
  have hdeliver := foldl_deliver_of_quiet hquiet buffer
    (b.count fun c => { c with publishes := c.publishes + 1 }) world
  obtain ⟨o, rest, hcons⟩ := List.exists_cons_of_ne_nil hobservers
  rw [afterDeliveries, Nat.mul_one]
  rw [hcons] at hdeliver
  simp only [publish, count, hcons] at hdeliver ⊢
  exact hdeliver

/-- Each buffer is delivered to all of them, and to nobody else. -/
theorem run_postings_of_quiet (hobservers : b.observers ≠ [])
    (hquiet : ∀ o ∈ b.observers, Observer.Quiet o) (world : σ) (postings : List Posting) :
    run (b, world) (postings.map Posting.operation) =
      (b.afterDeliveries postings.length,
        postings.foldl (fun world p => notifyAll p.buffer b.observers world) world) := by
  induction postings using List.reverseRecOn with
  | nil => simp [run, afterDeliveries]
  | append_singleton postings p ih =>
    have hlast (world : σ) :
        (b.afterDeliveries postings.length).publish p.now p.buffer world =
          ((b.afterDeliveries postings.length).afterDeliveries 1,
            notifyAll p.buffer b.observers world) :=
      publish_of_quiet (b := b.afterDeliveries postings.length) hobservers hquiet p.now p.buffer
        world
    rw [List.map_append, List.map_singleton, run_concat, ih, Posting.operation, perform, hlast,
      List.length_append, List.foldl_append]
    simp only [afterDeliveries, List.length_singleton, Nat.mul_add, UInt64.ofNat_add,
      UInt64.add_assoc, List.foldl_cons, List.foldl_nil]

end Bus

end ReleaseFeed
