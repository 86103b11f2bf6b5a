import ReleaseFeed.Intake
import ReleaseFeed.Proofs.Bus.Publishing
import ReleaseFeed.Proofs.Element.DirectPath
import ReleaseFeed.Proofs.Element.Warnings

/-! # What a call of the intake leaves on the bus

A call answers what reading the element gives, whatever station it reports to.  What it leaves
on the bus is a list of buffers, each with the time at which it goes out: a log record for each
choice that was misread, one for the failure if there was one, and in the end the message, if it
is to be published and there is one (`reported_of_call`).  To tell the bus a status is to publish
a log record (`published_tell`).  All of it can be read off the observers, which are called with
these buffers in this order.
-/
namespace ReleaseFeed
namespace Station
variable {ω σ : Type} [Observer ω σ]

/-! ## Telling a status -/

/-- The log record of the system, as a message. -/
def notice (now : WallClock) (status : SystemStatus) (correlationId : UInt64) (message : String) :
    ByteArray :=
  Record.encode (.log
    { timestamp := .ofWallClock now 0, component := .system, status := status.code
      correlationId, message })

/-- Telling the bus a status of the system publishes a log record of it. -/
theorem published_tell (now : WallClock) (status : SystemStatus) (correlationId : UInt64)
    (message : String) (s : Station ω σ) :
    Published [⟨now, notice now status correlationId message⟩]
      s (s.tell now status correlationId message) :=
  published_publish now _ s

end Station

namespace Intake
open Element Station
variable {ω σ ε : Type} [Observer ω σ] [Element ε]

/-! ## Reports -/

/-- The log record of what was noted as the `n`-th of a call. -/
def noted (clock : Nat → WallClock) (status : SystemStatus) (correlationId : UInt64)
    (message : String) (n : Nat) : Bus.Posting :=
  ⟨clock n, notice (clock n) status correlationId message⟩

theorem published_report (clock : Nat → WallClock) (correlationId : UInt64)
    (anomalies : List Anomaly) (error? : Option FeedError) (s : Station ω σ) :
    Published
      (anomalies.zipIdx.map (fun (a, n) => noted clock .warning correlationId a.message n) ++
        error?.toList.map fun error =>
          noted clock .error correlationId error.message anomalies.length)
      s (report clock correlationId anomalies error? s) := by
  have hwarnings (entries : List (Anomaly × Nat)) : ∀ s : Station ω σ, Published
      (entries.map fun (a, n) => noted clock .warning correlationId a.message n) s
      (entries.foldl (fun s (a, n) => s.tell (clock n) .warning correlationId a.message) s) := by
    induction entries with
    | nil => exact fun s => published_nil rfl rfl
    | cons entry rest ih =>
      intro s
      exact (published_tell (clock entry.2) .warning correlationId entry.1.message s).trans (ih _)
  cases error? with
  | none => exact (hwarnings _ s).trans (published_nil rfl rfl)
  | some error => exact (hwarnings _ s).trans (published_tell _ _ _ _ _)

/-- The log records that a call leaves for an element: a warning for each choice that was misread,
in the order of reading, which names the field and what was found, and the error if there was
one.  Each is stamped when it is noted. -/
def notices (clock : Nat → WallClock) (e : ε) (correlationId : UInt64) : List Bus.Posting :=
  (warnings e).zipIdx.map (fun (a, n) => noted clock .warning correlationId
    ("unrecognized variant '" ++ a.found ++ "' in " ++ a.field ++ ", using defaults") n) ++
  match (readRecord e correlationId).result with
  | .ok _ => []
  | .error error => [noted clock .error correlationId error.message (warnings e).length]

variable (time : CallTime) (e : ε) (correlationId : UInt64) (s : Station ω σ)

theorem outcome_readMessage : (readMessage e correlationId).outcome =
    (((readRecord e correlationId).result).map Record.encode, warnings e) := by
  rw [readMessage_eq, Reading.outcome, run_map]
  exact congrArg (fun outcome => (outcome.1.map Record.encode, outcome.2))
    (outcome_readRecord e correlationId)

theorem result_readMessage : (readMessage e correlationId).result =
    (readRecord e correlationId).result.map Record.encode :=
  congrArg Prod.fst (outcome_readMessage e correlationId)

/-- What a call reports of an element it could not read well, if what it reads comes from the
record. -/
theorem published_reading {α : Type} (result : Record → α) (s : Station ω σ) :
    Published (notices time.noted e correlationId) s
      (report time.noted correlationId (warnings e)
        (match (readRecord e correlationId).result.map result with
        | .error error => some error
        | .ok _ => none) s) := by
  rw [notices]
  cases (readRecord e correlationId).result with
  | ok record => exact published_report _ _ _ none s
  | error error => exact published_report _ _ _ (some error) s

/-- A call whose reading comes from reading the record leaves the notices of the element. -/
theorem published_call {α : Type} {reading : ε → UInt64 → Reading α} {result : Record → α}
    (hreading : (reading e correlationId).outcome =
      ((readRecord e correlationId).result.map result, warnings e)) :
    (call time reading e correlationId s).1 = (reading e correlationId).result ∧
      Published (notices time.noted e correlationId) s
        (call time reading e correlationId s).2 := by
  rw [call, hreading]
  exact ⟨(congrArg Prod.fst hreading).symm,
    published_timed (published_reading time e correlationId result) s⟩

theorem outcome_readRecord_id : (readRecord e correlationId).outcome =
    ((readRecord e correlationId).result.map id, warnings e) := by
  rw [outcome_readRecord]
  cases (readRecord e correlationId).result <;> rfl

theorem published_parse : Published (notices time.noted e correlationId) s
    (parse time e correlationId s).2 :=
  (published_call time e correlationId s (outcome_readRecord_id e correlationId)).2

theorem published_encode : Published (notices time.noted e correlationId) s
    (encode time e correlationId s).2 :=
  (published_call time e correlationId s (outcome_readMessage e correlationId)).2

theorem encode_fst : (encode time e correlationId s).1 = (readMessage e correlationId).result :=
  (published_call time e correlationId s (outcome_readMessage e correlationId)).1

/-- What is left of processing is what encoding has left, and then the message, if there is one. -/
theorem process_eq : process time e correlationId s =
    match (readMessage e correlationId).result with
    | .ok buffer => (.ok (), (encode time e correlationId s).2.publish time.published buffer)
    | .error error => (.error error, (encode time e correlationId s).2) := by
  rw [← encode_fst time e correlationId s, process]
  rcases encode time e correlationId s with ⟨result, s'⟩
  cases result with
  | ok buffer => rfl
  | error error => rfl

/-- What processing leaves: the notices, and behind them the message if there is one. -/
def traffic : List Bus.Posting :=
  notices time.noted e correlationId ++
    (readMessage e correlationId).result.toOption.toList.map (⟨time.published, ·⟩)

theorem published_process : Published (traffic time e correlationId) s
    (process time e correlationId s).2 := by
  have hencode := published_encode time e correlationId s
  rw [process_eq, traffic]
  cases (readMessage e correlationId).result with
  | ok buffer => exact hencode.trans (published_publish time.published buffer _)
  | error error => exact hencode.trans (published_nil rfl rfl)

/-! ## Calls -/

/-- What can be said of the calls with an element at a station. -/
structure Reported : Prop where
  /-- The record is the one that is read, or the failure is the one of reading. -/
  parsed : (parse time e correlationId s).1 = (readRecord e correlationId).result
  encoded : (encode time e correlationId s).1 = (readMessage e correlationId).result
  processed : (process time e correlationId s).1 =
    (readMessage e correlationId).result.map fun _ => ()
  /-- The message is the record, encoded, and where one fails so does the other. -/
  message : (readMessage e correlationId).result =
    (readRecord e correlationId).result.map Record.encode
  parse_published : Published (notices time.noted e correlationId) s
    (parse time e correlationId s).2
  encode_published : Published (notices time.noted e correlationId) s
    (encode time e correlationId s).2
  /-- The message comes last, and there is none if the call has failed. -/
  process_published : Published (traffic time e correlationId) s (process time e correlationId s).2
  /-- Observers that are watched during a call have been called with what it leaves, buffer by
  buffer, each of which goes to all who are registered by then, in order. -/
  parse_called {bus : Bus ω} (h : s.bus = some bus) :
    (parse time e correlationId s.watched).2.world.2.map Call.toPair =
      Bus.addressees (bus, s.world) (notices time.noted e correlationId)
  encode_called {bus : Bus ω} (h : s.bus = some bus) :
    (encode time e correlationId s.watched).2.world.2.map Call.toPair =
      Bus.addressees (bus, s.world) (notices time.noted e correlationId)
  process_called {bus : Bus ω} (h : s.bus = some bus) :
    (process time e correlationId s.watched).2.world.2.map Call.toPair =
      Bus.addressees (bus, s.world) (traffic time e correlationId)

/-- **A call answers what reading the element gives, and publishes what was wrong with it**,
whatever the observers of the bus do, however full the telemetry is, and whenever its clocks are
read. -/
theorem reported_of_call : Reported time e correlationId s where
  parsed := (published_call time e correlationId s (outcome_readRecord_id e correlationId)).1
  encoded := encode_fst time e correlationId s
  processed := by
    rw [process_eq]
    cases (readMessage e correlationId).result with
    | ok buffer => rfl
    | error error => rfl
  message := result_readMessage e correlationId
  parse_published := published_parse time e correlationId s
  encode_published := published_encode time e correlationId s
  process_published := published_process time e correlationId s
  parse_called h := (published_parse time e correlationId s.watched).called h
  encode_called h := (published_encode time e correlationId s.watched).called h
  process_called h := (published_process time e correlationId s.watched).called h

end Intake

end ReleaseFeed
