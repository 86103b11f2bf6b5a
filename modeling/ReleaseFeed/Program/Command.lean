import ReleaseFeed.Program.Arguments
import ReleaseFeed.Program.Decoding
import ReleaseFeed.Program.Journal
import ReleaseFeed.Program.Replay
import ReleaseFeed.Settings.Reading

/-!
# The commands of the program

`Program.run` is the whole program as a function of its arguments and a disk: it says which exit code the
program ends with, what is on the output streams, and what is on the disk then.  All of a run happens at one
time.

A run reads the settings, opens its journal, and carries out one command.  After every file, the lines of
the bus and the text of the telemetry go to where the settings want them.
-/
namespace ReleaseFeed.Program

open Storage

/-! ## Failures -/

/-- Why a run fails. -/
inductive Failure where
  | settings (path : String) (cause : SettingsError)
  | level (text : String) (cause : SettingsError)
  | journal (target : Target) (cause : Fault)
  | listing (folder : Path) (cause : Capture.Error)
  | fallback (cause : Fault)
  | telemetry (path : String) (cause : Fault)
  /-- Files were put aside. -/
  | rejected (count : Nat)
deriving DecidableEq, Repr, Inhabited

namespace Failure

/-- The failure in words. -/
def message : Failure → String
  | settings path _ => "failed to load config " ++ path
  | level text _ => "invalid --log-level '" ++ text ++ "'"
  | journal target _ => "failed to open log file " ++ target.path?.getD ""
  | listing folder _ => "failed to list replay files in " ++ folder.text
  | fallback _ => "failed to open bus fallback output"
  | telemetry path _ => "failed to start telemetry at " ++ path
  | rejected count => toString count ++ " buffer(s) failed verification"

/-- What lies behind the failure, in words. -/
def cause? : Failure → Option String
  | settings _ cause | level _ cause => some cause.message
  | listing _ cause => some cause.message
  | journal _ cause | fallback cause | telemetry _ cause => some cause.message
  | rejected _ => none

/-- The lines about the failure. -/
def lines (f : Failure) : List String :=
  ("Error: " ++ f.message) ::
    match f.cause? with
    | some cause => ["", "Caused by:", "    " ++ cause]
    | none => []

end Failure

/-- A part of a run, which may fail. -/
abbrev Act := ExceptT Failure (StateM Desk)

/-- What holds for all of a run. -/
structure Setup where
  now : WallClock
  settings : Settings
  journal : Journal

/-- A file that is gone through in a run. -/
def Setup.visit (c : Setup) (content : Except Capture.Error ByteArray) : Visit :=
  ⟨.still c.now, content⟩

/-- Notes an event. -/
def Setup.note (c : Setup) (level : Level) (message : String) (details : List (String × String)) :
    StateM Desk Unit :=
  c.journal.note c.now ⟨level, message, details⟩

/-- Fails where an operation did. -/
def demand {α ε : Type} (failure : ε → Failure) (act : StateM Desk (Except ε α)) : Act α := do
  match ← act with
  | .ok answer => return answer
  | .error cause => throw (failure cause)

/-! ## What a run reads -/

/-- The settings in a file; the defaults if no file is named. -/
def loadSettings (path? : Option String) : Act Settings := do
  let some path := path? | return {}
  demand (.settings path) do
    match ← Desk.onDisk (Disk.read (.given path)) with
    | .ok bytes => return Settings.ofBytes path bytes
    | .error fault => return .error (.unreadable path fault.message)

/-- The level that a user asks for, or else that of the settings. -/
def chooseLevel (text? : Option String) (settings : Settings) : Act Level := do
  let some text := text? | return settings.log.level
  demand (.level text) (return Level.ofText text)

/-- The captures in a folder. -/
def capturesIn (folder : Path) : Act (List Path) :=
  demand (.listing folder) (Desk.onDisk (Capture.list folder))

/-- The files that paths name: the captures of a folder, and a file itself. -/
def collect (paths : List String) : Act (List Path) := do
  let found ← paths.mapM fun text => do
    let path := Path.given text
    if (← get).disk.isFolder path then capturesIn path else return [path]
  return found.flatten

/-! ## What a run reports to -/

variable {ω σ : Type} [Observer ω σ]

/-- Sees to it that the bus can write its lines. -/
def openFallback (c : Setup) : Act Unit :=
  demand .fallback (Desk.prepare c.settings.bus.fallback)

/-- The telemetry of a run, if the settings want it. -/
def startTelemetry (c : Setup) : Act (Option Telemetry.Machine) := do
  let wanted := c.settings.telemetry
  if !wanted.enabled then return none
  demand (.telemetry wanted.path) (Desk.append wanted.path "")
  let details := [("path", wanted.path), ("capacity", toString wanted.capacity)]
  c.note .debug "telemetry queue started" details
  c.note .info "telemetry enabled" details
  return some ((Telemetry.Machine.idle wanted.capacity {}).attempt .attach)

/-- The station of a run. -/
def openStation (c : Setup) (world : σ) : Act (Station ω σ) := do
  openFallback c
  return { bus := some {}, telemetry := ← startTelemetry c, world }

/-- Writes the lines of the bus where the settings want them. -/
def pourLines (c : Setup) (bus : Bus ω) : StateM Desk (Bus ω) := do
  for line in bus.sink.lines do
    if let .error fault ← Desk.writeLine c.settings.bus.fallback line then
      c.note .warn "failed to write fallback line" [("error", fault.message)]
  return { bus with sink.lines := [] }

/-- Writes the text of the telemetry to its file. -/
def pourTelemetry (c : Setup) (m : Telemetry.Machine) : StateM Desk Telemetry.Machine := do
  let outlet := m.output.outlet
  if !outlet.content.isEmpty then
    if let .error fault ← Desk.append c.settings.telemetry.path outlet.content then
      c.note .warn "failed to write telemetry line" [("error", fault.message)]
  return { m with output.outlet.content := "" }

/-- Writes what a station holds. -/
def pour (c : Setup) (s : Station ω σ) : StateM Desk (Station ω σ) := do
  let bus ← s.bus.mapM (pourLines c)
  let telemetry ← s.telemetry.mapM (pourTelemetry c)
  return { s with bus, telemetry }

/-- Stops the telemetry of a station. -/
def finish (c : Setup) (s : Station ω σ) : StateM Desk Unit := do
  let some machine := s.telemetry | return
  let machine ← pourTelemetry c (machine.stop c.now.micros 0)
  let counters := machine.queue.counters
  let details := [("accepted", counters.accepted), ("dropped", counters.dropped),
    ("written", counters.written), ("write_errors", counters.failed)]
  let details := details.map fun (key, n) => (key, toString n)
  c.note .debug "telemetry queue stopped" details
  c.note .info "telemetry stopped" details

/-! ## The commands -/

/-- What is in a file, after a note if that is put aside. -/
def examine (c : Setup) (path : Path) : StateM Desk (Except Capture.Error ByteArray) := do
  let content ← Desk.onDisk (Capture.read path)
  let about (reason : String) := [("path", path.text), ("error", reason)]
  match Verdict.of content with
  | .unreadable error => c.note .warn "failed to read buffer" (about error.message)
  | .rejected error => c.note .warn "buffer rejected" (about error.message)
  | .accepted .. => return content
  return content

/-- The bus of decoding has no observers. -/
instance : Observer Empty Unit where
  notify observer _ world := (nomatch observer, world)

/-- Renders files as lines. -/
def decode (c : Setup) (paths : List String) : Act Unit := do
  let paths ← collect paths
  let station : Station Empty Unit ← openStation c ()
  let step (state : Decoding.Summary × Station Empty Unit) (path : Path) := do
    let content ← examine c path
    if let .accepted _ type := Verdict.of content then
      c.note .debug "rendering" [("path", path.text), ("message_type", type.name)]
    let (summary, station) := Decoding.step state (c.visit content)
    return (summary, ← pour c station)
  let (summary, station) ← paths.foldlM step ({}, station)
  finish c station
  Desk.complain s!"Decoded {summary.rendered} buffer(s), rejected {summary.rejected}"
  if summary.rejected ≠ 0 then throw (.rejected summary.rejected)

/-- The lines about a replay. -/
def summaryLines (summary : Replay.Summary) (observerFailures : UInt64) : List String :=
  [s!"published: {summary.published}", s!"rejected: {summary.rejected}"]
    ++ summary.byType.map (fun (name, count) => "  " ++ name ++ ": " ++ toString count)
    ++ [s!"references: {summary.references}", s!"observer failures: {observerFailures}"]

/-- Publishes the captures of a folder and says what they were. -/
def replay (c : Setup) (folder? : Option String) : Act Unit := do
  let folder := folder?.getD c.settings.capture.folder
  let paths ← capturesIn (.given folder)
  c.note .info "replaying" [("dir", folder), ("files", toString paths.length)]
  let start := Replay.start (← openStation c {})
  for place in List.range 2 do
    c.note .debug "observer registered" [("observers", toString (place + 1))]
  let step (before : Replay.Progress) (path : Path) := do
    let after := Replay.step before (c.visit (← examine c path))
    if after.post.world.references.size < before.post.world.references.size then
      c.note .debug "reference dropped for ended subscription" []
    return { after with post := ← pour c after.post }
  let done ← paths.foldlM step start
  finish c done.post
  let failures := done.post.bus.elim 0 (·.counters.observerFailures)
  for line in summaryLines done.summary failures do
    Desk.print line

/-- Carries out a request. -/
def perform (now : WallClock) (request : Arguments.Request) : Act Unit := do
  let settings ← loadSettings request.config?
  let level ← chooseLevel request.level? settings
  let target := settings.log.output
  demand (.journal target) (Desk.prepare target)
  let c : Setup := ⟨now, settings, ⟨level, settings.log.format, target⟩⟩
  match request.command with
  | .decode paths => decode c paths
  | .replay folder? => replay c folder?

/-! ## The whole program -/

/-- The name and the version of the program. -/
def versionLine : String := "econfeed 0.1.0"

/-- How the program is called. -/
def usageLines : List String :=
  ["Usage: econfeed [OPTIONS] <COMMAND>",
   "",
   "Commands:",
   "  decode <PATHS>...  Verify buffers and render them as text lines",
   "  replay             Publish replay files in order and report counts",
   "  help               Print this message",
   "",
   "Options:",
   "  -c, --config <CONFIG>        Settings file",
   "  -l, --log-level <LOG_LEVEL>  Log level (trace, debug, info, warn, error)",
   "  -d, --dir <DIR>              Capture directory of replay",
   "  -h, --help                   Print help",
   "  -V, --version                Print version"]

/-- The exit code of a run, and the desk after it. -/
def run (now : WallClock) (arguments : List String) (disk : Disk) : UInt32 × Desk :=
  match Arguments.parse arguments with
  | .error .version => (0, { disk, out := [versionLine] })
  | .error .help => (0, { disk, out := usageLines })
  | .error .misuse => (2, { disk, err := "error: invalid arguments" :: "" :: usageLines })
  | .ok request =>
    match (perform now request).run { disk } with
    | (.ok (), desk) => (0, desk)
    | (.error failure, desk) => (1, { desk with err := desk.err ++ failure.lines })

end ReleaseFeed.Program
