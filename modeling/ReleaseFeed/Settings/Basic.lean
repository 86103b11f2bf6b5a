import ReleaseFeed.Duration
import ReleaseFeed.Text.Space

/-!
# Settings

What the program can be told in its settings file: how it reports about itself, where the bus writes lines
that no observer takes, how telemetry is kept, and where captures are.  Everything has a default, so that
an empty file is a complete one.  `Settings.fault?` is the first setting that cannot be meant.
-/
namespace ReleaseFeed

/-- How much the program reports about itself; each level includes those after it. -/
inductive Level where
  | trace | debug | info | warn | error
deriving DecidableEq, Repr, Inhabited

/-- The form of reports. -/
inductive ReportFormat where
  /-- Lines for a reader. -/
  | console
  /-- One JSON object a line. -/
  | json
deriving DecidableEq, Repr, Inhabited

/-- Where lines are written. -/
inductive Target where
  | stdout
  | stderr
  /-- The end of a file. -/
  | file (path : String)
deriving DecidableEq, Repr, Inhabited

/-- How the program reports about itself. -/
structure LogSettings where
  level : Level := .info
  format : ReportFormat := .console
  output : Target := .stdout
deriving DecidableEq, Repr, Inhabited

/-- What the bus does with buffers that no observer takes. -/
structure BusSettings where
  fallback : Target := .stdout
deriving DecidableEq, Repr, Inhabited

/-- How telemetry is kept. -/
structure TelemetrySettings where
  enabled : Bool := false
  path : String := "telemetry.log"
  capacity : Nat := 128
  interval : Duration := .ofMillis 10
deriving DecidableEq, Repr, Inhabited

/-- Where captures are. -/
structure CaptureSettings where
  folder : String := "debug"
deriving DecidableEq, Repr, Inhabited

/-- All settings. -/
structure Settings where
  log : LogSettings := {}
  bus : BusSettings := {}
  telemetry : TelemetrySettings := {}
  capture : CaptureSettings := {}
deriving DecidableEq, Repr, Inhabited

/-- Why there are no settings. -/
inductive SettingsError where
  /-- The file cannot be read; the reason is in words. -/
  | unreadable (path reason : String)
  /-- The text does not spell settings. -/
  | malformed
  | missing (group field : String)
  | invalid (group field reason : String)
deriving DecidableEq, Repr, Inhabited

/-- The reason in words. -/
def SettingsError.message : SettingsError → String
  | unreadable path reason => "failed to read config file '" ++ path ++ "': " ++ reason
  | malformed => "failed to parse config"
  | missing group field => "[" ++ group ++ "] is missing required field '" ++ field ++ "'"
  | invalid group field reason => "[" ++ group ++ "] has invalid " ++ field ++ ": " ++ reason

/-! ## Levels and targets -/

namespace Level

/-- All levels, from the one that includes all others on. -/
def all : List Level :=
  [trace, debug, info, warn, error]

/-- The level as it is spelled. -/
def label : Level → String
  | trace => "trace"
  | debug => "debug"
  | info => "info"
  | warn => "warn"
  | error => "error"

/-- The place of the level among all levels. -/
def rank (level : Level) : Nat :=
  all.idxOf level

/-- The level with a given label. -/
def ofLabel? (label : String) : Option Level :=
  all.find? (·.label == label)

/-- The level that a user means: white space around it and the case of its letters do not count, and
`warning` is another word for `warn`. -/
def ofText (text : String) : Except SettingsError Level :=
  let word := String.ofList ((Text.trim text.toList).map Text.lowerAscii)
  match ofLabel? (if word = "warning" then "warn" else word) with
  | some level => .ok level
  | none => .error (.invalid "log" "level" ("unknown level '" ++ word ++ "'"))

end Level

namespace Target

/-- The target that a text names: one of the two streams, or else a file. -/
def ofText (text : String) : Target :=
  if text = "stdout" then stdout else if text = "stderr" then stderr else file text

/-- The file, if the target is one. -/
def path? : Target → Option String
  | file path => some path
  | stdout | stderr => none

/-- The target is a file without a name. -/
def isNameless (t : Target) : Bool :=
  t.path?.any fun path => (Text.trim path.toList).isEmpty

end Target

/-! ## Validity -/

namespace Settings

/-- The paths that settings name. -/
def paths (s : Settings) : List String :=
  s.log.output.path?.toList ++ s.bus.fallback.path?.toList ++ [s.telemetry.path, s.capture.folder]

/-- The first setting that cannot be meant. -/
def fault? (s : Settings) : Option SettingsError :=
  if s.log.output.isNameless then some (.missing "log" "output")
  else if s.bus.fallback.isNameless then some (.missing "bus" "fallback")
  else if s.telemetry.path.isEmpty then some (.missing "telemetry" "path")
  else if s.telemetry.capacity = 0 then
    some (.invalid "telemetry" "capacity" "must be greater than 0")
  else if s.telemetry.interval.isZero then
    some (.invalid "telemetry" "interval" "must be greater than 0")
  else if s.capture.folder.isEmpty then some (.missing "replay" "dir")
  else none

/-- The settings, if all of them can be meant. -/
def validated (s : Settings) : Except SettingsError Settings :=
  match s.fault? with
  | some error => .error error
  | none => .ok s

end Settings

end ReleaseFeed
