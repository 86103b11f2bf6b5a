import ReleaseFeed.Settings.Basic
import ReleaseFeed.Settings.Interval
import ReleaseFeed.Toml.Document

/-!
# Settings from TOML

Each group of settings is a table, or a list with the settings of the group in order.  A setting that is
not there has its default, and what is there beyond the settings is passed over.
-/
namespace ReleaseFeed

open Toml

namespace Settings

/-- What a group says about each of its settings, by name or by place. -/
def members? : Value → Option (String → Nat → Option Value)
  | .table _ entries => some fun name _ => entries.lookup name
  | .list items | .tables items => some fun _ place => items[place]?
  | .moment => some fun _ _ => none
  | _ => none

/-- A setting that may be missing. -/
def setting {α : Type} (members : String → Nat → Option Value) (name : String) (place : Nat)
    (default : α) (read : Value → Option α) : Option α :=
  match members name place with
  | none => some default
  | some value => read value

/-- A text. -/
def text? : Value → Option String
  | .text text => some text
  | _ => none

/-- A truth value. -/
def truth? : Value → Option Bool
  | .truth value => some value
  | _ => none

/-- A number of things. -/
def count? : Value → Option Nat
  | .integer n => if 0 ≤ n then some n.toNat else none
  | _ => none

/-- The value holds nothing. -/
def isBare : Value → Bool
  | .list items => items.isEmpty
  | .table _ entries => entries.isEmpty
  | _ => false

/-- One of a few words: the word as a text, or as the only key of a table, with nothing in it. -/
def choice? {α : Type} (ofLabel? : String → Option α) : Value → Option α
  | .text label => ofLabel? label
  | .table _ [(label, inner)] => if isBare inner then ofLabel? label else none
  | _ => none

/-- The form of reports with a given label. -/
def formatOf? (label : String) : Option ReportFormat :=
  if label = "console" then some .console else if label = "json" then some .json else none

/-- A group of settings that may be missing. -/
def group {α : Type} (members : String → Nat → Option Value) (name : String) (place : Nat)
    (default : α) (read : (String → Nat → Option Value) → Option α) : Option α :=
  setting members name place default fun value => do read (← members? value)

/-- The settings that a document spells. -/
def ofValue? (document : Value) : Option Settings := do
  let top ← members? document
  let log ← group top "log" 0 {} fun inside => do
    let level ← setting inside "level" 0 .info (choice? Level.ofLabel?)
    let format ← setting inside "format" 1 .console (choice? formatOf?)
    let output ← setting inside "output" 2 .stdout fun value => Target.ofText <$> text? value
    return { level, format, output : LogSettings }
  let bus ← group top "bus" 1 {} fun inside => do
    let fallback ← setting inside "fallback" 0 .stdout fun value => Target.ofText <$> text? value
    return { fallback : BusSettings }
  let usual : TelemetrySettings := {}
  let telemetry ← group top "telemetry" 2 {} fun inside => do
    let enabled ← setting inside "enabled" 0 usual.enabled truth?
    let path ← setting inside "path" 1 usual.path text?
    let capacity ← setting inside "capacity" 2 usual.capacity count?
    let interval ← setting inside "interval" 3 usual.interval fun value => do
      Duration.ofText? (← text? value)
    return { enabled, path, capacity, interval : TelemetrySettings }
  let capture ← group top "replay" 3 {} fun inside => do
    let folder ← setting inside "dir" 0 "debug" text?
    return { folder : CaptureSettings }
  return { log, bus, telemetry, capture }

/-- The settings that a text spells, if all of them can be meant. -/
def ofText (text : String) : Except SettingsError Settings :=
  match (Toml.parse? text).bind ofValue? with
  | none => .error .malformed
  | some settings => settings.validated

/-- The settings in the bytes of a file. -/
def ofBytes (path : String) (bytes : ByteArray) : Except SettingsError Settings :=
  match String.fromUTF8? bytes with
  | none => .error (.unreadable path "stream did not contain valid UTF-8")
  | some text => ofText text

end Settings

end ReleaseFeed
