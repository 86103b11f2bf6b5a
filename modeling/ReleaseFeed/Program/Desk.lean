import ReleaseFeed.Settings.Basic
import ReleaseFeed.Storage.Disk

/-!
# Desks

A desk is what a run of the program can change: a disk, and the lines on the two output streams.  A line is
written to a target of the settings.
-/
namespace ReleaseFeed

open Storage

/-- A disk and two output streams. -/
structure Desk where
  disk : Disk := {}
  /-- Lines on standard output. -/
  out : List String := []
  /-- Lines on standard error. -/
  err : List String := []
deriving Inhabited

namespace Desk

/-- An operation of the disk. -/
def onDisk {α : Type} (act : StateM Disk α) : StateM Desk α := fun d =>
  let (answer, disk) := act d.disk
  (answer, { d with disk })

/-- Writes a line to standard output. -/
def print (line : String) : StateM Desk Unit :=
  modify fun d => { d with out := d.out ++ [line] }

/-- Writes a line to standard error. -/
def complain (line : String) : StateM Desk Unit :=
  modify fun d => { d with err := d.err ++ [line] }

/-- Adds text to the end of a file. -/
def append (path text : String) : StateM Desk (Except Fault Unit) :=
  onDisk (Disk.append (.given path) text.toUTF8)

/-- Sees to it that lines can be written to a target. -/
def prepare : Target → StateM Desk (Except Fault Unit)
  | .stdout | .stderr => return .ok ()
  | .file path => append path ""

/-- Writes a line to a target. -/
def writeLine (target : Target) (line : String) : StateM Desk (Except Fault Unit) := do
  match target with
  | .stdout => print line; return .ok ()
  | .stderr => complain line; return .ok ()
  | .file path => append path (line ++ "\n")

end Desk

end ReleaseFeed
