import ReleaseFeed.Program.Command
import Std.Time.DateTime.Timestamp

/-!
# The command line

Before a run, what the run can touch is read from the file system onto a disk.  After it, its lines are
printed, and what it has added to files is added to the files themselves.  Folders are not searched: the
names of the files in them come on standard input, one a line, as `find` prints them.
-/
namespace ReleaseFeed.Program

open Storage

/-- The lines of a stream up to its end, after those that have been read. -/
partial def linesOf (stream : IO.FS.Stream) (before : Array String) : IO (Array String) := do
  let line ← stream.getLine
  if line.isEmpty then return before
  linesOf stream (before.push (line.dropEndWhile (· == '\n')).toString)

/-- The error code of reading a folder as a file. -/
def folderCode : UInt32 := 21

/-- What is at a path of the file system. -/
def lookUp (path : String) : IO (Option Node) := do
  try
    return some (.file (← IO.FS.readBinFile path))
  catch
    | .inappropriateType _ code _ => return if code = folderCode then some .folder else none
    | _ => return none

/-- The disk with what is at a path of the file system, and with the folders that it is in. -/
def load (disk : Disk) (path : String) : IO Disk := do
  let names := path.splitOn "/"
  let fronts := (List.range names.length).map fun n => "/".intercalate (names.take (n + 1))
  fronts.foldlM (fun disk front => do
    match disk.locate (.given front) with
    | .error _ => return disk
    | .ok place =>
      if (disk.get? place).isSome then return disk
      return (← lookUp front).elim disk (disk.put place)) disk

/-- A disk with nothing on it but the folder that the program is in.  Where that folder is does not matter, but
it is far enough from the root that no path leads out of it to there. -/
def emptyDisk : Disk :=
  .ofHome (List.replicate 64 ".")

/-- The content of a file on a disk. -/
def contentOf (disk : Disk) (path : String) : Option ByteArray :=
  ((Disk.read (.given path)).run disk).1.toOption

/-- Adds to a file of the file system what has been added to it from one disk to another. -/
def store (before after : Disk) (path : String) : IO Unit := do
  let some content := contentOf after path | return
  let old? := contentOf before path
  let kept := old?.elim 0 ByteArray.size
  if old?.isNone || kept < content.size then
    let handle ← IO.FS.Handle.mk path .append
    handle.write (content.extract kept content.size)

/-- The time by the clock of the system. -/
def clock : IO WallClock := do
  let time ← Std.Time.Timestamp.now
  let micros := time.toNanosecondsSinceUnixEpoch.toInt / 1000
  return (WallClock.ofMicros? micros).getD ⟨.epoch, .midnight⟩

end ReleaseFeed.Program

open ReleaseFeed Program in
/-- Runs the program. -/
def main (arguments : List String) : IO UInt32 := do
  let stdin ← IO.getStdin
  let listed ← if ← stdin.isTty then pure #[] else linesOf stdin #[]
  let request? := (Arguments.parse arguments).toOption
  let asked := request?.elim [] (·.paths)
  let disk ← (asked ++ listed.toList).foldlM load emptyDisk
  let (settings, _) := (loadSettings (request?.bind (·.config?))).run { disk }
  let targets := settings.toOption.elim [] Settings.paths
  let disk ← targets.foldlM load disk
  let (code, desk) := run (← clock) arguments disk
  desk.out.forM IO.println
  desk.err.forM IO.eprintln
  (asked ++ targets).eraseDups.forM (store disk desk.disk)
  return code
