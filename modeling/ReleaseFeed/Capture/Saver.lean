import ReleaseFeed.Capture.Folder

/-!
# Saving captures

A saver looks for the highest number in the folder, claims the next one by creating its file, and writes
the buffer to that file.  A number that somebody else has claimed in the meantime is passed over, so that
savers that work on one folder side by side never share a file.  Each step of a saver is one operation on
the disk, and a `Crew` takes such steps in any order; `save` is a saver that nobody disturbs.
-/
namespace ReleaseFeed.Capture

open Storage

/-- How far a saver has come. -/
inductive SaverPhase where
  /-- The folder has to be there. -/
  | opening
  /-- It looks for the highest number. -/
  | scanning
  /-- It tries to claim a number, and may try as many more. -/
  | claiming (number : UInt32) (more : Nat)
  /-- It has claimed a file and has not written it yet. -/
  | writing (path : Path)
  | done (result : Except Error Path)

/-- A buffer on its way into a folder. -/
structure Saver where
  folder : Path
  buffer : ByteArray
  phase : SaverPhase := .opening

namespace Saver

/-- Numbers that a saver tries. -/
def attempts : Nat := 1024

/-- A saver that has not started yet. -/
def start (folder : Path) (buffer : ByteArray) : Saver :=
  { folder, buffer, phase := if buffer.isEmpty then .done (.error .empty) else .opening }

/-- The saver in another phase. -/
def goTo (s : Saver) (phase : SaverPhase) : Saver :=
  { s with phase }

/-- The saver that has failed. -/
def fail (s : Saver) (error : Error) : Saver :=
  s.goTo (.done (.error error))

/-- The saver, and the disk, after one operation. -/
def step (s : Saver) : StateM Disk Saver :=
  match s.phase with
  | .opening => do
    match ← Disk.makeFolders s.folder with
    | .ok () => return s.goTo .scanning
    | .error fault => return s.fail (.storage s.folder fault)
  | .scanning => do
    match ← last s.folder with
    | .ok number => return s.goTo (.claiming (numberAfter number) (attempts - 1))
    | .error error => return s.fail error
  | .claiming number more => do
    let path := .entry s.folder (nameOf number)
    match ← Disk.create path, more with
    | .ok (), _ => return s.goTo (.writing path)
    | .error .alreadyThere, more + 1 => return s.goTo (.claiming (numberAfter number) more)
    | .error .alreadyThere, 0 => return s.fail (.noFreeNumber s.folder)
    | .error fault, _ => return s.fail (.storage path fault)
  | .writing path => do
    match ← Disk.append path s.buffer with
    | .ok () => return s.goTo (.done (.ok path))
    | .error fault => return s.fail (.storage path fault)
  | .done _ => return s

/-- What has come of the saver, once it is done. -/
def result? (s : Saver) : Option (Except Error Path) :=
  match s.phase with
  | .done result => some result
  | _ => none

/-- The saver after at most `n` operations. -/
def run : (n : Nat) → Saver → StateM Disk Saver
  | 0, s => return s
  | n + 1, s => do run n (← s.step)

/-- Operations after which every saver is done. -/
def enough : Nat := attempts + 3

end Saver

/-- Savers at work on one disk. -/
structure Crew where
  disk : Disk
  savers : Nat → Saver

namespace Crew

/-- Savers that have not started yet, each with a folder and a buffer. -/
def start (disk : Disk) (folders : Nat → Path) (buffers : Nat → ByteArray) : Crew :=
  { disk, savers := fun i => .start (folders i) (buffers i) }

/-- The savers, and the disk, after one of them has taken a step. -/
def turn (c : Crew) (i : Nat) : Crew :=
  let (saver, disk) := (c.savers i).step.run c.disk
  { disk, savers := fun j => if j = i then saver else c.savers j }

/-- The savers, and the disk, after they have taken turns. -/
def after (c : Crew) (turns : List Nat) : Crew :=
  turns.foldl turn c

end Crew

/-- Saves a buffer as the next capture in a folder, which is created if need be. -/
def save (folder : Path) (buffer : ByteArray) : StateM Disk (Except Error Path) := do
  let saver ← (Saver.start folder buffer).run Saver.enough
  return saver.result?.getD (.error (.noFreeNumber folder))

end ReleaseFeed.Capture
