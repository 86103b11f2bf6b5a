import ReleaseFeed.Capture.Name
import ReleaseFeed.Storage.Disk

/-!
# Folders of captured buffers

The captures of a folder are its entries whose names are names of captured buffers, in the order of their
numbers.  The next capture has the number after the highest one.
-/
namespace ReleaseFeed.Capture

open Storage

/-- Why a capture cannot be saved or read. -/
inductive Error where
  /-- There is nothing to save. -/
  | empty
  | storage (path : Path) (fault : Fault)
  /-- The numbers that were tried are all taken. -/
  | noFreeNumber (folder : Path)
deriving DecidableEq, Repr, Inhabited

/-- The reason in words. -/
def Error.message : Error → String
  | empty => "empty data payload"
  | storage path fault => "replay file " ++ path.text ++ ": " ++ fault.message
  | noFreeNumber folder => "replay file " ++ folder.text ++ ": no free replay file number"

/-! ## Numbers and names -/

/-- The captures among the names in a folder, with their numbers. -/
def numbered (names : List String) : List (UInt32 × String) :=
  names.filterMap fun name => (number? name).map (·, name)

/-- The highest number among the names in a folder; 0 if there is no capture. -/
def lastNumber (names : List String) : UInt32 :=
  (numbered names).foldl (fun last entry => if last < entry.1 then entry.1 else last) 0

/-- The number after a number; the greatest one stays. -/
def numberAfter (number : UInt32) : UInt32 :=
  if number.toNat + 1 < UInt32.size then number + 1 else number

/-- The captures among the names in a folder, in the order of their numbers. -/
def inOrder (names : List String) : List String :=
  ((numbered names).mergeSort fun a b => a.1 ≤ b.1).map (·.2)

/-! ## Folders and files -/

/-- Something asked of the disk at a path. -/
def asked {α : Type} (path : Path) (act : StateM Disk (Except Fault α)) :
    StateM Disk (Except Error α) := do
  return (← act).mapError (.storage path)

/-- The highest number in a folder. -/
def last (folder : Path) : StateM Disk (Except Error UInt32) := do
  return (← asked folder (Disk.names folder)).map lastNumber

/-- The path of the capture that comes next in a folder. -/
def next (folder : Path) : StateM Disk (Except Error Path) := do
  return (← last folder).map fun number => .entry folder (nameOf (numberAfter number))

/-- The captures in a folder, in the order of their numbers. -/
def list (folder : Path) : StateM Disk (Except Error (List Path)) := do
  return (← asked folder (Disk.names folder)).map fun names => (inOrder names).map (.entry folder)

/-- The buffer in the file at a path. -/
def read (path : Path) : StateM Disk (Except Error ByteArray) :=
  asked path (Disk.read path)

/-- Writes a buffer to the file at a path, whatever was in it. -/
def write (path : Path) (buffer : ByteArray) : StateM Disk (Except Error Unit) :=
  if buffer.isEmpty then return .error .empty else asked path (Disk.replace path buffer)

end ReleaseFeed.Capture
