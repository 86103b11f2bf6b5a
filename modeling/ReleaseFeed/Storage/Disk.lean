import ReleaseFeed.Storage.Path

/-!
# Disks

A disk is a tree of folders and files.  Every operation is a step from one disk to the next that answers
with a result or a fault, and an operation that refuses what it is asked leaves all files as they were.  A
disk may be troubled: then some operations fail whatever they are asked.  `Disk.trouble` says which and how,
and `Disk.torn` how far they have come by then: a file may be half written, and of several folders that are
to be made some may be there.
-/
namespace ReleaseFeed.Storage

/-- A place on a disk: the names from the innermost one out to the root, which is the empty list. -/
abbrev Place := List String

/-- What there is at a place. -/
inductive Node where
  | file (content : ByteArray)
  | folder

/-- Folders and files, and the faults that lie ahead. -/
structure Disk where
  /-- What there is below the root. -/
  nodes : List (Place × Node) := []
  /-- The folder that one is in. -/
  home : Place := []
  /-- The fault of the `n`-th operation, if it is one that fails by itself. -/
  trouble : Nat → Option Fault := fun _ => none
  /-- How far the `n`-th operation has come if it fails by itself; nothing if it has not begun. -/
  torn : Nat → Option Nat := fun _ => none
  /-- Operations so far. -/
  operations : Nat := 0

namespace Disk

/-- An empty disk that works. -/
def empty : Disk := {}

/-- The folders that lead to a place. -/
def foldersTo : Place → List (Place × Node)
  | [] => []
  | name :: above => foldersTo above ++ [(name :: above, .folder)]

/-- A disk that works, with nothing on it but the folder that one is in. -/
def ofHome (home : Place) : Disk :=
  { nodes := foldersTo home, home }

instance : Inhabited Disk := ⟨empty⟩

/-! ## Nodes and places -/

/-- What there is at a place. -/
def get? (d : Disk) : Place → Option Node
  | [] => some .folder
  | place => d.nodes.lookup place

/-- The disk with a node at a place, in the stead of what was there. -/
def put (d : Disk) (place : Place) (node : Node) : Disk :=
  { d with nodes :=
      if (d.nodes.lookup place).isSome then
        d.nodes.map fun entry => if entry.1 = place then (place, node) else entry
      else
        d.nodes ++ [(place, node)] }

/-- Below the root, what there is at a place is what the nodes say. -/
theorem get?_of_ne_nil (d : Disk) {place : Place} (h : place ≠ []) :
    d.get? place = d.nodes.lookup place := by
  cases place with
  | nil => exact absurd rfl h
  | cons => rfl

/-- A node that is put at a place is there. -/
theorem get?_put_self (d : Disk) {place : Place} (node : Node) (h : place ≠ []) :
    (d.put place node).get? place = some node := by
  rw [get?_of_ne_nil _ h, put]
  generalize d.nodes = nodes
  dsimp only
  split
  · rename_i found
    induction nodes with
    | nil => simp at found
    | cons entry rest ih =>
      by_cases same : entry.1 = place
      · simp [same]
      · have differ : (place == entry.1) = false := by simpa using Ne.symm same
        rw [List.lookup_cons, differ] at found
        rw [List.map_cons, if_neg same, List.lookup_cons, differ]
        exact ih found
  · rename_i absent
    rw [List.lookup_append, Option.not_isSome_iff_eq_none.1 absent]
    simp

/-- Putting a node at a place changes no other place. -/
theorem get?_put_of_ne (d : Disk) {place other : Place} (node : Node) (h : other ≠ place) :
    (d.put place node).get? other = d.get? other := by
  by_cases root : other = []
  · subst root
    rfl
  rw [get?_of_ne_nil _ root, get?_of_ne_nil _ root, put]
  generalize d.nodes = nodes
  have differ : (other == place) = false := by simpa using h
  dsimp only
  split
  · rename_i found
    clear found
    induction nodes with
    | nil => rfl
    | cons entry rest ih =>
      by_cases same : entry.1 = place
      · rw [List.map_cons, if_pos same, List.lookup_cons, List.lookup_cons, ih, same]
        simp only [differ]
      · rw [List.map_cons, if_neg same, List.lookup_cons, List.lookup_cons, ih]
  · rw [List.lookup_append, List.lookup_cons, differ]
    simp

/-- The names in a folder. -/
def children (d : Disk) (folder : Place) : List String :=
  d.nodes.filterMap fun
    | (name :: above, _) => if above = folder then some name else none
    | ([], _) => none

/-- Bytes that a name can have. -/
def nameLimit : Nat := 255

/-- Bytes that a path can have. -/
def pathLimit : Nat := 4095

/-- The place of a name in a folder. -/
def enter (d : Disk) (folder : Place) (name : String) : Except Fault Place :=
  match d.get? folder with
  | none => .error .notFound
  | some (.file _) => .error .notFolder
  | some .folder =>
    if isIdle name then .ok folder
    else if name = ".." then .ok folder.tail
    else if nameLimit < name.utf8ByteSize then .error .nameTooLong
    else .ok (name :: folder)

/-- The place that names lead to from a place, from the innermost one out. -/
def follow (d : Disk) (start : Place) (names : List String) : Except Fault Place :=
  names.foldrM (fun name place => d.enter place name) start

/-- The place that a path leads from, if it is a path at all. -/
def start (d : Disk) (path : Path) : Except Fault Place :=
  if path.base.contains '\x00' then .error .zeroInName
  else if path.base.isEmpty then .error .notFound
  else if pathLimit < path.base.utf8ByteSize then .error .nameTooLong
  else .ok (if path.isAbsolute then [] else d.home)

/-- The place of a path.  All of it but the last name has to be there. -/
def locate (d : Disk) (path : Path) : Except Fault Place := do
  d.follow (← d.start path) path.names

/-- The place of a path that is to be written to.  One that ends with a slash is for folders only, whether
or not there is one. -/
def locateFile (d : Disk) (path : Path) : Except Fault Place := do
  let start ← d.start path
  match path.names with
  | "" :: names =>
    let folder ← d.follow start ((names.dropWhile (·.isEmpty)).drop 1)
    discard (d.enter folder "")
    throw .isFolder
  | names => d.follow start names

/-! ## Operations -/

/-- One operation: it fails by itself, perhaps halfway, or else it does what it is asked. -/
def attempt {α : Type} (halfway : Nat → Disk → Disk) (act : Disk → Except Fault α × Disk) :
    StateM Disk (Except Fault α) := fun d =>
  let next := { d with operations := d.operations + 1 }
  match d.trouble d.operations with
  | some fault =>
    match d.torn d.operations with
    | some reached => (.error fault, halfway reached next)
    | none => (.error fault, next)
  | none => act next

/-- What is done all at once: on a fault the disk stays as it is. -/
def atOnce {α : Type} (act : Disk → Except Fault (α × Disk)) (d : Disk) : Except Fault α × Disk :=
  match act d with
  | .ok (answer, changed) => (.ok answer, changed)
  | .error fault => (.error fault, d)

/-- An operation of one step only. -/
def operate {α : Type} (act : Disk → Except Fault (α × Disk)) : StateM Disk (Except Fault α) :=
  attempt (fun _ d => d) (atOnce act)

/-- There is a folder at a path. -/
def isFolder (d : Disk) (path : Path) : Bool :=
  match d.locate path with
  | .ok place => (d.get? place matches some .folder)
  | .error _ => false

/-- The names in the folder at a path. -/
def names (path : Path) : StateM Disk (Except Fault (List String)) :=
  operate fun d => do
    let place ← d.locate path
    match d.get? place with
    | some .folder => return (d.children place, d)
    | some (.file _) => throw .notFolder
    | none => throw .notFound

/-- The content of the file at a path. -/
def read (path : Path) : StateM Disk (Except Fault ByteArray) :=
  operate fun d => do
    match d.get? (← d.locate path) with
    | some (.file content) => return (content, d)
    | some .folder => throw .isFolder
    | none => throw .notFound

/-- Creates an empty file where nothing is. -/
def create (path : Path) : StateM Disk (Except Fault Unit) :=
  operate fun d => do
    let place ← d.locateFile path
    match d.get? place with
    | some _ => throw .alreadyThere
    | none => return ((), d.put place (.file .empty))

/-- The disk with bytes written to the file at a path, behind what is kept of its content; a file that is
not there is created. -/
def written (path : Path) (kept : ByteArray → ByteArray) (bytes : ByteArray) (d : Disk) :
    Except Fault (Unit × Disk) := do
  let place ← d.locateFile path
  match d.get? place with
  | some .folder => throw .isFolder
  | some (.file content) => return ((), d.put place (.file (kept content ++ bytes)))
  | none => return ((), d.put place (.file bytes))

/-- Writes bytes to the file at a path.  When that fails halfway, the first of them are written. -/
def alter (path : Path) (kept : ByteArray → ByteArray) (bytes : ByteArray) :
    StateM Disk (Except Fault Unit) :=
  attempt (fun reached d => (atOnce (written path kept (bytes.extract 0 reached)) d).2)
    (atOnce (written path kept bytes))

/-- Replaces the content of the file at a path. -/
def replace (path : Path) (content : ByteArray) : StateM Disk (Except Fault Unit) :=
  alter path (fun _ => .empty) content

/-- Adds to the end of the file at a path. -/
def append (path : Path) (bytes : ByteArray) : StateM Disk (Except Fault Unit) :=
  alter path id bytes

/-- The disk with a folder that names lead to, if there was none; all but the last name have to be there,
and slashes after it do not count. -/
def withFolder (d : Disk) (start : Place) (names : List String) : Except Fault Disk := do
  let place ← d.follow start (names.dropWhile (·.isEmpty))
  match d.get? place with
  | some .folder => return d
  | some (.file _) => throw .alreadyThere
  | none => return d.put place .folder

/-- Makes a folder that names lead to, and the folders that it is in.  A folder is looked for inside out and
created outside in; the outer ones stay when an inner one cannot be made. -/
def withFolders (d : Disk) (start : Place) (names : List String) : Except Fault Unit × Disk :=
  match d.withFolder start names with
  | .ok made => (.ok (), made)
  | .error .notFound =>
    if outerNames names = [] then (.error .notFound, d)
    else match d.withFolders start (outerNames names) with
      | (.ok (), outer) =>
        match outer.withFolder start names with
        | .ok made => (.ok (), made)
        | .error fault => (.error fault, outer)
      | failed => failed
  | .error fault => (.error fault, d)
termination_by names.length
decreasing_by exact length_outerNames_lt ‹_›

/-- Makes a folder that names lead to from where a path leads from. -/
def madeFolders (path : Path) (names : List String) (d : Disk) : Except Fault Unit × Disk :=
  match d.start path with
  | .ok start => d.withFolders start names
  | .error fault => (.error fault, d)

/-- Creates the folder at a path, and the folders that it is in; those that are there stay.  When that fails
halfway, one of the outer folders is the last one made. -/
def makeFolders (path : Path) : StateM Disk (Except Fault Unit) :=
  attempt (fun inner d => (madeFolders path (Nat.repeat outerNames inner path.names) d).2)
    (madeFolders path path.names)

/-- The disk without what is at a path. -/
def remove (d : Disk) (path : Path) : Disk :=
  match d.locate path with
  | .ok place => { d with nodes := d.nodes.filter fun entry => entry.1 ≠ place }
  | .error _ => d

end Disk

end ReleaseFeed.Storage
