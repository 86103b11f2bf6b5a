/-!
# Paths, and what can go wrong with them

A path is kept as it was given, or as a name in a folder, so that it can be shown again exactly.
`Path.names` takes it apart; `Fault` is why an operation on a path fails; its wording is the one of the operating system.
-/
namespace ReleaseFeed.Storage

/-- Where a file or a folder is. -/
inductive Path where
  /-- A path as it was given: names with slashes between them. -/
  | given (text : String)
  /-- A name in a folder. -/
  | entry (folder : Path) (name : String)
deriving DecidableEq, Repr, Inhabited

namespace Path

/-- The path as it is shown. -/
def text : Path → String
  | given text => text
  | entry folder name =>
    let front := folder.text
    if front.isEmpty || front.endsWith "/" then front ++ name else front ++ "/" ++ name

/-- What of a path was given. -/
def base : Path → String
  | given text => text
  | entry folder _ => folder.base

/-- The names of a path from the innermost one out; a slash at the end or next to another slash has an
empty name after it. -/
def names : Path → List String
  | given text => (text.splitOn "/").reverse
  | entry folder name => name :: folder.names

/-- The path leads from the root and not from the folder that one is in. -/
def isAbsolute (p : Path) : Bool :=
  p.base.startsWith "/"

end Path

/-! ## Names -/

/-- A name that leads to no other folder. -/
def isIdle (name : String) : Bool :=
  name = "" || name = "."

/-- The names from the folder out that the last name but idle ones is in; none if that is the folder which
the path leads from. -/
def outerNames (names : List String) : List String :=
  ((names.dropWhile isIdle).drop 1).dropWhile isIdle

theorem length_outerNames_lt {names : List String} (h : outerNames names ≠ []) :
    (outerNames names).length < names.length := by
  have outer_le := ((names.dropWhile isIdle).drop 1).dropWhile_sublist isIdle |>.length_le
  have rest_le := (names.dropWhile_sublist isIdle).length_le
  have outer_pos := List.length_pos_iff.2 h
  rw [List.length_drop] at outer_le
  unfold outerNames at outer_pos ⊢
  omega

/-! ## Faults -/

/-- Why an operation on a path fails. -/
inductive Fault where
  | notFound
  | alreadyThere
  | notFolder
  | isFolder
  | nameTooLong
  /-- A name has a zero character in it. -/
  | zeroInName
  /-- There is no room for what is written. -/
  | noRoom
  /-- Reading or changing the path is not allowed. -/
  | denied
deriving DecidableEq, Repr, Inhabited

/-- The reason in words. -/
def Fault.message : Fault → String
  | notFound => "No such file or directory (os error 2)"
  | alreadyThere => "File exists (os error 17)"
  | notFolder => "Not a directory (os error 20)"
  | isFolder => "Is a directory (os error 21)"
  | nameTooLong => "File name too long (os error 36)"
  | zeroInName => "file name contained an unexpected NUL byte"
  | noRoom => "No space left on device (os error 28)"
  | denied => "Permission denied (os error 13)"

end ReleaseFeed.Storage
