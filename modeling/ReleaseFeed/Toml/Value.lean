/-!
# TOML values

A document is a table of values by key.  A table remembers how it came about, because that decides what
later parts of the document may add to it: a header opens a table once, dotted keys go on with tables
that dotted keys have made, and an inline table is complete where it stands.

Of a fraction and of a date or time only that it is one is kept.
-/
namespace ReleaseFeed.Toml

/-- How a table came about. -/
inductive Standing where
  /-- A header names it. -/
  | header
  /-- A header names a table inside it. -/
  | implied
  /-- A dotted key leads through it. -/
  | dotted
  /-- It is written as a value. -/
  | inline
deriving DecidableEq, Repr, Inhabited

/-- A value of a document. -/
inductive Value where
  | text (text : String)
  | integer (n : Int)
  | fraction
  | truth (value : Bool)
  | moment
  | list (items : List Value)
  | table (standing : Standing) (entries : List (String × Value))
  /-- The tables that headers of one array have opened, in order. -/
  | tables (items : List Value)
deriving Repr, Inhabited

/-- The values of a table by key, in the order in which the keys appear. -/
abbrev Entries := List (String × Value)

/-- The entries with a value for a key, in the stead of the value that the key had. -/
def Entries.put (key : String) (value : Value) (entries : Entries) : Entries :=
  if (entries.lookup key).isSome then
    entries.map fun entry => if entry.1 = key then (key, value) else entry
  else
    entries ++ [(key, value)]

namespace Value

/-- Changes the table that a path of keys leads to from a table; nothing if the path leads through
something closed to it.  Tables that are missing on the way are made.  A header goes on in the last table
of an array, and a dotted key does not go through a table that a header has opened. -/
def alterEntries (dotted : Bool) (change : Standing → Entries → Option Value) :
    List String → Standing → Entries → Option Value
  | [], standing, entries => change standing entries
  | key :: path, standing, entries =>
    let altered : Option Value :=
      match entries.lookup key with
      | none => alterEntries dotted change path (if dotted then .dotted else .implied) []
      | some (.table inner below) =>
        if inner = .inline ∨ (dotted ∧ inner = .header) then none
        else alterEntries dotted change path inner below
      | some (.tables items) =>
        match items.getLast? with
        | some (.table inner below) =>
          (alterEntries dotted change path inner below).map fun last =>
            tables (items.dropLast ++ [last])
        | _ => none
      | some _ => none
    altered.map fun value => table standing (Entries.put key value entries)

/-- Changes the table that a path of keys leads to from a value. -/
def alter (dotted : Bool) (path : List String) (change : Standing → Entries → Option Value) :
    Value → Option Value
  | table standing entries => alterEntries dotted change path standing entries
  | _ => none

/-- Opens the table of a header, which may so far have been implied only. -/
def openTable (key : String) (standing : Standing) (entries : Entries) : Option Value :=
  let opened (inner : Entries) := table standing (Entries.put key (table .header inner) entries)
  match entries.lookup key with
  | none => some (opened [])
  | some (.table .implied inner) => some (opened inner)
  | some _ => none

/-- Opens one more table of an array. -/
def openItem (key : String) (standing : Standing) (entries : Entries) : Option Value :=
  let opened (before : List Value) :=
    table standing (Entries.put key (tables (before ++ [table .header []])) entries)
  match entries.lookup key with
  | none => some (opened [])
  | some (.tables items) => some (opened items)
  | some _ => none

/-- Gives a value to a key that has none; where dotted keys have led to the table, it has to be a table
that dotted keys have made. -/
def assign (led : Bool) (key : String) (value : Value) (standing : Standing) (entries : Entries) :
    Option Value :=
  if (led && standing != .dotted) || (entries.lookup key).isSome then none
  else some (table standing (entries ++ [(key, value)]))

/-- Gives a value to a dotted key. -/
def assignAt (path : List String) (value : Value) (standing : Standing) (entries : Entries) :
    Option Value :=
  match path.getLast? with
  | none => none
  | some key =>
    alterEntries true (assign (path.length != 1) key value) path.dropLast standing entries

/-- The inline table of key and value pairs. -/
def inlineTable? (pairs : List (List String × Value)) : Option Value :=
  pairs.foldlM
    (fun whole (path, value) => whole.alter true [] (assignAt path value)) (table .inline [])

end Value

/-! ## Statements -/

/-- One statement of a document. -/
inductive Statement where
  /-- A header of a table. -/
  | header (path : List String)
  /-- A header of the next table of an array. -/
  | item (path : List String)
  | pair (path : List String) (value : Value)
deriving Repr, Inhabited

/-- A document as far as it has been read. -/
structure Draft where
  whole : Value := .table .header []
  /-- The path of the last header. -/
  here : List String := []

namespace Draft

/-- The draft after a header. -/
def under (d : Draft) (path : List String)
    (opening : String → Standing → Entries → Option Value) : Option Draft := do
  let key ← path.getLast?
  return { whole := ← d.whole.alter false path.dropLast (opening key), here := path }

/-- The draft after a statement; nothing if the statement contradicts an earlier one. -/
def add (d : Draft) : Statement → Option Draft
  | .header path => d.under path Value.openTable
  | .item path => d.under path Value.openItem
  | .pair path value => do
    return { d with whole := ← d.whole.alter false d.here (Value.assignAt path value) }

end Draft

/-- The document of a list of statements. -/
def ofStatements? (statements : List Statement) : Option Value := do
  return (← statements.foldlM Draft.add {}).whole

end ReleaseFeed.Toml
