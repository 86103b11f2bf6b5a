import ReleaseFeed.Element.Basic
import ReleaseFeed.Number.Numeral
import ReleaseFeed.Number.Shortest

/-!
# Element trees in memory

A `Tree` is an element with its fields, its selected variant, its scalar, or nothing.
-/
namespace ReleaseFeed

/-- The scalar of a leaf. -/
inductive Leaf where
  | text (value : String)
  | int (value : Int64)
  | float (value : Float)
  | moment (value : Moment)
deriving DecidableEq, Repr, Inhabited

namespace Leaf

/-- The scalar in text. -/
def toText : Leaf → String
  | text value => value
  | int value => toString value.toInt
  | float value => Number.text value
  | moment value => value.text

/-- The scalar as an integer: an integer itself, or a text that spells one. -/
def int? : Leaf → Option Int64
  | int value => some value
  | text value => (Number.wholeNumber? value.toList).map Int64.ofInt
  | float _ | moment _ => none

/-- The scalar as a moment. -/
def moment? : Leaf → Option Moment
  | moment value => some value
  | text _ | int _ | float _ => none

end Leaf

/-- A named element with all that is below it. -/
inductive Tree where
  | sequence (name : String) (children : List Tree)
  | choice (name : String) (selected : Tree)
  | leaf (name : String) (value : Leaf)
  | null (name : String)
deriving Repr, Inhabited

namespace Tree

/-- The name of the element. -/
def name : Tree → String
  | sequence name _ | choice name _ | leaf name _ | null name => name

/-- The children of a sequence. -/
def children : Tree → List Tree
  | sequence _ children => children
  | choice .. | leaf .. | null _ => []

/-- The element with one more child at the end.  An element without children becomes a sequence of the
one child. -/
def append (t child : Tree) : Tree :=
  sequence t.name (t.children ++ [child])

/-- The scalar of a leaf. -/
def leaf? : Tree → Option Leaf
  | leaf _ value => some value
  | sequence .. | choice .. | null _ => none

/-- The first child of that name, or the selected variant if that is its name. -/
def field? (t : Tree) (name : String) : Option Tree :=
  match t with
  | sequence _ children => children.find? fun child => child.name == name
  | choice _ selected => if selected.name == name then some selected else none
  | leaf .. | null _ => none

instance : Element Tree where
  name := Tree.name
  field? := Tree.field?
  choice?
    | choice _ selected => some selected
    | sequence .. | leaf .. | null _ => none
  isNull
    | null _ => true
    | sequence .. | choice .. | leaf .. => false
  text? t := t.leaf?.map Leaf.toText
  int? t := t.leaf?.bind Leaf.int?
  moment? t := t.leaf?.bind Leaf.moment?

end Tree

end ReleaseFeed
