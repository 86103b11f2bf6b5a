import Std.Data.TreeMap
import ReleaseFeed.Program.Verdict
import ReleaseFeed.References

/-!
# Replaying captures

A replay publishes files on a bus with two followers.  One keeps the reference data of live subscriptions,
the other one counts the messages of each type; the summary of the replay says what they have seen.
-/
namespace ReleaseFeed.Replay

/-- An observer of a replay. -/
inductive Follower where
  /-- It keeps reference data. -/
  | references
  /-- It counts the messages of each type. -/
  | census
deriving DecidableEq, Repr, Inhabited

/-- What the followers have seen. -/
structure Seen where
  references : References := {}
  /-- How many messages there were of each type that has occurred, by its name. -/
  counts : Std.TreeMap String Nat := {}
deriving Inhabited

/-- One message more of a type. -/
def Seen.count (seen : Seen) (type : RecordType) : Seen :=
  { seen with counts := seen.counts.alter type.name fun count? => some (count?.getD 0 + 1) }

instance : Observer Follower Seen where
  notify
    | .references, buffer, seen => ({}, { seen with references := seen.references.notify buffer })
    | .census, buffer, seen =>
      match Wire.verify buffer with
      | .ok type => ({}, seen.count type)
      | .error _ => ({}, seen)

/-- A station of a replay. -/
abbrev Post := Station Follower Seen

/-- The station with both followers on its bus. -/
def followed (s : Post) : Post :=
  s.onBus fun bus seen => ((bus.register .references).register .census, seen)

/-- How far a replay has come. -/
structure Progress where
  published : Nat := 0
  rejected : Nat := 0
  post : Post

/-- The part of the program that the spans of a replay name. -/
def part : String := "replay"

/-- The replay before the first file. -/
def start (s : Post) : Progress :=
  { post := followed s }

/-- The replay after one more file. -/
def step (p : Progress) (v : Visit) : Progress :=
  let verdict := Verdict.of v.content
  let post := verdict.publish v.time part p.post
  if verdict.isAccepted then { p with published := p.published + 1, post }
  else { p with rejected := p.rejected + 1, post }

/-- What a replay has come to. -/
structure Summary where
  published : Nat
  rejected : Nat
  /-- The messages of each type that occurs, in the order of the names of the types. -/
  byType : List (String × Nat)
  /-- Subscriptions whose reference data is still kept. -/
  references : Nat
deriving DecidableEq, Repr, Inhabited

/-- The summary of a replay that has come this far. -/
def Progress.summary (p : Progress) : Summary :=
  { published := p.published
    rejected := p.rejected
    byType := p.post.world.counts.toList
    references := p.post.world.references.size }

/-- The replay of a list of files. -/
def files (visits : List Visit) (s : Post) : Progress :=
  visits.foldl step (start s)

end ReleaseFeed.Replay
