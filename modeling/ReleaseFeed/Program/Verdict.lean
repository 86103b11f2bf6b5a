import ReleaseFeed.Capture.Folder
import ReleaseFeed.Station

/-!
# Verdicts on captured buffers

Both commands of the program go through files one by one.  A file that cannot be read, or whose content
does not verify, is put aside; the content of every other file is published.
-/
namespace ReleaseFeed

/-- A file that is gone through: what was read from it, and when that was. -/
structure Visit where
  time : CallTime
  content : Except Capture.Error ByteArray

/-- What there is to say about a file. -/
inductive Verdict where
  | unreadable (error : Capture.Error)
  | rejected (error : Wire.Error)
  /-- The content verifies as a message of a type. -/
  | accepted (buffer : ByteArray) (type : RecordType)

namespace Verdict

/-- The verdict on what was read from a file. -/
def of : Except Capture.Error ByteArray → Verdict
  | .error error => unreadable error
  | .ok buffer =>
    match Wire.verify buffer with
    | .ok type => accepted buffer type
    | .error error => rejected error

/-- The content is published. -/
def isAccepted : Verdict → Bool
  | accepted .. => true
  | unreadable _ | rejected _ => false

variable {ω σ : Type} [Observer ω σ]

/-- The station after the content is published in a span of its own, if it is accepted. -/
def publish (time : CallTime) (part : String) (v : Verdict) (s : Station ω σ) : Station ω σ :=
  match v with
  | accepted buffer type => s.timed time part type.name (Station.publish time.published buffer)
  | unreadable _ | rejected _ => s

end Verdict

end ReleaseFeed
