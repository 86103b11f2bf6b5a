/-!
# Labels and codes

The small closed vocabularies of the feed.  Each value has a one-byte code on the wire and a label in
text; a byte or a label that names no value reads as `unknown`.
-/
namespace ReleaseFeed

/-- What an economic headline reports. -/
inductive EventKind where
  | unknown | actual | revision | estimate | calendar
deriving DecidableEq, Repr, Inhabited

namespace EventKind

/-- The code on the wire. -/
def code : EventKind → UInt8
  | unknown => 0
  | actual => 1
  | revision => 2
  | estimate => 3
  | calendar => 4

/-- The kind with a given code. -/
def ofCode (byte : UInt8) : EventKind :=
  match byte.toNat with
  | 1 => actual
  | 2 => revision
  | 3 => estimate
  | 4 => calendar
  | _ => unknown

/-- The label as the feed spells it. -/
def label : EventKind → String
  | unknown => "UNKNOWN"
  | actual => "ACTUAL"
  | revision => "REVISION"
  | estimate => "ESTIMATE"
  | calendar => "CALENDAR"

/-- The kind with a given label; the spelling is exact. -/
def ofLabel (text : String) : EventKind :=
  ([actual, revision, estimate, calendar].find? fun k => k.label == text).getD unknown

theorem ofCode_code (k : EventKind) : ofCode k.code = k := by cases k <;> rfl

end EventKind

/-- How a headline relates to earlier ones for the same event. -/
inductive EventSubkind where
  | unknown | new | update | initialPaint | delete
deriving DecidableEq, Repr, Inhabited

namespace EventSubkind

/-- The code on the wire. -/
def code : EventSubkind → UInt8
  | unknown => 0
  | new => 1
  | update => 2
  | initialPaint => 3
  | delete => 4

/-- The subkind with a given code. -/
def ofCode (byte : UInt8) : EventSubkind :=
  match byte.toNat with
  | 1 => new
  | 2 => update
  | 3 => initialPaint
  | 4 => delete
  | _ => unknown

/-- The label as the feed spells it. -/
def label : EventSubkind → String
  | unknown => "UNKNOWN"
  | new => "NEW"
  | update => "UPDATE"
  | initialPaint => "INITPAINT"
  | delete => "DELETE"

/-- The subkind with a given label; the spelling is exact. -/
def ofLabel (text : String) : EventSubkind :=
  ([new, update, initialPaint, delete].find? fun k => k.label == text).getD unknown

theorem ofCode_code (k : EventSubkind) : ofCode k.code = k := by cases k <;> rfl

end EventSubkind

/-- Whether a calendar entry has been published yet. -/
inductive ReleaseStatus where
  | unknown | released | scheduled
deriving DecidableEq, Repr, Inhabited

namespace ReleaseStatus

/-- The code on the wire. -/
def code : ReleaseStatus → UInt8
  | unknown => 0
  | released => 1
  | scheduled => 2

/-- The status with a given code. -/
def ofCode (byte : UInt8) : ReleaseStatus :=
  match byte.toNat with
  | 1 => released
  | 2 => scheduled
  | _ => unknown

/-- The label as the feed spells it. -/
def label : ReleaseStatus → String
  | unknown => "UNKNOWN"
  | released => "RELEASED"
  | scheduled => "SCHEDULED"

/-- The status with a given label; the spelling is exact. -/
def ofLabel (text : String) : ReleaseStatus :=
  ([released, scheduled].find? fun k => k.label == text).getD unknown

theorem ofCode_code (k : ReleaseStatus) : ofCode k.code = k := by cases k <;> rfl

end ReleaseStatus

/-- The component that a log record comes from. -/
inductive Component where
  | unknown | system | session | subscription | service | heartbeat
deriving DecidableEq, Repr, Inhabited

namespace Component

/-- The code on the wire. -/
def code : Component → UInt8
  | unknown => 0
  | system => 1
  | session => 2
  | subscription => 3
  | service => 4
  | heartbeat => 5

/-- The component with a given code. -/
def ofCode (byte : UInt8) : Component :=
  match byte.toNat with
  | 1 => system
  | 2 => session
  | 3 => subscription
  | 4 => service
  | 5 => heartbeat
  | _ => unknown

/-- The name in text. -/
def label : Component → String
  | unknown => "Unknown"
  | system => "System"
  | session => "Session"
  | subscription => "Subscription"
  | service => "Service"
  | heartbeat => "Heartbeat"

/-- Log records of this component are dropped before they are encoded. -/
def isSuppressed (c : Component) : Bool :=
  c == unknown

theorem ofCode_code (c : Component) : ofCode c.code = c := by cases c <;> rfl

end Component

/-- What the session component reports. -/
inductive SessionStatus where
  | unknown | connectionUp | started | connectionDown | terminated | invalidOptions | failure
deriving DecidableEq, Repr, Inhabited

namespace SessionStatus

/-- The code on the wire. -/
def code : SessionStatus → UInt8
  | unknown => 0
  | connectionUp => 1
  | started => 2
  | connectionDown => 3
  | terminated => 4
  | invalidOptions => 5
  | failure => 6

/-- The status with a given code. -/
def ofCode (byte : UInt8) : SessionStatus :=
  match byte.toNat with
  | 1 => connectionUp
  | 2 => started
  | 3 => connectionDown
  | 4 => terminated
  | 5 => invalidOptions
  | 6 => failure
  | _ => unknown

/-- The name in text. -/
def label : SessionStatus → String
  | unknown => "Unknown"
  | connectionUp => "ConnectionUp"
  | started => "Started"
  | connectionDown => "ConnectionDown"
  | terminated => "Terminated"
  | invalidOptions => "InvalidOptions"
  | failure => "Failure"

end SessionStatus

/-- What the subscription component reports. -/
inductive SubscriptionStatus where
  | unknown | started | streamsActivated | terminated | success | failure
deriving DecidableEq, Repr, Inhabited

namespace SubscriptionStatus

/-- The code on the wire. -/
def code : SubscriptionStatus → UInt8
  | unknown => 0
  | started => 1
  | streamsActivated => 2
  | terminated => 3
  | success => 4
  | failure => 5

/-- The status with a given code. -/
def ofCode (byte : UInt8) : SubscriptionStatus :=
  match byte.toNat with
  | 1 => started
  | 2 => streamsActivated
  | 3 => terminated
  | 4 => success
  | 5 => failure
  | _ => unknown

/-- The name in text. -/
def label : SubscriptionStatus → String
  | unknown => "Unknown"
  | started => "Started"
  | streamsActivated => "StreamsActivated"
  | terminated => "Terminated"
  | success => "Success"
  | failure => "Failure"

/-- After this status the subscription delivers nothing more. -/
def isEnded (s : SubscriptionStatus) : Bool :=
  s == terminated || s == failure

end SubscriptionStatus

/-- What the service component reports. -/
inductive ServiceStatus where
  | unknown | opened | closed | failure
deriving DecidableEq, Repr, Inhabited

namespace ServiceStatus

/-- The code on the wire. -/
def code : ServiceStatus → UInt8
  | unknown => 0
  | opened => 1
  | closed => 2
  | failure => 3

/-- The status with a given code. -/
def ofCode (byte : UInt8) : ServiceStatus :=
  match byte.toNat with
  | 1 => opened
  | 2 => closed
  | 3 => failure
  | _ => unknown

/-- The name in text. -/
def label : ServiceStatus → String
  | unknown => "Unknown"
  | opened => "Opened"
  | closed => "Closed"
  | failure => "Failure"

end ServiceStatus

/-- What the system and heartbeat components report. -/
inductive SystemStatus where
  | unknown | info | warning | error
deriving DecidableEq, Repr, Inhabited

namespace SystemStatus

/-- The code on the wire. -/
def code : SystemStatus → UInt8
  | unknown => 0
  | info => 1
  | warning => 2
  | error => 3

/-- The status with a given code. -/
def ofCode (byte : UInt8) : SystemStatus :=
  match byte.toNat with
  | 1 => info
  | 2 => warning
  | 3 => error
  | _ => unknown

/-- The name in text. -/
def label : SystemStatus → String
  | unknown => "Unknown"
  | info => "Info"
  | warning => "Warning"
  | error => "Error"

end SystemStatus

/-- The name of a status byte in the vocabulary of the component that reported it. -/
def Component.statusLabel (c : Component) (status : UInt8) : String :=
  match c with
  | .session => (SessionStatus.ofCode status).label
  | .subscription => (SubscriptionStatus.ofCode status).label
  | .service => (ServiceStatus.ofCode status).label
  | .system | .heartbeat => (SystemStatus.ofCode status).label
  | .unknown => "Unknown"

end ReleaseFeed
