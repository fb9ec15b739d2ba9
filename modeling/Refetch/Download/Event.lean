import Refetch.Http.Request
import Refetch.Io.Copy
import Refetch.Time.Timestamp
/-!
# Events

Everything that a run does to the world around it, in order: what the observer hears, what is asked
of the engine and of the destination, and what is logged.
-/

namespace Refetch.Download

inductive Level
  | debug
  | info
  | warn
  deriving Repr, DecidableEq

def Level.name : Level → String
  | debug => "DEBUG"
  | info => "INFO"
  | warn => "WARN"

inductive Event
  /-- The observer hears that a request is about to be made. -/
  | connecting
  /-- The observer hears that a body of this length, if known, is about to come. -/
  | started (length : Option Nat)
  /-- The observer hears how many bytes were read so far. -/
  | progressed (total : Nat)
  /-- The observer hears that the transfer ended, with success or not. -/
  | finished (success : Bool)
  /-- The engine was asked. -/
  | executed (request : Request)
  /-- The body of the response was asked for. -/
  | bodyTaken
  /-- The response was let go. -/
  | closed
  | etagRead
  | lastModifiedRead
  | sinkOpened
  | written (bytes accepted : Nat)
  | flushed
  /-- The sink was let go, after it accepted so many bytes. -/
  | sinkClosed (accepted : Nat)
  | completed (success : Bool)
  | etagSet (tag : String)
  | lastModifiedSet (time : Timestamp)
  | logged (level : Level) (message : String)
  deriving Repr, DecidableEq

namespace Event

/-- The events of a copy. -/
def ofTraffic : Traffic → Event
  | .total n => progressed n
  | .offer n accepted => written n accepted

/-- What the observer hears. -/
def isHeard : Event → Bool
  | connecting | started _ | progressed _ | finished _ => true
  | _ => false

/-- Calls that can change the destination. -/
def changesDest : Event → Bool
  | sinkOpened | written .. | flushed | sinkClosed _ | completed _ | etagSet _
  | lastModifiedSet _ => true
  | _ => false

def message? : Event → Option (Level × String)
  | logged level text => some (level, text)
  | _ => none

end Event

end Refetch.Download
