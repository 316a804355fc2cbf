import TargetNet.Network.State
import TargetNet.Report.Event

/-!
# Notes

What a run leaves behind besides files. `Remark`s come from everywhere: lines for the log, and, from a
dry run, the request that would have been rendered. A `Note` is a remark or an event. The same notes can
be seen as a list of events or as a log.
-/

namespace TargetNet

/-- What a renderer is asked for. -/
structure RenderRequest where
  target : Path
  state : Network.State
  /-- Whether base interfaces bring up their aliases. -/
  postupAlias : Bool

/-- A line for the log, or a request noted instead of being carried out. -/
inductive Remark where
  | said (level : Level) (text : String)
  | asked (request : RenderRequest)

/-- A remark or an event. -/
inductive Note where
  | remark (remark : Remark)
  | event (event : Event)

/-- The line of a remark in a log. -/
def Remark.logged? : Remark → Option (Level × String)
  | .said level text => some (level, text)
  | .asked _ => none

namespace Note

/-- The event of a note. -/
def event? : Note → Option Event
  | .event e => some e
  | .remark _ => none

/-- The line of a note in a log. -/
def logged? : Note → Option (Level × String)
  | .event e => some e.logged
  | .remark r => r.logged?

/-- The request of a note. -/
def request? : Note → Option RenderRequest
  | .remark (.asked request) => some request
  | _ => none

/-- The events among notes. -/
def events (notes : List Note) : List Event :=
  notes.filterMap event?

/-- Notes as a log. -/
def log (notes : List Note) : List (Level × String) :=
  notes.filterMap logged?

/-- The requests among notes. -/
def requests (notes : List Note) : List RenderRequest :=
  notes.filterMap request?

end Note

end TargetNet
