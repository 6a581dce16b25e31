import ReviewFeed.Event.Basic
import ReviewFeed.Json.Reader

/-!
# Units of work

A unit of work is a line of an event stream, a JSON object or a finished event.
It becomes at most one event, when it is performed and not before.
-/

namespace ReviewFeed

/-- What a unit of work is made from. -/
inductive WorkInput
  | line (text : String)
  | object (members : Members)
  | event (event : Event)

/-- A unit of work: its input, where it came from and when it was made.  The unit
of a finished event is of the event's own provider. -/
structure Work where
  createdOn : Instant
  provider : Option Provider
  input : WorkInput
  ofItsProvider : ∀ event, input = .event event → event.provider = provider

namespace Work

def ofLine (line : String) (provider : Option Provider) (createdOn : Instant) : Work :=
  { createdOn, provider, input := .line line, ofItsProvider := by simp }

def ofObject (members : Members) (provider : Option Provider) (createdOn : Instant) : Work :=
  { createdOn, provider, input := .object members, ofItsProvider := by simp }

/-- The unit of an object that is of use as an event; any other object is not worth
a place in a queue. -/
def ofUsable? (members : Members) (provider : Option Provider) (createdOn : Instant) :
    Option Work :=
  if Event.isUsable members then some (ofObject members provider createdOn) else none

/-- An event is work of the provider that it came from. -/
def ofEvent (event : Event) (createdOn : Instant) : Work :=
  { createdOn
    provider := event.provider
    input := .event event
    ofItsProvider := by simp }

/-- The event of a usable object, stamped with its origin. -/
def eventOfMembers? (members : Members) (provider : Option Provider) (createdOn : Instant) :
    Option Event :=
  if Event.isUsable members then (Event.classify? members).map (Event.stamp provider createdOn)
  else none

/-- The event that a unit of work becomes.  A finished event stays as it is; a
line that is no object and an object that is of no use become none. -/
def event? (work : Work) : Option Event :=
  match work.input with
  | .event event => some event
  | .object members => eventOfMembers? members work.provider work.createdOn
  | .line text =>
      match Json.read? text with
      | some (.object members) => eventOfMembers? members work.provider work.createdOn
      | _ => none

/-- The events that performing a unit of work reports to the listeners. -/
def notifications (work : Work) : List Event :=
  work.event?.toList

end Work

end ReviewFeed
