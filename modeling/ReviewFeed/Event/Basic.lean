import ReviewFeed.Attribute.Provider
import ReviewFeed.Event.Payload
import ReviewFeed.Json.Writer
import ReviewFeed.Time.Calendar

/-!
# Events

An event is a payload together with where it came from and when it was received.
Classification goes by the type name alone; every other attribute is read as far
as it can be.
-/

namespace ReviewFeed

structure Event where
  payload : Payload
  provider : Option Provider
  receivedOn : Option Instant
  deriving DecidableEq, Repr

/-- The kind named by the `type` of a JSON object. -/
def EventKind.ofMembers? (members : Members) : Option EventKind :=
  ((members.lookup "type").bind Json.string?).bind EventKind.ofTypeName?

namespace Event

def kind (event : Event) : EventKind :=
  event.payload.kind

def isScorable (event : Event) : Bool :=
  event.kind.isScorable

def change? (event : Event) : Option Change :=
  event.payload.context?.bind (·.change)

def patchSet? (event : Event) : Option PatchSet :=
  event.payload.context?.bind (·.patchSet)

def account? (event : Event) : Option Account :=
  event.payload.account?

/-- Records where and when an event was received. -/
def stamp (provider : Option Provider) (receivedOn : Instant) (event : Event) : Event :=
  { event with provider, receivedOn := some receivedOn }

/-- The event that a JSON object describes, without origin or time of receipt.
There is one exactly when the type is a known one. -/
def classify? (members : Members) : Option Event :=
  (EventKind.ofMembers? members).map
    (fun kind =>
      { payload := .ofFields kind (.ofMembers members), provider := none, receivedOn := none })

/-- Whether a JSON object is of a known kind and says what it is about. -/
def isUsable (members : Members) : Bool :=
  (EventKind.ofMembers? members).any
    (fun kind => kind.requiredFields.all (·.isPresent members))

/-- The members written for an event: its type first, its origin and the time of
its receipt last. -/
def members (event : Event) : Members :=
  ("type", .string event.kind.typeName) :: event.payload.members ++
    [("provider", .ofOption Provider.toJson event.provider),
      ("received_on", .ofOption (fun instant => .string instant.text) event.receivedOn)]

def toJson (event : Event) : Json :=
  .object event.members

def render (event : Event) : String :=
  event.toJson.render

end Event

end ReviewFeed
