import ReviewFeed.Event.Basic

/-!
# Listener registry

Listeners are registered under identifiers that are never given twice.  A
notification goes to the listeners that were registered when it began, in the
order of their registration, whatever they do to the registry meanwhile and
whether or not they panic.
-/

namespace ReviewFeed

abbrev ListenerId := Nat

/-- The registered identifiers, in order of registration, and the next one to
give. -/
structure Registry where
  ids : List ListenerId
  next : ListenerId
  deriving DecidableEq, Repr

namespace Registry

def empty : Registry :=
  { ids := [], next := 0 }

def add (registry : Registry) : Registry :=
  { ids := registry.ids ++ [registry.next], next := registry.next + 1 }

def has (registry : Registry) (id : ListenerId) : Bool :=
  registry.ids.contains id

def remove (registry : Registry) (id : ListenerId) : Registry :=
  { registry with ids := registry.ids.filter (fun other => other != id) }

def size (registry : Registry) : Nat :=
  registry.ids.length

inductive Edit
  | add
  | remove (id : ListenerId)
  deriving DecidableEq, Repr

def edit (registry : Registry) : Edit → Registry
  | .add => registry.add
  | .remove id => registry.remove id

def editAll (registry : Registry) (edits : List Edit) : Registry :=
  edits.foldl edit registry

end Registry

/-- What a listener does when it is called: the changes that it makes to the
registry, and whether it panics afterwards. -/
structure Reaction where
  edits : List Registry.Edit
  panics : Bool
  deriving DecidableEq, Repr

/-- The listeners' side of a notification.  The reaction of a listener may depend
on the event, on the registry that it finds and on what happened before. -/
abbrev Listeners (σ : Type) := ListenerId → Event → Registry → σ → Reaction × σ

/-- A call of a listener, and how it reacted. -/
structure Call where
  id : ListenerId
  event : Event
  reaction : Reaction

/-- A notification under way or over: the registry, the listeners' memory and the
calls made, in order. -/
structure Notification (σ : Type) where
  registry : Registry
  memory : σ
  calls : List Call

namespace Notification

/-- Calls one listener.  A panic ends its call and nothing else. -/
def call (listeners : Listeners σ) (event : Event) (state : Notification σ)
    (id : ListenerId) : Notification σ :=
  let (reaction, memory) := listeners id event state.registry state.memory
  { registry := state.registry.editAll reaction.edits
    memory
    calls := state.calls ++ [{ id, event, reaction }] }

/-- Notifies the listeners that are registered at this moment. -/
def run (listeners : Listeners σ) (event : Event) (registry : Registry) (memory : σ) :
    Notification σ :=
  registry.ids.foldl (call listeners event) { registry, memory, calls := [] }

end Notification

end ReviewFeed
