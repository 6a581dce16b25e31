import ReviewFeed.Dispatch.Registry

/-!
# Scripted listeners

Listeners for trying out a registry or a dispatcher: each has a name, and on
delivery records the event and then does what its script says.
-/

namespace ReviewFeed

/-- What a scripted listener does when it has recorded an event: it adds a plain
listener of a name, removes the listener last added under a name, and panics.  A
gated one first waits for a permit. -/
structure Script where
  name : String
  gated : Bool
  adds : Option String
  removes : Option String
  panics : Bool
  deriving DecidableEq, Repr

/-- A listener that only records. -/
def Script.plain (name : String) : Script :=
  { name, gated := false, adds := none, removes := none, panics := false }

/-- What scripted listeners record. -/
inductive Heard
  /-- A gated listener was called. -/
  | entered (name : String) (kind : EventKind)
  | delivered (name : String) (event : Event)
  /-- A listener removed another, if that was ever added; the truth value says
  whether it was registered. -/
  | removed (name other : String) (found : Option Bool)

/-- The scripts of all listeners ever added, by identifier. -/
abbrev Cast := List Script

namespace Cast

def last? (cast : Cast) (name : String) : Option ListenerId :=
  (cast.zipIdx.reverse.find? (fun (script, _) => script.name == name)).map (·.2)

def script (cast : Cast) (id : ListenerId) : Script :=
  (cast[id]?).getD (.plain "")

end Cast

/-- What scripted listeners remember: who was added, and what was recorded. -/
structure ScriptMemory where
  cast : Cast
  heard : List Heard

/-- Removes the listener last added under a name, and says whether it was there. -/
def Registry.removeNamed (registry : Registry) (cast : Cast) (name : String) :
    Registry × Option Bool :=
  match cast.last? name with
  | some id => (registry.remove id, some (registry.has id))
  | none => (registry, none)

/-- Scripted listeners as the listeners' side of a notification. -/
def scripted : Listeners ScriptMemory := fun id event registry memory =>
  let script := memory.cast.script id
  let heard := memory.heard ++ [.delivered script.name event]
  let (addition, cast) : List Registry.Edit × Cast :=
    match script.adds with
    | some name => ([.add], memory.cast ++ [.plain name])
    | none => ([], memory.cast)
  let (removal, record) : List Registry.Edit × List Heard :=
    match script.removes with
    | some name =>
        let (_, found) := (registry.editAll addition).removeNamed cast name
        ((cast.last? name).toList.map .remove, [.removed script.name name found])
    | none => ([], [])
  ({ edits := addition ++ removal, panics := script.panics },
    { cast, heard := heard ++ record })

end ReviewFeed
