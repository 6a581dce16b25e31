import ReviewFeed.Proofs.Dispatch.Listeners

/-!
# What a notification does

A notification calls the listeners that were registered when it began, one after
the other.  Each of them finds the registry as those before it have left it, and
may change it as it likes: whom the notification calls is settled before the first
call.
-/

namespace ReviewFeed

namespace Registry

theorem editAll_append (registry : Registry) (early late : List Edit) :
    registry.editAll (early ++ late) = (registry.editAll early).editAll late :=
  List.foldl_append

theorem Proper.edit {registry : Registry} (proper : registry.Proper) (edit : Edit) :
    (registry.edit edit).Proper := by
  cases edit with
  | add => exact proper.add
  | remove id => exact proper.remove id

theorem Proper.editAll {registry : Registry} (proper : registry.Proper) (edits : List Edit) :
    (registry.editAll edits).Proper := by
  induction edits generalizing registry with
  | nil => exact proper
  | cons edit edits induction => exact induction (proper.edit edit)

end Registry

/-- The changes that the called listeners made to the registry, in the order in which
they made them. -/
def editsOf (calls : List Call) : List Registry.Edit :=
  calls.flatMap (·.reaction.edits)

namespace Notification

/-- The calls that one notification has made since another state of it. -/
structure Calls (event : Event) (ids : List ListenerId) (before after : Notification σ)
    (made : List Call) : Prop where
  calls : after.calls = before.calls ++ made
  ids : made.map (·.id) = ids
  event : ∀ call ∈ made, call.event = event
  registry : after.registry = before.registry.editAll (editsOf made)

theorem call_calls (listeners : Listeners σ) (event : Event) (state : Notification σ)
    (id : ListenerId) :
    Calls event [id] state (call listeners event state id)
      [{ id, event, reaction := (listeners id event state.registry state.memory).1 }] where
  calls := rfl
  ids := rfl
  event := by simp
  registry := by
    rw [editsOf, List.flatMap_singleton]
    rfl

theorem Calls.trans {event : Event} {early late : List ListenerId}
    {first second third : Notification σ} {made later : List Call}
    (front : Calls event early first second made)
    (back : Calls event late second third later) :
    Calls event (early ++ late) first third (made ++ later) where
  calls := by rw [back.calls, front.calls, List.append_assoc]
  ids := by rw [List.map_append, front.ids, back.ids]
  event := by
    intro call member
    rcases List.mem_append.mp member with old | new
    · exact front.event call old
    · exact back.event call new
  registry := by
    rw [back.registry, front.registry, editsOf, editsOf, editsOf, List.flatMap_append,
      Registry.editAll_append]

/-- However the listeners react, each of them is called. -/
theorem foldl_calls (listeners : Listeners σ) (event : Event) (ids : List ListenerId)
    (state : Notification σ) :
    ∃ made, Calls event ids state (ids.foldl (call listeners event) state) made := by
  induction ids generalizing state with
  | nil => exact ⟨[], (List.append_nil _).symm, rfl, by simp, rfl⟩
  | cons id ids induction =>
      obtain ⟨later, rest⟩ := induction (call listeners event state id)
      exact ⟨_, (call_calls listeners event state id).trans rest⟩

/-- A notification under way: the first listeners of its snapshot have been called. -/
def upTo (listeners : Listeners σ) (event : Event) (registry : Registry) (memory : σ)
    (ids : List ListenerId) : Notification σ :=
  ids.foldl (call listeners event) { registry, memory, calls := [] }

theorem upTo_calls (listeners : Listeners σ) (event : Event) (registry : Registry)
    (memory : σ) (ids : List ListenerId) :
    Calls event ids { registry, memory, calls := [] }
      (upTo listeners event registry memory ids)
      (upTo listeners event registry memory ids).calls := by
  obtain ⟨made, calls⟩ := foldl_calls listeners event ids
    ({ registry, memory, calls := [] } : Notification σ)
  have same : (upTo listeners event registry memory ids).calls = made := calls.calls
  rw [same]
  exact calls

theorem upTo_append (listeners : Listeners σ) (event : Event) (registry : Registry)
    (memory : σ) (early late : List ListenerId) :
    upTo listeners event registry memory (early ++ late) =
      late.foldl (call listeners event) (upTo listeners event registry memory early) :=
  List.foldl_append

/-- A notification of a registry that was made by additions and removals calls exactly
the listeners that are registered when it begins, each once, in the order of their
registration and with the same event, whatever the listeners add or remove and
whichever of them panic.  Each call finds the registry with the changes of the calls
before it, and the notification leaves the registry with the changes of all of them,
in the order in which they were made. -/
theorem calls_snapshot (listeners : Listeners σ) (event : Event)
    (history : List Registry.Edit) (memory : σ) :
    let registry := Registry.empty.editAll history
    let finished := run listeners event registry memory
    finished.calls.map (·.id) = registry.ids ∧
    (∀ id, (finished.calls.filter (fun call => call.id == id)).length =
      if registry.has id then 1 else 0) ∧
    (∀ call ∈ finished.calls, call.event = event) ∧
    (∀ early id late, registry.ids = early ++ id :: late →
      let before := upTo listeners event registry memory early
      before.calls.map (·.id) = early ∧
      before.registry = registry.editAll (editsOf before.calls) ∧
      ∃ later, finished.calls = before.calls ++
        { id, event, reaction := (listeners id event before.registry before.memory).1 } ::
          later) ∧
    finished.registry = registry.editAll (editsOf finished.calls) := by
  intro registry finished
  have proper : registry.Proper := Registry.proper_empty.editAll history
  have all : Calls event registry.ids { registry, memory, calls := [] } finished finished.calls :=
    upTo_calls listeners event registry memory registry.ids
  refine ⟨all.ids, ?_, all.event, ?_, all.registry⟩
  · intro id
    calc (finished.calls.filter (fun call => call.id == id)).length
      _ = (finished.calls.map (·.id)).count id := by
          rw [List.count_eq_length_filter, List.filter_map, List.length_map]
          rfl
      _ = registry.ids.count id := by rw [all.ids]
      _ = if registry.has id then 1 else 0 := by
          rw [proper.once.count, Registry.has]
          simp
  · intro early id late split before
    have front : Calls event early { registry, memory, calls := [] } before before.calls :=
      upTo_calls listeners event registry memory early
    obtain ⟨later, back⟩ := foldl_calls listeners event late (call listeners event before id)
    have rest := (call_calls listeners event before id).trans back
    have same : finished =
        late.foldl (call listeners event) (call listeners event before id) := by
      change upTo listeners event registry memory registry.ids = _
      rw [split, upTo_append, List.foldl_cons]
    exact ⟨front.ids, front.registry, later, by rw [same, rest.calls, List.singleton_append]⟩

/-- The first listener adds another one, removes the second one and panics. -/
def unruly : Listeners Unit := fun id _ _ memory =>
  ({ edits := if id = 0 then [.add, .remove 1] else [], panics := id = 0 }, memory)

/-- The second listener is called although it has just been removed, and the third one
is not called, because it has just been added. -/
theorem calls_snapshot_unruly :
    let event : Event :=
      { payload := .projectCreated none none none, provider := none, receivedOn := none }
    let finished := run unruly event (Registry.empty.editAll [.add, .add]) ()
    finished.calls.map (·.reaction.panics) = [true, false] ∧
    finished.calls.map (·.id) = [0, 1] ∧
    (finished.calls.filter (fun call => call.id == 1)).length = 1 ∧
    (finished.calls.filter (fun call => call.id == 2)).length = 0 ∧
    finished.registry.ids = [0, 2] := by
  intro event finished
  obtain ⟨ids, times, _, _, registry⟩ := calls_snapshot unruly event [.add, .add] ()
  exact ⟨by decide, ids, times 1, times 2, by rw [registry]; decide⟩

end Notification

end ReviewFeed
