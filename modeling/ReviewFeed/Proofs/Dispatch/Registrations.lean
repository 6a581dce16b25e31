import Mathlib.Data.List.Induction
import ReviewFeed.Proofs.Dispatch.Conservation

/-!
# The history of the registry

Every addition, every removal and every snapshot of a dispatcher's registry stands in
its journal.  So the journal alone says who was registered at any moment: whoever had
been added and not yet successfully removed.
-/

namespace ReviewFeed

/-- The identifiers that have been given, in order. -/
def addedIds (journal : List Entry) : List ListenerId :=
  journal.filterMap (fun
    | .added id => some id
    | _ => none)

/-- The identifiers that have been removed successfully, in order. -/
def removedIds (journal : List Entry) : List ListenerId :=
  journal.filterMap (fun
    | .removed id true => some id
    | _ => none)

/-- Who is registered at the end of a journal, in order of registration. -/
def registeredIn (journal : List Entry) : List ListenerId :=
  (addedIds journal).filter (fun id => id ∉ removedIds journal)

theorem addedIds_append (early late : List Entry) :
    addedIds (early ++ late) = addedIds early ++ addedIds late :=
  List.filterMap_append

theorem removedIds_append (early late : List Entry) :
    removedIds (early ++ late) = removedIds early ++ removedIds late :=
  List.filterMap_append

theorem mem_addedIds {journal : List Entry} {id : ListenerId} :
    id ∈ addedIds journal ↔ .added id ∈ journal := by
  constructor
  · intro member
    obtain ⟨entry, entryMember, same⟩ := List.mem_filterMap.mp member
    cases entry <;> cases same
    exact entryMember
  · intro member
    exact List.mem_filterMap.mpr ⟨_, member, rfl⟩

theorem mem_removedIds {journal : List Entry} {id : ListenerId} :
    id ∈ removedIds journal ↔ .removed id true ∈ journal := by
  constructor
  · intro member
    obtain ⟨entry, entryMember, same⟩ := List.mem_filterMap.mp member
    cases entry with
    | removed other found => cases found <;> cases same; exact entryMember
    | _ => cases same
  · intro member
    exact List.mem_filterMap.mpr ⟨_, member, rfl⟩

theorem mem_registeredIn {journal : List Entry} {id : ListenerId} :
    id ∈ registeredIn journal ↔ .added id ∈ journal ∧ .removed id true ∉ journal := by
  rw [registeredIn, List.mem_filter, decide_eq_true_eq, mem_addedIds, mem_removedIds]

/-- Whether an entry tells of the registry: an addition, a removal or a snapshot. -/
def Entry.isOfRegistry : Entry → Bool
  | .added _ | .removed _ _ | .worked _ _ (.noticed _ _) => true
  | _ => false

/-- What an entry says of the registry that it finds, and of the one that it leaves. -/
inductive RegistryStep (before : Registry) : Entry → Registry → Prop
  | added : RegistryStep before (.added before.next) before.add
  | removed (id : ListenerId) :
      RegistryStep before (.removed id (before.has id)) (before.remove id)
  | noticed (lane : Nat) (ticket : Ticket) (event : Event) :
      RegistryStep before (.worked lane ticket (.noticed event before.ids)) before
  | other {entry : Entry} : entry.isOfRegistry = false → RegistryStep before entry before

/-- The journals that bring an empty registry to another one. -/
inductive RegistryRun : List Entry → Registry → Prop
  | start : RegistryRun [] .empty
  | step {journal : List Entry} {entry : Entry} {before after : Registry} :
      RegistryRun journal before → RegistryStep before entry after →
      RegistryRun (journal ++ [entry]) after

namespace RegistryRun

variable {journal early late : List Entry} {entry : Entry} {registry : Registry}

theorem of_concat (run : RegistryRun (journal ++ [entry]) registry) :
    ∃ before, RegistryRun journal before ∧ RegistryStep before entry registry := by
  generalize whole : journal ++ [entry] = entries at run
  cases run with
  | start => simp at whole
  | step run step =>
      obtain ⟨rfl, same⟩ := List.append_inj' whole rfl
      obtain rfl := List.singleton_inj.mp same
      exact ⟨_, run, step⟩

/-- What an entry found, wherever it stands. -/
theorem split (run : RegistryRun (early ++ entry :: late) registry) :
    ∃ before after, RegistryRun early before ∧ RegistryStep before entry after := by
  induction late using List.reverseRecOn generalizing registry with
  | nil =>
      obtain ⟨before, run, step⟩ := run.of_concat
      exact ⟨before, registry, run, step⟩
  | append_singleton late last induction =>
      rw [← List.cons_append, ← List.append_assoc] at run
      obtain ⟨before, run, _⟩ := run.of_concat
      exact induction run

end RegistryRun

/-- What a journal says of the registry at its end. -/
structure Accounted (journal : List Entry) (registry : Registry) : Prop where
  ids : registry.ids = registeredIn journal
  given : ∀ id ∈ addedIds journal, id < registry.next
  added : (addedIds journal).Nodup
  removed : (removedIds journal).Nodup
  present : ∀ id ∈ removedIds journal, id ∈ addedIds journal
  size : registry.size + (removedIds journal).length = (addedIds journal).length

namespace Accounted

variable {journal : List Entry} {registry : Registry}

theorem once (accounted : Accounted journal registry) : registry.ids.Nodup := by
  rw [accounted.ids]
  exact accounted.added.filter _

theorem of_same {entry : Entry} (accounted : Accounted journal registry)
    (added : addedIds (journal ++ [entry]) = addedIds journal)
    (removed : removedIds (journal ++ [entry]) = removedIds journal) :
    Accounted (journal ++ [entry]) registry := by
  obtain ⟨ids, given, once, gone, present, size⟩ := accounted
  constructor
  · rw [registeredIn, added, removed]
    exact ids
  · rwa [added]
  · rwa [added]
  · rwa [removed]
  · rwa [added, removed]
  · rwa [added, removed]

theorem add (accounted : Accounted journal registry) :
    Accounted (journal ++ [.added registry.next]) registry.add := by
  have added : addedIds (journal ++ [.added registry.next]) =
      addedIds journal ++ [registry.next] := addedIds_append _ _
  have removed : removedIds (journal ++ [.added registry.next]) = removedIds journal := by
    rw [removedIds_append]
    exact List.append_nil _
  have fresh : registry.next ∉ addedIds journal :=
    fun member => Nat.lt_irrefl _ (accounted.given _ member)
  have kept : registry.next ∉ removedIds journal :=
    fun member => fresh (accounted.present _ member)
  constructor
  · rw [registeredIn, added, removed, List.filter_append, ← registeredIn, ← accounted.ids]
    simp [Registry.add, kept]
  · intro id member
    rw [added, List.mem_append, List.mem_singleton] at member
    rcases member with old | rfl
    · exact Nat.lt_succ_of_lt (accounted.given id old)
    · exact Nat.lt_succ_self _
  · rw [added, ← List.concat_eq_append]
    exact accounted.added.concat fresh
  · rw [removed]
    exact accounted.removed
  · intro id member
    rw [removed] at member
    rw [added]
    exact List.mem_append_left _ (accounted.present id member)
  · rw [added, removed, Registry.size, Registry.add, List.length_append, List.length_append,
      ← accounted.size, Registry.size]
    simp only [List.length_singleton]
    omega

theorem remove (accounted : Accounted journal registry) (id : ListenerId) :
    Accounted (journal ++ [.removed id (registry.has id)]) (registry.remove id) := by
  have added : addedIds (journal ++ [.removed id (registry.has id)]) = addedIds journal := by
    rw [addedIds_append]
    exact List.append_nil _
  by_cases member : id ∈ registry.ids
  · have found : registry.has id = true := List.contains_iff_mem.mpr member
    have removed : removedIds (journal ++ [.removed id (registry.has id)]) =
        removedIds journal ++ [id] := by
      rw [removedIds_append, found]
      rfl
    have known : id ∈ addedIds journal ∧ id ∉ removedIds journal := by
      rw [accounted.ids, registeredIn, List.mem_filter, decide_eq_true_eq] at member
      exact member
    constructor
    · rw [registeredIn, added, removed, Registry.remove, accounted.ids, registeredIn,
        List.filter_filter]
      refine List.filter_congr (fun other _ => ?_)
      by_cases same : other = id
      · simp [same]
      · simp [same]
    · rw [added]
      exact accounted.given
    · rw [added]
      exact accounted.added
    · rw [removed, ← List.concat_eq_append]
      exact accounted.removed.concat known.2
    · intro other gone
      rw [removed, List.mem_append, List.mem_singleton] at gone
      rw [added]
      rcases gone with old | rfl
      · exact accounted.present other old
      · exact known.1
    · have shorter : (registry.remove id).size = registry.size - 1 := by
        rw [Registry.size, Registry.remove, ← List.Nodup.erase_eq_filter accounted.once,
          List.length_erase_of_mem member, Registry.size]
      have positive : 0 < registry.size := List.length_pos_of_mem member
      rw [added, removed, shorter, List.length_append, List.length_singleton,
        ← accounted.size]
      omega
  · have found : registry.has id = false := by
      rw [Registry.has, List.contains_eq_mem]
      exact decide_eq_false member
    have same : registry.remove id = registry := by
      rw [Registry.remove, List.filter_eq_self.mpr]
      intro other inside
      simpa using fun equal : other = id => member (equal ▸ inside)
    rw [same]
    refine accounted.of_same added ?_
    rw [removedIds_append, found]
    exact List.append_nil _

end Accounted

theorem RegistryRun.accounted {journal : List Entry} {registry : Registry}
    (run : RegistryRun journal registry) : Accounted journal registry := by
  induction run with
  | start => exact ⟨rfl, by simp [addedIds], .nil, .nil, by simp [removedIds], rfl⟩
  | @step journal entry before after _ step accounted =>
      cases step with
      | added => exact accounted.add
      | removed id => exact accounted.remove id
      | noticed lane ticket event =>
          refine accounted.of_same ?_ ?_
          · rw [addedIds_append]
            exact List.append_nil _
          · rw [removedIds_append]
            exact List.append_nil _
      | other silent =>
          refine accounted.of_same ?_ ?_
          · rw [addedIds_append]
            cases entry with
            | added => cases silent
            | _ => exact List.append_nil _
          · rw [removedIds_append]
            cases entry with
            | removed => cases silent
            | _ => exact List.append_nil _

/-- The listener that a worker calls, and the event that it calls it with. -/
def calling? : Ticket × WorkerAct → Option (ListenerId × Event)
  | (_, .called event id) => some (id, event)
  | _ => none

/-- The calls that a worker has made for a unit, in order. -/
def callsFor (ticket : Ticket) (journal : List Entry) : List (ListenerId × Event) :=
  (workOn ticket journal).filterMap calling?

namespace Performance

theorem calling?_deliveries (ticket : Ticket) (event : Event)
    (outcomes : List (ListenerId × Bool)) :
    (deliveries ticket event outcomes).filterMap calling? =
      outcomes.map (fun outcome => (outcome.1, event)) := by
  rw [deliveries, List.filterMap_flatMap, List.map_eq_flatMap]
  rfl

/-- A performance calls the listeners of its snapshot, each once and in order. -/
theorem calling?_work {performance : Performance} {ticket : Ticket} {event : Event}
    {ids : List ListenerId} (noticed : (ticket, .noticed event ids) ∈ performance.work) :
    performance.work.filterMap calling? = ids.map (fun id => (id, event)) := by
  obtain ⟨outcomes, report, rfl⟩ := report_of_noticed noticed
  simp only [work, report, List.filterMap_cons, List.filterMap_append, calling?,
    calling?_deliveries, List.filterMap_nil, List.append_nil, List.map_map]
  rfl

end Performance

namespace Dispatcher

/-- What a move enters into the journal is a step of the registry. -/
theorem Move.registryStep {before after : Dispatcher} {action : DispatchAction}
    (move : Move before action after) :
    (after.journal = before.journal ∧ after.registry = before.registry) ∨
      ∃ entry, after.journal = before.journal ++ [entry] ∧
        RegistryStep before.registry entry after.registry := by
  cases move with
  | enter work =>
      have registry : (before.enter work).registry = before.registry := by
        unfold Dispatcher.enter
        split <;> rfl
      cases closing : before.closing with
      | false => exact .inl ⟨by simp [enter_journal, closing], registry⟩
      | true =>
          refine .inr ⟨_, by simp [enter_journal, closing]; rfl, ?_⟩
          rw [registry]
          exact .other rfl
  | lookOpen | sendGiven | sendAsleep | sendPlaced | sendQueued | advance | closeQueue =>
      exact .inl ⟨rfl, rfl⟩
  | notice => exact .inr ⟨_, rfl, .noticed _ _ _⟩
  | addListener => exact .inr ⟨_, rfl, .added⟩
  | removeListener id => exact .inr ⟨_, rfl, .removed id⟩
  | lookClosed | sendClosed | deliver | abandon | take | skip | call | finishCall | finish
  | stop | shutdown => exact .inr ⟨_, rfl, .other rfl⟩

theorem registryRun_of_run {capacity workers : Nat} {routing : String → Nat}
    {actions : List DispatchAction} {dispatcher : Dispatcher}
    (run : (start capacity workers routing).run? actions = some dispatcher) :
    RegistryRun dispatcher.journal dispatcher.registry := by
  refine run?_preserves (fun state => RegistryRun state.journal state.registry)
    (fun {before after action} sofar move => ?_) .start run
  rcases move.registryStep with ⟨journal, registry⟩ | ⟨entry, journal, step⟩
  · rw [journal, registry]
    exact sofar
  · rw [journal]
    exact sofar.step step

/-- Once the notification about a unit is over, its worker has called exactly the
listeners of its snapshot. -/
theorem Sound.callsFor {dispatcher : Dispatcher} (sound : Sound dispatcher) {lane : Nat}
    {ticket : Ticket} {event : Event} {ids : List ListenerId}
    (noticed : .worked lane ticket (.noticed event ids) ∈ dispatcher.journal)
    (finished : .worked lane ticket .finished ∈ dispatcher.journal) :
    callsFor ticket dispatcher.journal = ids.map (fun id => (id, event)) := by
  obtain ⟨performance, rfl, work, _⟩ := sound.performance finished
  rw [ReviewFeed.callsFor, work]
  have mine : (performance.ticket, .noticed event ids) ∈ performance.work := by
    rw [← work]
    exact List.mem_filterMap.mpr ⟨_, noticed, by simp⟩
  exact Performance.calling?_work mine

/-- In every reachable state the registered identifiers are distinct, those added and
not yet removed in the order of their addition, and the number of listeners is the
number of additions less that of the successful removals.  A removal is successful if
and only if its identifier is registered at that moment, which is at most once for
each, and it takes away this entry alone.  When the notification about a unit is
over, the listeners called for it, each once and with its event, are exactly those
that had been added and not yet removed when the snapshot was taken. -/
theorem registrations_consistent {capacity workers : Nat} {routing : String → Nat}
    {actions : List DispatchAction} {dispatcher : Dispatcher}
    (run : (start capacity workers routing).run? actions = some dispatcher) :
    dispatcher.registry.ids.Nodup ∧
    dispatcher.registry.ids = registeredIn dispatcher.journal ∧
    (addedIds dispatcher.journal).Nodup ∧
    dispatcher.registry.size + (removedIds dispatcher.journal).length =
      (addedIds dispatcher.journal).length ∧
    (∀ early id found late, dispatcher.journal = early ++ .removed id found :: late →
      (found = true ↔ id ∈ registeredIn early)) ∧
    (removedIds dispatcher.journal).Nodup ∧
    (∀ id after, dispatcher.step? (.removeListener id) = some after →
      ∃ found, after.journal = dispatcher.journal ++ [.removed id found] ∧
        (found = true ↔ id ∈ dispatcher.registry.ids) ∧
        after.registry.ids = dispatcher.registry.ids.erase id) ∧
    (∀ early lane ticket event ids late,
      dispatcher.journal = early ++ .worked lane ticket (.noticed event ids) :: late →
      .worked lane ticket .finished ∈ dispatcher.journal →
        callsFor ticket dispatcher.journal =
          (registeredIn early).map (fun id => (id, event)) ∧
        ∀ id, (callsFor ticket dispatcher.journal).count (id, event) =
          if .added id ∈ early ∧ .removed id true ∉ early then 1 else 0) := by
  have sound := sound_of_run run
  have history := registryRun_of_run run
  have accounted := history.accounted
  refine ⟨accounted.once, accounted.ids, accounted.added, accounted.size, ?_,
    accounted.removed, ?_, ?_⟩
  · intro early id found late journal
    rw [journal] at history
    obtain ⟨before, after, sofar, step⟩ := history.split
    cases step with
    | removed =>
        rw [← sofar.accounted.ids]
        exact List.contains_iff_mem
    | other silent => cases silent
  · rintro id after removes
    cases removes
    refine ⟨_, rfl, List.contains_iff_mem, ?_⟩
    exact (List.Nodup.erase_eq_filter accounted.once id).symm
  · intro early lane ticket event ids late journal finished
    have noticed : .worked lane ticket (.noticed event ids) ∈ dispatcher.journal := by
      rw [journal]
      exact List.mem_append_right _ List.mem_cons_self
    have calls := sound.callsFor noticed finished
    rw [journal] at history
    obtain ⟨before, after, sofar, step⟩ := history.split
    have snapshot : ids = registeredIn early := by
      rw [← sofar.accounted.ids]
      cases step with
      | noticed => rfl
      | other silent => cases silent
    rw [calls, snapshot]
    refine ⟨rfl, fun id => ?_⟩
    have once : ((registeredIn early).map (fun id => (id, event))).Nodup := by
      refine List.Nodup.map (fun _ _ same => (Prod.mk.inj same).1) ?_
      rw [← sofar.accounted.ids]
      exact sofar.accounted.once
    rw [once.count]
    simp only [List.mem_map, Prod.mk.injEq, and_true, exists_eq_right, mem_registeredIn]

/-- An event of a provider that a second lane works for. -/
def namedEvent : Event :=
  { payload := .projectCreated none none none
    provider := some
      { name := some "main", host := none, port := none, scheme := none, url := none
        version := none }
    receivedOn := none }

/-- A run in which a listener is removed and another one added while the first worker
calls them, before the second worker takes its snapshot. -/
def changingRun : List DispatchAction :=
  [.addListener, .addListener,
    .enter sampleWork, .look 0, .send 0, .deliver 0,
    .enter (.ofEvent namedEvent .epoch), .look 1, .send 1, .deliver 1,
    .take 0, .notice 0, .call 0, .removeListener 1, .addListener,
    .take 1, .notice 1, .removeListener 1, .finishCall 0 true, .call 0, .call 1,
    .finishCall 0 false, .finish 0, .finishCall 1 false, .call 1, .finishCall 1 false,
    .finish 1]

theorem registrations_consistent_changing :
    ∃ dispatcher, (start 1 2 (fun _ => 1)).run? changingRun = some dispatcher ∧
      dispatcher.registry.ids = [0, 2] ∧ dispatcher.registry.size + 1 = 3 ∧
      (callsFor 0 dispatcher.journal).map (·.1) = [0, 1] ∧
      callsFor 1 dispatcher.journal = [(0, namedEvent), (2, namedEvent)] ∧
      (callsFor 1 dispatcher.journal).count (1, namedEvent) = 0 := by
  have run : (start 1 2 (fun _ => 1)).run? changingRun = some _ := rfl
  obtain ⟨_, _, _, size, _, _, _, calls⟩ := registrations_consistent run
  refine ⟨_, run, rfl, size, rfl, ?_⟩
  have second := calls
    [.added 0, .added 1, .accepted 0 0, .accepted 1 1, .worked 0 0 .took,
      .worked 0 0 (.noticed _ [0, 1]), .worked 0 0 (.called _ 0), .removed 1 true, .added 2,
      .worked 1 1 .took]
    1 1 namedEvent [0, 2] _ rfl (by decide +kernel)
  exact ⟨second.1, second.2 1⟩

end Dispatcher

end ReviewFeed
