import ReviewFeed.Proofs.Dispatch.Order

/-!
# What listeners hear

A notification tells the listeners that were registered when it began, each once.
After a complete shutdown a listener that was told of all units of a provider name
has heard the events of these units in the order of acceptance, and no other event
of that name.
-/

namespace ReviewFeed

namespace Registry

/-- Identifiers are registered once, and the next one to give is not among them. -/
structure Proper (registry : Registry) : Prop where
  once : registry.ids.Nodup
  given : ∀ id ∈ registry.ids, id < registry.next

theorem proper_empty : Proper .empty where
  once := List.nodup_nil
  given := by simp [empty]

theorem Proper.add {registry : Registry} (proper : registry.Proper) : registry.add.Proper where
  once := by
    rw [Registry.add, List.nodup_append]
    refine ⟨proper.once, List.pairwise_singleton _ _, ?_⟩
    intro id member other last same
    have given := proper.given id member
    rw [same, List.mem_singleton.mp last] at given
    exact Nat.lt_irrefl _ given
  given := by
    intro id member
    rcases List.mem_append.mp member with old | new
    · exact Nat.lt_succ_of_lt (proper.given id old)
    · rw [List.mem_singleton.mp new]
      exact Nat.lt_succ_self _

theorem Proper.remove {registry : Registry} (proper : registry.Proper) (id : ListenerId) :
    (registry.remove id).Proper where
  once := proper.once.filter _
  given := fun other member => proper.given other (List.mem_of_mem_filter member)

end Registry

namespace Dispatcher

theorem Move.registry {before after : Dispatcher} {action : DispatchAction}
    (move : Move before action after) :
    after.registry = before.registry ∨ after.registry = before.registry.add ∨
      ∃ id, action = .removeListener id ∧ after.registry = before.registry.remove id := by
  cases move with
  | addListener => exact .inr (.inl rfl)
  | removeListener id => exact .inr (.inr ⟨id, rfl, rfl⟩)
  | enter work =>
      left
      unfold Dispatcher.enter
      split <;> rfl
  | _ => exact .inl rfl

theorem Move.keepsProper {before after : Dispatcher} {action : DispatchAction}
    (proper : before.registry.Proper) (move : Move before action after) :
    after.registry.Proper := by
  rcases move.registry with same | added | ⟨id, _, removed⟩
  · rw [same]
    exact proper
  · rw [added]
    exact proper.add
  · rw [removed]
    exact proper.remove id

theorem Move.keepsListener {before after : Dispatcher} {action : DispatchAction}
    {id : ListenerId} (member : id ∈ before.registry.ids)
    (stays : action ≠ .removeListener id) (move : Move before action after) :
    id ∈ after.registry.ids := by
  rcases move.registry with same | added | ⟨other, removes, removed⟩
  · rw [same]
    exact member
  · rw [added]
    exact List.mem_append_left _ member
  · rw [removed]
    have different : id ≠ other := by
      rintro rfl
      exact stays removes
    exact List.mem_filter.mpr ⟨member, by simpa using different⟩

/-- The act of a worker that an action stands for.  A notification tells the listeners
that are registered. -/
inductive WorkStep (before : Dispatcher) (index : Nat) : DispatchAction → WorkerAct → Prop
  | took : WorkStep before index (.take index) .took
  | skipped : WorkStep before index (.notice index) .finished
  | noticed (event : Event) :
      WorkStep before index (.notice index) (.noticed event before.registry.ids)
  | called (event : Event) (id : ListenerId) :
      WorkStep before index (.call index) (.called event id)
  | returned (event : Event) (id : ListenerId) (panicked : Bool) :
      WorkStep before index (.finishCall index panicked) (.returned event id panicked)
  | finished : WorkStep before index (.finish index) .finished

/-- What a worker has done it did before, or it does it in this move. -/
theorem Move.worked {before after : Dispatcher} {action : DispatchAction}
    (move : Move before action after) {index : Nat} {ticket : Ticket} {act : WorkerAct}
    (member : .worked index ticket act ∈ after.journal) :
    .worked index ticket act ∈ before.journal ∨ WorkStep before index action act := by
  cases move with
  | enter work =>
      rw [enter_journal, List.mem_append] at member
      refine .inl (member.resolve_right ?_)
      split <;> simp
  | lookOpen | sendGiven | sendAsleep | sendPlaced | sendQueued | advance | closeQueue =>
      exact .inl member
  | take | skip | notice | call | finishCall | finish =>
      rcases List.mem_append.mp member with old | new
      · exact .inl old
      · right
        cases List.mem_singleton.mp new
        constructor
  | lookClosed | sendClosed | deliver | abandon | stop | addListener | removeListener
  | shutdown =>
      rcases List.mem_append.mp member with old | new
      · exact .inl old
      · cases List.mem_singleton.mp new

/-- A listener is registered, and every notification about a ticket from a mark on
tells it, once. -/
structure Listening (id : ListenerId) (mark : Ticket) (dispatcher : Dispatcher) : Prop where
  proper : dispatcher.registry.Proper
  member : id ∈ dispatcher.registry.ids
  told : ∀ lane ticket event ids,
    .worked lane ticket (.noticed event ids) ∈ dispatcher.journal → mark ≤ ticket →
      ids.count id = 1

theorem Move.keepsListening {before after : Dispatcher} {action : DispatchAction}
    {id : ListenerId} {mark : Ticket} (listening : Listening id mark before)
    (stays : action ≠ .removeListener id) (move : Move before action after) :
    Listening id mark after := by
  refine ⟨move.keepsProper listening.proper, move.keepsListener listening.member stays, ?_⟩
  intro lane ticket event ids member later
  rcases move.worked member with old | step
  · exact listening.told lane ticket event ids old later
  · cases step
    exact List.count_eq_one_of_mem listening.proper.once listening.member

end Dispatcher

theorem Work.provider_of_event? {work : Work} {event : Event}
    (becomes : work.event? = some event) : event.provider = work.provider := by
  have stamped {members : Members}
      (some : eventOfMembers? members work.provider work.createdOn = some event) :
      event.provider = work.provider := by
    rw [eventOfMembers?] at some
    split at some
    · obtain ⟨raw, _, rfl⟩ := Option.map_eq_some_iff.mp some
      rfl
    · cases some
  unfold Work.event? at becomes
  split at becomes
  · rename_i input
    obtain rfl := Option.some.inj becomes
    exact work.ofItsProvider _ input
  · exact stamped becomes
  · split at becomes
    · exact stamped becomes
    · cases becomes

/-- What a listener hears of the events of one provider name. -/
def hears? (id : ListenerId) (name : Option String) : Ticket × WorkerAct → Option Event
  | (_, .called event other) =>
      if other = id ∧ event.provider.bind (·.name) = name then some event else none
  | _ => none

theorem called_of_hears {id : ListenerId} {name : Option String} {ticket : Ticket}
    {act : WorkerAct} {event : Event} (hears : hears? id name (ticket, act) = some event) :
    ∃ called, act = .called event called ∧ event.provider.bind (·.name) = name := by
  cases act with
  | called told other =>
      simp only [hears?] at hears
      split at hears
      · rename_i mine
        obtain rfl := Option.some.inj hears
        exact ⟨other, rfl, mine.2⟩
      · cases hears
  | took | noticed _ _ | returned _ _ _ | finished => cases hears

/-- The events of one provider name that a listener has been called with, in order. -/
def heard (id : ListenerId) (name : Option String) (journal : List Entry) : List Event :=
  journal.filterMap (fun
    | .worked _ ticket act => hears? id name (ticket, act)
    | _ => none)

namespace Performance

theorem hears?_deliveries (id : ListenerId) (name : Option String) (ticket : Ticket)
    (event : Event) (outcomes : List (ListenerId × Bool)) :
    (deliveries ticket event outcomes).filterMap (hears? id name) =
      if event.provider.bind (·.name) = name then
        List.replicate ((outcomes.map (·.1)).count id) event
      else [] := by
  induction outcomes with
  | nil => simp [deliveries]
  | cons outcome outcomes induction =>
      obtain ⟨other, panicked⟩ := outcome
      have split : deliveries ticket event ((other, panicked) :: outcomes) =
          [(ticket, .called event other), (ticket, .returned event other panicked)] ++
            deliveries ticket event outcomes := rfl
      rw [split, List.filterMap_append, induction]
      by_cases named : event.provider.bind (·.name) = name
      · by_cases same : other = id
        · simp [hears?, named, same, List.replicate_succ]
        · simp [hears?, same]
      · simp [hears?, named]

/-- Of a unit of the name a listener of the snapshot hears its event, and of other
units nothing. -/
theorem hears?_work (id : ListenerId) (name : Option String) (performance : Performance)
    (told : ∀ event ids, performance.event? = some event →
      event.provider.bind (·.name) = name →
      (performance.ticket, .noticed event ids) ∈ performance.work → ids.count id = 1) :
    performance.work.filterMap (hears? id name) =
      (performance.event?.filter
        (fun event => event.provider.bind (·.name) = name)).toList := by
  cases report : performance.report with
  | none => simp [work, event?, report, hears?]
  | some details =>
      obtain ⟨event, outcomes⟩ := details
      have becomes : performance.event? = some event := by
        rw [event?, report]
        rfl
      have noticed : (performance.ticket, .noticed event (outcomes.map (·.1))) ∈
          performance.work := by
        simp [work, report]
      simp only [work, event?, report, List.filterMap_cons, List.filterMap_append,
        hears?_deliveries, Option.map_some]
      by_cases named : event.provider.bind (·.name) = name
      · simp [hears?, Option.filter, named, told event _ becomes named noticed]
      · simp [hears?, Option.filter, named]

end Performance

namespace Performed

variable {Becomes : Ticket → Option Event → Prop} {history : List LaneEntry}
  {queue : List Ticket} {hand : Hand} {past : List Performance}
  {current : List (Ticket × WorkerAct)}

theorem becomes_of_called (performed : Performed Becomes history queue hand past current)
    {ticket : Ticket} {event : Event} {id : ListenerId}
    (called : (ticket, .called event id) ∈ workIn history) : Becomes ticket (some event) := by
  have inDeliveries {other : Ticket} {told : Event} {outcomes : List (ListenerId × Bool)}
      (inside : (ticket, .called event id) ∈ Performance.deliveries other told outcomes) :
      event = told := by
    obtain ⟨outcome, _, inside⟩ := List.mem_flatMap.mp inside
    simp only [List.mem_cons, Prod.mk.injEq, WorkerAct.called.injEq, reduceCtorEq, and_false,
      List.not_mem_nil, or_false] at inside
    exact inside.2.1
  rw [performed.work, List.mem_append] at called
  rcases called with finished | underway
  · obtain ⟨performance, inPast, worked⟩ := List.mem_flatMap.mp finished
    have becomes := performed.events performance inPast
    obtain rfl := Performance.ticket_of_mem_work worked
    cases report : performance.report with
    | none => simp [Performance.work, report] at worked
    | some details =>
        obtain ⟨told, outcomes⟩ := details
        simp only [Performance.work, report, List.mem_cons, List.mem_append, Prod.mk.injEq,
          reduceCtorEq, and_false, false_or, List.not_mem_nil, or_false] at worked
        rw [inDeliveries worked]
        simpa [Performance.event?, report] using becomes
  · cases performed.underway with
    | empty => cases underway
    | taken other => simp at underway
    | between outcomes next becomes =>
        simp only [List.mem_cons, Prod.mk.injEq, reduceCtorEq, and_false, false_or] at underway
        rw [Performance.ticket_of_mem_deliveries underway, inDeliveries underway]
        exact becomes
    | inCall outcomes other next becomes =>
        simp only [List.mem_cons, List.mem_append, Prod.mk.injEq, reduceCtorEq, and_false,
          false_or, List.not_mem_nil, or_false, WorkerAct.called.injEq] at underway
        rcases underway with earlier | ⟨rfl, rfl, _⟩
        · rw [Performance.ticket_of_mem_deliveries earlier, inDeliveries earlier]
          exact becomes
        · exact becomes

end Performed

namespace Dispatcher

def eventOf? (dispatcher : Dispatcher) (ticket : Ticket) : Option Event :=
  (dispatcher.calls[ticket]?).bind (·.work.event?)

/-- Whether the unit of a ticket is routed by this name. -/
def isNamed (dispatcher : Dispatcher) (name : Option String) (ticket : Ticket) : Bool :=
  (dispatcher.calls[ticket]?).any (fun call => call.work.routingName? = name)

theorem isNamed_iff {dispatcher : Dispatcher} {name : Option String} {ticket : Ticket} :
    dispatcher.isNamed name ticket = true ↔ ∃ call, dispatcher.calls[ticket]? = some call ∧
      call.work.routingName? = name := by
  simp only [isNamed, Option.any_eq_true, decide_eq_true_eq]

theorem Sound.laneFor_lt {dispatcher : Dispatcher} (sound : Sound dispatcher)
    (name : Option String) : dispatcher.laneFor name < dispatcher.lanes.length := by
  cases name with
  | none => exact sound.inhabited
  | some name => exact Nat.mod_lt _ sound.inhabited

theorem becomes_eq {dispatcher : Dispatcher} {ticket : Ticket} {event : Option Event}
    (becomes : dispatcher.Becomes ticket event) : dispatcher.eventOf? ticket = event := by
  obtain ⟨call, found, same⟩ := becomes
  rw [eventOf?, found]
  exact same

theorem named_of_becomes {dispatcher : Dispatcher} {ticket : Ticket} {event : Event}
    (becomes : dispatcher.Becomes ticket (some event)) (name : Option String) :
    dispatcher.isNamed name ticket = decide (event.provider.bind (·.name) = name) := by
  obtain ⟨call, found, same⟩ := becomes
  rw [isNamed, found, Work.provider_of_event? same, Option.any_some, Work.routingName?_eq]

private theorem filterMap_filter {α β : Type} (items : List α) (keep : α → Bool)
    (function : α → Option β) :
    (items.filter keep).filterMap function =
      items.flatMap (fun item => if keep item then (function item).toList else []) := by
  induction items with
  | nil => rfl
  | cons item items induction =>
      rw [List.flatMap_cons, ← induction]
      by_cases kept : keep item
      · rw [List.filter_cons_of_pos kept, List.filterMap_cons, if_pos kept]
        cases function item <;> rfl
      · rw [List.filter_cons_of_neg kept, if_neg kept, List.nil_append]

/-- Units of one name are in the hands of one worker. -/
theorem Sound.lane_of_isNamed {dispatcher : Dispatcher} (sound : Sound dispatcher)
    {name : Option String} {ticket : Ticket} (named : dispatcher.isNamed name ticket = true)
    {lane : Nat} {act : WorkerAct} (member : .worked lane ticket act ∈ dispatcher.journal) :
    lane = dispatcher.laneFor name := by
  obtain ⟨call, found, routed⟩ := isNamed_iff.mp named
  rw [sound.lane_unique found lane act member, sound.lane_eq found, routed]

/-- What a listener hears of a name, it hears from the worker of one lane. -/
theorem Sound.heard_on_lane {dispatcher : Dispatcher} (sound : Sound dispatcher)
    (id : ListenerId) (name : Option String) :
    heard id name dispatcher.journal =
      (workIn (laneHistory (dispatcher.laneFor name) dispatcher.journal)).filterMap
        (hears? id name) := by
  rw [← filterMap_workIn]
  · apply List.filterMap_congr
    intro entry _
    cases entry <;> rfl
  · intro lane ticket act event member hears
    obtain ⟨calledId, rfl, named⟩ := called_of_hears hears
    obtain ⟨state, laneFound⟩ := sound.lane_of_worked member
    obtain ⟨past, current, performed⟩ := sound.performed laneFound
    have becomes := performed.becomes_of_called (mem_workIn.mpr member)
    have isNamed : dispatcher.isNamed name ticket = true := by
      rw [named_of_becomes becomes, decide_eq_true named]
    exact sound.lane_of_isNamed isNamed member

/-- The finished work of a lane whose dispatcher has shut down is a row of performances. -/
theorem Sound.past_of_over {dispatcher : Dispatcher} (sound : Sound dispatcher)
    (complete : dispatcher.isOver = true) {index : Nat}
    (inside : index < dispatcher.lanes.length) :
    ∃ past : List Performance,
      workIn (laneHistory index dispatcher.journal) = past.flatMap Performance.work ∧
      acceptedIn (laneHistory index dispatcher.journal) = past.map (·.ticket) ∧
      ∀ performance ∈ past, dispatcher.Becomes performance.ticket performance.event? := by
  have laneFound := List.getElem?_eq_getElem inside
  obtain ⟨past, current, performed⟩ := sound.performed laneFound
  obtain ⟨queue, hand⟩ := sound.lane_over complete (List.mem_of_getElem? laneFound)
  rw [queue, hand] at performed
  have nothing : current = [] := by
    cases performed.underway
    rfl
  refine ⟨past, ?_, ?_, performed.events⟩
  · rw [performed.work, nothing, List.append_nil]
  · rw [performed.accepted]
    simp [Hand.tickets]

/-- After a complete shutdown a listener that was told of every unit of a name has
heard what these units became, in the order in which they were accepted. -/
theorem Sound.heard_eq {dispatcher : Dispatcher} (sound : Sound dispatcher)
    (complete : dispatcher.isOver = true) {id : ListenerId} {name : Option String}
    (told : ∀ lane ticket event ids,
      .worked lane ticket (.noticed event ids) ∈ dispatcher.journal →
        dispatcher.isNamed name ticket = true → ids.count id = 1) :
    heard id name dispatcher.journal =
      ((acceptedTickets dispatcher.journal).filter (dispatcher.isNamed name)).filterMap
        dispatcher.eventOf? := by
  obtain ⟨past, work, accepted, events⟩ := sound.past_of_over complete (sound.laneFor_lt name)
  rw [sound.acceptedIn_eq] at accepted
  have each : ∀ performance ∈ past, performance.work.filterMap (hears? id name) =
      if dispatcher.isNamed name performance.ticket then
        (dispatcher.eventOf? performance.ticket).toList
      else [] := by
    intro performance inPast
    have becomes := events performance inPast
    rw [Performance.hears?_work, becomes_eq becomes]
    · cases report : performance.event? with
      | none => simp
      | some event =>
          rw [report] at becomes
          rw [named_of_becomes becomes]
          by_cases named : event.provider.bind (·.name) = name
          · simp [Option.filter, named]
          · simp [Option.filter, named]
    · intro event ids report named noticed
      refine told (dispatcher.laneFor name) performance.ticket event ids ?_ ?_
      · rw [← mem_workIn, work]
        exact List.mem_flatMap.mpr ⟨performance, inPast, noticed⟩
      · rw [report] at becomes
        rw [named_of_becomes becomes, decide_eq_true named]
  calc heard id name dispatcher.journal
    _ = past.flatMap (fun performance => performance.work.filterMap (hears? id name)) := by
        rw [sound.heard_on_lane, work, List.filterMap_flatMap]
    _ = (past.map (·.ticket)).flatMap (fun ticket =>
          if dispatcher.isNamed name ticket then (dispatcher.eventOf? ticket).toList
          else []) := by
        rw [List.flatMap_congr each, List.flatMap_map]
    _ = ((acceptedTickets dispatcher.journal).filter (dispatcher.isNamed name)).filterMap
          dispatcher.eventOf? := by
        rw [← filterMap_filter, ← accepted, List.filter_filter]
        congr 1
        refine List.filter_congr (fun ticket _ => ?_)
        cases named : dispatcher.isNamed name ticket with
        | false => rfl
        | true =>
            obtain ⟨call, found, routed⟩ := isNamed_iff.mp named
            simp [lane?, found, sound.lane_eq found, routed]

end Dispatcher

end ReviewFeed
