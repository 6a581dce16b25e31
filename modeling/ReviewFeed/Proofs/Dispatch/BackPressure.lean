import ReviewFeed.Proofs.Dispatch.AskingLate

/-!
# Back-pressure

A queue of capacity `c` holds at most `c` units that no worker has taken, and a worker
has at most one unit in its hands.  A call that asks an open queue for a place gets one
at once exactly if nobody waits before it and fewer than `c` places are taken; otherwise
it waits.  A place is taken when it is given, and not only when it is filled.  A call that
is given up leaves no trace, but while it has a place others may have to wait for it.
-/

namespace ReviewFeed

def LaneEntry.taken? : LaneEntry → Option Ticket
  | .worked ticket .took => some ticket
  | _ => none

/-- The units that the worker of a lane has taken out of its queue, in order. -/
def takenIn (history : List LaneEntry) : List Ticket :=
  history.filterMap LaneEntry.taken?

/-- What is accepted and not taken is in the queue, and what is taken and not finished is
in the worker's hands. -/
structure Flow (history : List LaneEntry) (queue : List Ticket) (hand : Hand) : Prop where
  accepted : acceptedIn history = takenIn history ++ queue
  taken : takenIn history = finishedIn history ++ hand.tickets

theorem LaneStep.flow {Becomes : Ticket → Option Event → Prop}
    {history entries : List LaneEntry} {queue queue' : List Ticket} {hand hand' : Hand}
    (flow : Flow history queue hand) (step : LaneStep Becomes queue hand entries queue' hand') :
    Flow (history ++ entries) queue' hand' := by
  have queued : queue ++ acceptedIn entries = takenIn entries ++ queue' := by
    cases step with
    | accepted ticket => rfl
    | rest | took | skipped | noticed | called | returned | finished =>
        exact List.append_nil _
  have held : hand.tickets ++ takenIn entries = finishedIn entries ++ hand'.tickets := by
    cases step with
    | rest | accepted => exact List.append_nil _
    | took | skipped | noticed | called | returned | finished => rfl
  have accepted : acceptedIn (history ++ entries) = acceptedIn history ++ acceptedIn entries :=
    List.filterMap_append
  have taken : takenIn (history ++ entries) = takenIn history ++ takenIn entries :=
    List.filterMap_append
  have finished : finishedIn (history ++ entries) = finishedIn history ++ finishedIn entries :=
    List.filterMap_append
  constructor
  · rw [accepted, taken, flow.accepted, List.append_assoc, queued, List.append_assoc]
  · rw [taken, finished, flow.taken, List.append_assoc, held, List.append_assoc]

theorem LaneRun.flow {Becomes : Ticket → Option Event → Prop} {history : List LaneEntry}
    {queue : List Ticket} {hand : Hand} (run : LaneRun Becomes history queue hand) :
    Flow history queue hand := by
  induction run with
  | idle => exact ⟨rfl, rfl⟩
  | step _ step induction => exact step.flow induction

theorem Hand.length_tickets_le (hand : Hand) : hand.tickets.length ≤ 1 := by
  cases hand <;> simp [Hand.tickets]

theorem StatusStep.of_holding {later : CallStatus} (step : StatusStep .holding later) :
    later = .holding ∨ later = .accepted := by
  cases step with
  | same => exact .inl rfl
  | delivered => exact .inr rfl
  | offered pending | refused pending | abandoned pending => cases pending

namespace Dispatcher

/-- The unit of a call is accepted, or the call can put it into the queue without
anybody else's doing. -/
def Completes (dispatcher : Dispatcher) (ticket : Ticket) : Prop :=
  dispatcher.status? ticket = some .accepted ∨
    dispatcher.status? ticket = some .holding ∧
      ∃ done, dispatcher.step? (.deliver ticket) = some done ∧
        done.status? ticket = some .accepted

/-- A call that holds a place completes. -/
theorem completes_of_holding {dispatcher final : Dispatcher} {ticket : Ticket}
    {call : EnqueueCall} {late : List DispatchAction}
    (run : dispatcher.run? late = some final) (inLine : final.InLine)
    (found : dispatcher.calls[ticket]? = some call) (holding : call.status = .holding) :
    final.Completes ticket := by
  obtain ⟨last, lastFound, status⟩ : ∃ last, final.calls[ticket]? = some last ∧
      (last.status = .holding ∨ last.status = .accepted) := by
    refine run?_preserves
      (fun state => ∃ last, state.calls[ticket]? = some last ∧
        (last.status = .holding ∨ last.status = .accepted))
      (fun {before after action} earlier move => ?_) ⟨call, found, .inl holding⟩ run
    obtain ⟨old, oldFound, status⟩ := earlier
    obtain ⟨later, kept, legal⟩ := move.keepsCall oldFound
    refine ⟨_, kept, ?_⟩
    rcases status with holds | accepted
    · exact (holds ▸ legal).of_holding
    · exact .inr ((legal.of_isFinal (by rw [accepted]; rfl)).trans accepted)
  rcases status with holds | accepted
  · obtain ⟨lane, laneFound, placed⟩ := (inLine.placed ticket last lastFound).holding holds
    have move := Move.deliver lastFound laneFound holds placed
    refine .inr ⟨status?_eq_some.mpr ⟨last, lastFound, holds⟩, _, move.step?, ?_⟩
    exact status?_eq_some.mpr ⟨_, setStatus_self lastFound .accepted, rfl⟩
  · exact .inl (status?_eq_some.mpr ⟨last, lastFound, accepted⟩)

/-- A new call of an open dispatcher comes to ask for a place, and stands in no line yet. -/
theorem enter_look {dispatcher : Dispatcher} (known : Known dispatcher)
    (opened : dispatcher.closing = false) (work : Work) :
    ∃ asking, dispatcher.run? [.enter work, .look dispatcher.calls.length] = some asking ∧
      asking.lanes = dispatcher.lanes ∧
      asking.status? dispatcher.calls.length = some .offering ∧
      ∀ lane ∈ dispatcher.lanes, dispatcher.calls.length ∉ lane.line := by
  have begun := enter_getElem? dispatcher work
  have stillOpen : (dispatcher.enter work).closing = false := by
    rw [enter_closing, opened]
  have move := Move.lookOpen begun (by simp [opened, CallStatus.isPending]) stillOpen
  refine ⟨_, run?_cons.mpr ⟨_, rfl, run?_cons.mpr ⟨_, move.step?, rfl⟩⟩,
    enter_lanes dispatcher work, status?_eq_some.mpr ⟨_, setStatus_self begun _, rfl⟩,
    fun lane member stands => ?_⟩
  have inside := known.lanes lane member dispatcher.calls.length
    (by simp [Lane.tickets, stands])
  exact absurd inside (Nat.lt_irrefl _)

section Asking

variable {capacity workers : Nat} {routing : String → Nat} {actions : List DispatchAction}
  {dispatcher : Dispatcher} {ticket : Ticket} {call : EnqueueCall} {lane : Lane}

theorem Sound.lane_exists (sound : Sound dispatcher)
    (found : dispatcher.calls[ticket]? = some call) :
    ∃ lane, dispatcher.lanes[call.lane]? = some lane := by
  have inside : call.lane < dispatcher.lanes.length := by
    rw [sound.routed ticket call found, laneOf]
    split
    · exact Nat.mod_lt _ sound.inhabited
    · exact sound.inhabited
  exact ⟨_, List.getElem?_eq_getElem inside⟩

/-- A call completes, whatever follows, if it has been given a place, or if nobody waits
and a place is free. -/
theorem send_completes
    (run : (start capacity workers routing).run? actions = some dispatcher)
    (opened : dispatcher.closing = false) (found : dispatcher.calls[ticket]? = some call)
    (laneFound : dispatcher.lanes[call.lane]? = some lane) (offering : call.status = .offering)
    (free : ticket ∈ lane.places ∨ lane.waiting = [] ∧ lane.taken < max 1 capacity) :
    ∃ after, dispatcher.step? (.send ticket) = some after ∧
      ∀ (late : List DispatchAction) (final : Dispatcher),
        after.run? late = some final → final.Completes ticket := by
  have orderly := orderly_of_run run
  have running := orderly.running opened lane (List.mem_of_getElem? laneFound)
  obtain ⟨after, stepped, holds⟩ : ∃ after, dispatcher.step? (.send ticket) = some after ∧
      after.calls[ticket]? = some { call with status := .holding } := by
    by_cases given : ticket ∈ lane.places
    · have move := Move.sendGiven found laneFound offering running given
      exact ⟨_, move.step?, setStatus_self found .holding⟩
    · obtain ⟨nobody, unfilled⟩ := free.resolve_left given
      have room : dispatcher.hasRoom lane = true := hasRoom_iff.mpr (orderly.capacity ▸ unfilled)
      have move := Move.sendPlaced found laneFound offering running given
        (by simp [nobody]) nobody room
      exact ⟨_, move.step?, setStatus_self found .holding⟩
  refine ⟨after, stepped, fun late final runLate => ?_⟩
  have runFinal := run?_append.mpr ⟨_, run?_concat run stepped, runLate⟩
  exact completes_of_holding runLate (orderly_of_run runFinal).inLine holds rfl

/-- Otherwise it waits in the line, at its end if it is new there. -/
theorem send_waits (orderly : Orderly capacity dispatcher)
    (opened : dispatcher.closing = false) (found : dispatcher.calls[ticket]? = some call)
    (laneFound : dispatcher.lanes[call.lane]? = some lane) (offering : call.status = .offering)
    (denied : ¬(ticket ∈ lane.places ∨ lane.waiting = [] ∧ lane.taken < max 1 capacity)) :
    ∃ after, dispatcher.step? (.send ticket) = some after ∧
      after.status? ticket = some .waiting ∧
      after.lanes = dispatcher.lanes.set call.lane
        { lane with
          waiting := if ticket ∈ lane.waiting then lane.waiting
            else lane.waiting ++ [ticket] } := by
  have running := orderly.running opened lane (List.mem_of_getElem? laneFound)
  obtain ⟨notGiven, full⟩ := not_or.mp denied
  by_cases asleep : ticket ∈ lane.waiting
  · have move := Move.sendAsleep found laneFound offering running notGiven asleep
    refine ⟨_, move.step?, status?_eq_some.mpr ⟨_, setStatus_self found .waiting, rfl⟩, ?_⟩
    obtain ⟨inside, same⟩ := List.getElem?_eq_some_iff.mp laneFound
    rw [if_pos asleep]
    exact (same ▸ List.set_getElem_self inside).symm
  · have full : ¬(lane.waiting = [] ∧ dispatcher.hasRoom lane = true) := by
      rwa [hasRoom_iff, orderly.capacity]
    have move := Move.sendQueued found laneFound offering running notGiven asleep full
    rw [if_neg asleep]
    exact ⟨_, move.step?, status?_eq_some.mpr ⟨_, setStatus_self found .waiting, rfl⟩, rfl⟩

end Asking

/-- Back-pressure is exact.  A queue holds what is accepted and not taken, and its places
are never more than the capacity; a worker has in its hands what it took and has not
finished.  A place is taken from the moment at which it is given, and a call that has been
given one waits no longer.  While the dispatcher is open, every new call comes to ask for a
place.  It completes without waiting if nobody waits before it and not all places are
taken, and otherwise it waits at the end of the line until it is given a place, and changes
no queue.  A call that is given up leaves the queues and the order of the others as they
are, and everything later goes as without it.  If it only waited, so that nobody asked
while it had a place, then the whole run goes as if it had never been made.  In any case
there is a run that does the same and in which it is never made: what the others do in it
is a part of what they do, and the others only ask when they are about to fill a place. -/
theorem back_pressure_exact {capacity workers : Nat} {routing : String → Nat}
    {actions : List DispatchAction} {dispatcher : Dispatcher}
    (run : (start capacity workers routing).run? actions = some dispatcher) :
    (∀ (index : Nat) (lane : Lane), dispatcher.lanes[index]? = some lane →
      Flow (laneHistory index dispatcher.journal) lane.queue lane.hand ∧
      lane.queue.length + lane.places.length ≤ max 1 capacity ∧
      lane.hand.tickets.length ≤ 1) ∧
    dispatcher.InLine ∧
    (dispatcher.closing = false →
      (∀ work : Work, ∃ asking,
        dispatcher.run? [.enter work, .look dispatcher.calls.length] = some asking ∧
        asking.lanes = dispatcher.lanes ∧
        asking.status? dispatcher.calls.length = some .offering ∧
        ∀ lane ∈ dispatcher.lanes, dispatcher.calls.length ∉ lane.line) ∧
      ∀ (ticket : Ticket) (call : EnqueueCall), dispatcher.calls[ticket]? = some call →
        call.status = .offering →
        ∃ lane after, dispatcher.lanes[call.lane]? = some lane ∧
          dispatcher.step? (.send ticket) = some after ∧
          if ticket ∈ lane.places ∨
              lane.waiting = [] ∧ lane.queue.length + lane.places.length < max 1 capacity then
            ∀ (late : List DispatchAction) (final : Dispatcher),
              after.run? late = some final → final.Completes ticket
          else
            after.status? ticket = some .waiting ∧
            after.lanes = dispatcher.lanes.set call.lane
              { lane with
                waiting := if ticket ∈ lane.waiting then lane.waiting
                  else lane.waiting ++ [ticket] }) ∧
    (∀ (ticket : Ticket) (call : EnqueueCall), dispatcher.calls[ticket]? = some call →
      call.status.isPending = true →
      ∃ after, dispatcher.step? (.abandon ticket) = some after ∧
        after.lanes = dispatcher.lanes.map (Lane.without ticket) ∧
        ∀ (late : List DispatchAction) (final : Dispatcher), after.run? late = some final →
          (after.forget ticket).run? (after.remaining ticket late) =
            some (final.forget ticket)) ∧
    (∀ (early late : List DispatchAction) (work : Work) (first : Dispatcher),
      actions = early ++ .enter work :: late →
      (start capacity workers routing).run? early = some first →
      let gone := first.calls.length
      let begun := first.enter work
      dispatcher.status? gone = some .abandoned →
      (∀ moment ∈ begun.course late, moment.1.Prompt moment.2 ∧
        moment.1.Placeless gone moment.2) →
      (start capacity workers routing).run? (early ++ begun.remaining gone late) =
        some (dispatcher.forget gone)) ∧
    (∀ (early late : List DispatchAction) (work : Work) (first : Dispatcher),
      actions = early ++ .enter work :: late →
      (start capacity workers routing).run? early = some first →
      let gone := first.calls.length
      dispatcher.status? gone = some .abandoned →
      ∃ before after calm never, before.Sublist early ∧ after.Sublist late ∧
        (start capacity workers routing).run? before = some calm ∧
        (start capacity workers routing).run?
          (before ++ (calm.enter work).remaining gone after) = some never ∧
        (dispatcher.forget gone).AsksLate never) := by
  have sound := sound_of_run run
  have orderly := orderly_of_run run
  refine ⟨?_, orderly.inLine, fun opened => ⟨?_, ?_⟩, ?_, ?_, ?_⟩
  · intro index lane found
    refine ⟨(sound.histories index lane found).flow, ?_, lane.hand.length_tickets_le⟩
    exact orderly.capacity ▸ orderly.bounded lane (List.mem_of_getElem? found)
  · exact enter_look (known_of_run run) opened
  · intro ticket call found offering
    obtain ⟨lane, laneFound⟩ := sound.lane_exists found
    by_cases free : ticket ∈ lane.places ∨
        lane.waiting = [] ∧ lane.queue.length + lane.places.length < max 1 capacity
    · obtain ⟨after, stepped, completes⟩ :=
        send_completes run opened found laneFound offering free
      exact ⟨lane, after, laneFound, stepped, by rwa [if_pos free]⟩
    · obtain ⟨after, stepped, waits⟩ :=
        send_waits orderly opened found laneFound offering free
      exact ⟨lane, after, laneFound, stepped, by rwa [if_neg free]⟩
  · intro ticket call found pending
    have move := Move.abandon found pending
    refine ⟨_, move.step?, orderly.inLine.withdraw_lanes found, fun late final runLate => ?_⟩
    exact run?_forget_of_over (run?_concat run move.step?)
      (setStatus_self found .abandoned) rfl runLate
  · intro early late work first split runEarly gone begun abandoned moments
    subst split
    obtain ⟨same, sameRun, runLate⟩ := run?_append.mp run
    obtain rfl := Option.some.inj (runEarly.symm.trans sameRun)
    exact run?_append.mpr ⟨first, runEarly, run?_unmade runEarly runLate abandoned moments⟩
  · intro early late work first split runEarly gone abandoned
    subst split
    obtain ⟨same, sameRun, runLate⟩ := run?_append.mp run
    obtain rfl := Option.some.inj (runEarly.symm.trans sameRun)
    exact run?_unmade_askingLate runEarly runLate abandoned

/-- A call that comes to its end without a pause. -/
def enqueueAtOnce (ticket : Ticket) : List DispatchAction :=
  [.enter sampleWork, .look ticket, .send ticket, .deliver ticket]

/-- The worker comes to the end of its unit and takes the next one. -/
def takeNext : List DispatchAction :=
  [.notice 0, .finish 0, .take 0]

/-- One unit is in the worker's hands and one in the queue. -/
def fillQueue : List DispatchAction :=
  enqueueAtOnce 0 ++ [.take 0] ++ enqueueAtOnce 1

/-- Two calls wait, and the first is given up in its sleep when it has just been given a
place. -/
def giveUp : List DispatchAction :=
  [.look 2, .send 2, .enter sampleWork, .look 3, .send 3] ++ takeNext ++
    [.advance 0, .abandon 2, .advance 0, .look 3, .send 3, .deliver 3]

/-- A call that waits is given a place in its sleep, another one asks while that place is
not filled, and then the first is given up. -/
def hesitate : List DispatchAction :=
  [.look 2, .send 2] ++ takeNext ++
    [.advance 0, .enter sampleWork, .look 3, .send 3, .abandon 2]

theorem back_pressure_exact_given_up :
    ∃ first dispatcher,
      (start 0 1 (fun _ => 0)).run? fillQueue = some first ∧
      (start 0 1 (fun _ => 0)).run? (fillQueue ++ .enter sampleWork :: giveUp) =
        some dispatcher ∧
      (∀ lane ∈ dispatcher.lanes, lane.queue = [3] ∧ lane.hand.tickets = [1]) ∧
      dispatcher.status? 2 = some .abandoned ∧
      (start 0 1 (fun _ => 0)).run?
        (fillQueue ++ (first.enter sampleWork).remaining 2 giveUp) =
          some (dispatcher.forget 2) ∧
      ∃ made others never,
        (start 1 1 (fun _ => 0)).run? (fillQueue ++ .enter sampleWork :: hesitate) = some made ∧
        made.status? 2 = some .abandoned ∧ made.status? 3 = some .waiting ∧
        (start 1 1 (fun _ => 0)).run? others = some never ∧
        (made.forget 2).AsksLate never := by
  obtain ⟨first, dispatcher, runEarly, run, lanes, givenUp, calls, moments⟩ :
      ∃ first dispatcher,
        (start 0 1 (fun _ => 0)).run? fillQueue = some first ∧
        (start 0 1 (fun _ => 0)).run? (fillQueue ++ .enter sampleWork :: giveUp) =
          some dispatcher ∧
        (∀ lane ∈ dispatcher.lanes, lane.queue = [3] ∧ lane.hand.tickets = [1]) ∧
        dispatcher.status? 2 = some .abandoned ∧ first.calls.length = 2 ∧
        ∀ moment ∈ (first.enter sampleWork).course giveUp,
          moment.1.Prompt moment.2 ∧ moment.1.Placeless 2 moment.2 :=
    ⟨_, _, rfl, rfl, by decide, rfl, rfl, by decide⟩
  obtain ⟨_, _, _, _, unmade, _⟩ := back_pressure_exact run
  have same := unmade fillQueue giveUp sampleWork first rfl runEarly
  rw [calls] at same
  refine ⟨first, dispatcher, runEarly, run, lanes, givenUp, same givenUp moments, ?_⟩
  obtain ⟨begun, made, runBegun, runMade, unmet, waits, known⟩ :
      ∃ begun made,
        (start 1 1 (fun _ => 0)).run? fillQueue = some begun ∧
        (start 1 1 (fun _ => 0)).run? (fillQueue ++ .enter sampleWork :: hesitate) = some made ∧
        made.status? 2 = some .abandoned ∧ made.status? 3 = some .waiting ∧
        begun.calls.length = 2 :=
    ⟨_, _, rfl, rfl, rfl, rfl, rfl⟩
  obtain ⟨_, _, _, _, _, without⟩ := back_pressure_exact runMade
  have otherwise := without fillQueue hesitate sampleWork begun rfl runBegun
  rw [known] at otherwise
  obtain ⟨_, _, _, never, _, _, _, runNever, asks⟩ := otherwise unmet
  exact ⟨made, _, never, runMade, unmet, waits, runNever, asks⟩

/-- A place that is given and not filled yet makes a difference.  A call waits although the
queue is empty and nobody waits; a call is accepted while an earlier one, which was given a
place in its sleep, still waits; and a call waits because of one that is given up later,
where it would have got the place if that one had never been made. -/
theorem unfilled_places_matter :
    (∃ before after,
      (start 1 1 (fun _ => 0)).run?
        [.enter sampleWork, .look 0, .send 0, .enter sampleWork, .look 1] = some before ∧
      before.closing = false ∧ (∀ lane ∈ before.lanes, lane.queue = []) ∧
      (∀ call ∈ before.calls, call.status ≠ .waiting) ∧
      before.step? (.send 1) = some after ∧ after.status? 1 = some .waiting) ∧
    (∃ dispatcher,
      (start 2 1 (fun _ => 0)).run? (fillQueue ++ enqueueAtOnce 2 ++
        [.enter sampleWork, .look 3, .send 3] ++ takeNext ++ [.advance 0] ++ takeNext ++
        enqueueAtOnce 4) = some dispatcher ∧
      dispatcher.closing = false ∧ dispatcher.status? 3 = some .waiting ∧
      dispatcher.status? 4 = some .accepted) ∧
    ∃ made never,
      (start 1 1 (fun _ => 0)).run? (fillQueue ++ .enter sampleWork :: hesitate) = some made ∧
      (start 1 1 (fun _ => 0)).run? (fillQueue ++ takeNext ++
        [.enter sampleWork, .look 2, .send 2]) = some never ∧
      made.status? 2 = some .abandoned ∧ made.status? 3 = some .waiting ∧
      never.status? 2 = some .holding :=
  ⟨⟨_, _, rfl, rfl, by decide, by decide, rfl, rfl⟩, ⟨_, rfl, rfl, rfl, rfl⟩,
    ⟨_, _, rfl, rfl, rfl, rfl, rfl⟩⟩

end Dispatcher

end ReviewFeed
