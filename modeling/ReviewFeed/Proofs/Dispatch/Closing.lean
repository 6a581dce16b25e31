import ReviewFeed.Proofs.Dispatch.Conservation
import ReviewFeed.Proofs.Dispatch.Settling

/-!
# Closed for good

From the beginning of its shutdown on, a dispatcher is closed and stays closed.  It
refuses every new unit at once and every call that was waiting as soon as that looks, and
changes no queue by that.  An object that is of no use as an event is skipped before
anybody looks whether the dispatcher is closed.
-/

namespace ReviewFeed

/-- Whether a call waits or has come to nothing. -/
def CallStatus.isIdle : CallStatus → Bool
  | .waiting | .refused | .abandoned => true
  | .entered | .offering | .holding | .accepted => false

namespace Dispatcher

section Closing

variable {before after dispatcher final : Dispatcher} {action : DispatchAction}
  {late : List DispatchAction} {ticket : Ticket}

theorem Move.staysClosing (move : Move before action after) (closing : before.closing = true) :
    after.closing = true := by
  by_contra opened
  rw [Bool.not_eq_true] at opened
  cases closing.symm.trans (move.keepsClosing opened)

/-- Under a closed dispatcher a call that waits goes on waiting or comes to nothing. -/
theorem Move.keepsIdle (move : Move before action after) (closing : before.closing = true)
    {status : CallStatus} (found : before.status? ticket = some status)
    (idle : status.isIdle = true) :
    ∃ later, after.status? ticket = some later ∧ later.isIdle = true := by
  obtain ⟨call, callFound, rfl⟩ := Option.map_eq_some_iff.mp found
  have set {other : Ticket} {mine : EnqueueCall} {next : CallStatus}
      (mineFound : before.calls[other]? = some mine)
      (either : mine.status.isIdle = false ∨ next.isIdle = true) :
      ∃ later, (before.setStatus other next).status? ticket = some later ∧
        later.isIdle = true := by
    rw [status?, setStatus_getElem?, callFound]
    by_cases same : other = ticket
    · subst same
      obtain rfl := Option.some.inj (mineFound.symm.trans callFound)
      refine ⟨next, by simp, either.resolve_left (fun busy => ?_)⟩
      cases busy.symm.trans idle
    · exact ⟨call.status, by simp [same], idle⟩
  cases move with
  | enter work =>
      refine ⟨call.status, ?_, idle⟩
      have inside := (List.getElem?_eq_some_iff.mp callFound).1
      rw [status?, enter_calls, List.getElem?_append_left inside, callFound]
      rfl
  | lookClosed mine | sendClosed mine | abandon mine => exact set mine (.inr rfl)
  | lookOpen _ _ opened => cases closing.symm.trans opened
  | sendGiven mine _ offering | sendAsleep mine _ offering | sendPlaced mine _ offering
  | sendQueued mine _ offering => exact set mine (.inl (by rw [offering]; rfl))
  | deliver mine _ holding => exact set mine (.inl (by rw [holding]; rfl))
  | advance | take | skip | notice | call | finishCall | finish | closeQueue | stop
  | addListener | removeListener | shutdown => exact ⟨call.status, found, idle⟩

theorem closing_of_shutdown (begun : before.step? .shutdown = some after) :
    after.closing = true ∧ after.calls = before.calls := by
  rw [step?, shutdown?] at begun
  split at begun
  · cases begun
  · obtain rfl := Option.some.inj begun
    exact ⟨rfl, rfl⟩

theorem run?_staysClosing (closing : dispatcher.closing = true)
    (run : dispatcher.run? late = some final) : final.closing = true :=
  run?_preserves (fun state => state.closing = true) (fun closing move => move.staysClosing closing)
    closing run

theorem run?_keepsIdle (closing : dispatcher.closing = true) {status : CallStatus}
    (found : dispatcher.status? ticket = some status) (idle : status.isIdle = true)
    (run : dispatcher.run? late = some final) :
    ∃ later, final.status? ticket = some later ∧ later.isIdle = true := by
  refine (run?_preserves (fun state => state.closing = true ∧
    ∃ later, state.status? ticket = some later ∧ later.isIdle = true)
    (fun so move => ?_) ⟨closing, status, found, idle⟩ run).2
  obtain ⟨closing, later, laterFound, laterIdle⟩ := so
  exact ⟨move.staysClosing closing, move.keepsIdle closing laterFound laterIdle⟩

/-- A closed dispatcher refuses a new unit at once and for ever, and leaves its lanes as
they are. -/
theorem enter_closed (closing : dispatcher.closing = true) (work : Work) :
    (dispatcher.enter work).lanes = dispatcher.lanes ∧
      ∀ later last, (dispatcher.enter work).run? later = some last →
        last.status? dispatcher.calls.length = some .refused := by
  refine ⟨enter_lanes dispatcher work, fun later last run => ?_⟩
  have found := dispatcher.enter_getElem? work
  rw [status?, run?_keepsFinal found (by simp [closing, CallStatus.isFinal]) run]
  simp [closing]

theorem withdraw_queues (dispatcher : Dispatcher) (ticket : Ticket) (call : EnqueueCall) :
    (dispatcher.withdraw ticket call).lanes.map (·.queue) = dispatcher.lanes.map (·.queue) := by
  refine List.ext_getElem? (fun index => ?_)
  rw [withdraw, List.getElem?_map, List.getElem?_map, List.getElem?_modify,
    Option.map_eq_map, Option.map_map]
  refine congrArg (Option.map · dispatcher.lanes[index]?) (funext fun lane => ?_)
  by_cases here : call.lane = index
  · simp [here, Lane.without]
  · simp [here]

/-- A call that waits can look, and a closed dispatcher then refuses it. -/
theorem look_closed (closing : dispatcher.closing = true)
    (waiting : dispatcher.status? ticket = some .waiting) :
    ∃ looked, dispatcher.step? (.look ticket) = some looked ∧
      looked.status? ticket = some .refused ∧
      looked.lanes.map (·.queue) = dispatcher.lanes.map (·.queue) := by
  obtain ⟨call, found, status⟩ := status?_eq_some.mp waiting
  have pending : call.status.isPending = true := by rw [status]; rfl
  refine ⟨_, (Move.lookClosed found pending closing).step?, ?_,
    dispatcher.withdraw_queues ticket call⟩
  change ((dispatcher.setStatus ticket .refused).calls[ticket]?).map (·.status) = some .refused
  rw [setStatus_getElem?, found]
  simp

end Closing

end Dispatcher

/-- A call of a feed that is over stays as it is. -/
theorem Feed.run?_keepsFinal {feed final : Feed} {actions : List FeedAction} {ticket : Ticket}
    {call : EnqueueCall} (found : feed.dispatcher.calls[ticket]? = some call)
    (settled : call.status.isFinal = true) (run : feed.run? actions = some final) :
    final.dispatcher.calls[ticket]? = some call := by
  refine run?_preserves (fun state => state.dispatcher.calls[ticket]? = some call)
    (fun _ found move => ?_) found run
  rcases move.dispatcher with same | ⟨action, moved, _⟩
  · rw [same]
    exact found
  · obtain ⟨status, kept, legal⟩ := moved.keepsCall found
    rw [kept, legal.of_isFinal settled]

namespace Rehearsal

variable {rehearsal : Rehearsal}

theorem enqueue_closed (closing : rehearsal.isClosing = true) (work : Work) :
    (rehearsal.enqueue work).2 = .closed := by
  have closing : rehearsal.feed.dispatcher.closing = true := closing
  obtain ⟨entered, acted, dispatcher⟩ : ∃ entered,
      rehearsal.act? (.dispatch (.enter work)) = some entered ∧
        entered.feed.dispatcher = rehearsal.feed.dispatcher.enter work := ⟨_, rfl, rfl⟩
  obtain ⟨actions, run, _⟩ := settleWithin_run entered.bound entered
  have found := rehearsal.feed.dispatcher.enter_getElem? work
  rw [← dispatcher] at found
  have kept := Feed.run?_keepsFinal found (by simp [closing, CallStatus.isFinal]) run
  have refused : entered.settle.feed.dispatcher.status? rehearsal.feed.dispatcher.calls.length =
      some .refused := by
    rw [settle, Dispatcher.status?, kept]
    simp [closing]
  simp only [enqueue, acted, Option.getD_some, refused]

/-- A closed dispatcher refuses a usable object, and a useless one gets no reply. -/
theorem enqueueObject_closed (closing : rehearsal.isClosing = true) (members : Members)
    (provider : Option Provider) :
    (Event.isUsable members = true →
      (rehearsal.enqueueObject members provider).2 = some .closed) ∧
    (Event.isUsable members = false →
      rehearsal.enqueueObject members provider = (rehearsal, none)) := by
  refine ⟨fun usable => ?_, fun useless => ?_⟩
  · simp only [enqueueObject, Work.ofUsable?, usable, if_true]
    exact congrArg some (enqueue_closed closing _)
  · simp [enqueueObject, Work.ofUsable?, useless]

end Rehearsal

namespace Dispatcher

/-- Once its shutdown has begun, a dispatcher is closed for good.  It refuses every new
unit at once and for ever, and leaves its lanes as they are.  A call that was waiting is
refused as soon as it looks, which it can do at any time and which changes no queue,
unless its caller gives it up.  A usable object is refused like any unit; an object that
is of no use as an event gets no reply and changes nothing. -/
theorem closed_for_good {opened closed final : Dispatcher} {late : List DispatchAction}
    (begun : opened.step? .shutdown = some closed) (run : closed.run? late = some final) :
    final.closing = true ∧
    (∀ work, (final.enter work).lanes = final.lanes ∧
      ∀ later last, (final.enter work).run? later = some last →
        last.status? final.calls.length = some .refused) ∧
    (∀ ticket, opened.status? ticket = some .waiting →
      final.status? ticket = some .refused ∨ final.status? ticket = some .abandoned ∨
      final.status? ticket = some .waiting ∧ ∃ looked, final.step? (.look ticket) = some looked ∧
        looked.status? ticket = some .refused ∧
        looked.lanes.map (·.queue) = final.lanes.map (·.queue)) ∧
    ∀ rehearsal : Rehearsal, rehearsal.feed.dispatcher = final →
      rehearsal.isClosing = true ∧ (∀ work, (rehearsal.enqueue work).2 = .closed) ∧
      ∀ members provider,
        (Event.isUsable members = true →
          (rehearsal.enqueueObject members provider).2 = some .closed) ∧
        (Event.isUsable members = false →
          rehearsal.enqueueObject members provider = (rehearsal, none)) := by
  obtain ⟨closing, same⟩ := closing_of_shutdown begun
  have stays := run?_staysClosing closing run
  refine ⟨stays, enter_closed stays, fun ticket waiting => ?_, ?_⟩
  · rw [status?, ← same, ← status?] at waiting
    obtain ⟨later, found, idle⟩ := run?_keepsIdle closing waiting rfl run
    cases later with
    | waiting => exact .inr (.inr ⟨found, look_closed stays found⟩)
    | refused => exact .inl found
    | abandoned => exact .inr (.inl found)
    | entered | offering | holding | accepted => cases idle
  · rintro rehearsal rfl
    exact ⟨stays, Rehearsal.enqueue_closed stays, Rehearsal.enqueueObject_closed stays⟩

/-- A run that fills a queue of one place and leaves a call waiting. -/
def crowdingRun : List DispatchAction :=
  [.enter sampleWork, .look 0, .send 0, .deliver 0, .enter sampleWork, .look 1, .send 1]

theorem closed_for_good_waiting :
    ∃ opened closed final, (start 1 1 (fun _ => 0)).run? crowdingRun = some opened ∧
      opened.status? 1 = some .waiting ∧ opened.step? .shutdown = some closed ∧
      closed.run? [.take 0, .advance 0] = some final ∧ final.status? 1 = some .waiting ∧
      (∃ looked, final.step? (.look 1) = some looked ∧ looked.status? 1 = some .refused ∧
        looked.lanes.map (·.queue) = [[]]) ∧
      (final.enter sampleWork).lanes = final.lanes := by
  obtain ⟨opened, closed, final, crowded, begun, run, waiting, still, queues⟩ :
      ∃ opened closed final, (start 1 1 (fun _ => 0)).run? crowdingRun = some opened ∧
        opened.step? .shutdown = some closed ∧ closed.run? [.take 0, .advance 0] = some final ∧
        opened.status? 1 = some .waiting ∧ final.status? 1 = some .waiting ∧
        final.lanes.map (·.queue) = [[]] := ⟨_, _, _, rfl, rfl, rfl, rfl, rfl, rfl⟩
  obtain ⟨_, refuses, calls, _⟩ := closed_for_good begun run
  refine ⟨opened, closed, final, crowded, waiting, begun, run, still, ?_, (refuses sampleWork).1⟩
  rcases calls 1 waiting with refused | abandoned | ⟨_, looked, step, refused, same⟩
  · cases still.symm.trans refused
  · cases still.symm.trans abandoned
  · exact ⟨looked, step, refused, same.trans queues⟩

/-- A closed dispatcher does not say that it is closed to who brings an object of no use. -/
theorem useless_object_unanswered :
    (Rehearsal.start 1 1 String.length .epoch).shutdown.isClosing = true ∧
      ((Rehearsal.start 1 1 String.length .epoch).shutdown.enqueueObject [] none).2 ≠
        some .closed := by
  decide +kernel

end Dispatcher

end ReviewFeed
