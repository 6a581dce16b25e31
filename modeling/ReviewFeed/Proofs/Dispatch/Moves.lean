import ReviewFeed.Dispatch.Dispatcher

/-!
# The moves of a dispatcher

`Dispatcher.step?` decides whether an action is possible and makes it.  `Move` is
the same step as a relation, with one constructor for each way in which an action
can go, so that whatever a step preserves is shown by one case distinction.
-/

namespace ReviewFeed

namespace Dispatcher

/-- One action of a dispatcher, with what makes it possible and what it does. -/
inductive Move (before : Dispatcher) : DispatchAction → Dispatcher → Prop
  | enter (work : Work) : Move before (.enter work) (before.enter work)
  | lookClosed {ticket : Ticket} {call : EnqueueCall} :
      before.calls[ticket]? = some call → call.status.isPending = true →
      before.closing = true →
      Move before (.look ticket) ((before.withdraw ticket call).refusal ticket)
  | lookOpen {ticket : Ticket} {call : EnqueueCall} :
      before.calls[ticket]? = some call → call.status.isPending = true →
      before.closing = false →
      Move before (.look ticket) (before.setStatus ticket .offering)
  | sendClosed {ticket : Ticket} {call : EnqueueCall} {lane : Lane} :
      before.calls[ticket]? = some call → before.lanes[call.lane]? = some lane →
      call.status = .offering → lane.phase ≠ .running →
      Move before (.send ticket) ((before.withdraw ticket call).refusal ticket)
  | sendGiven {ticket : Ticket} {call : EnqueueCall} {lane : Lane} :
      before.calls[ticket]? = some call → before.lanes[call.lane]? = some lane →
      call.status = .offering → lane.phase = .running → ticket ∈ lane.places →
      Move before (.send ticket) (before.setStatus ticket .holding)
  | sendAsleep {ticket : Ticket} {call : EnqueueCall} {lane : Lane} :
      before.calls[ticket]? = some call → before.lanes[call.lane]? = some lane →
      call.status = .offering → lane.phase = .running → ticket ∉ lane.places →
      ticket ∈ lane.waiting →
      Move before (.send ticket) (before.setStatus ticket .waiting)
  | sendPlaced {ticket : Ticket} {call : EnqueueCall} {lane : Lane} :
      before.calls[ticket]? = some call → before.lanes[call.lane]? = some lane →
      call.status = .offering → lane.phase = .running → ticket ∉ lane.places →
      ticket ∉ lane.waiting → lane.waiting = [] → before.hasRoom lane = true →
      Move before (.send ticket) ((before.setLane call.lane
        { lane with places := lane.places ++ [ticket] }).setStatus ticket .holding)
  | sendQueued {ticket : Ticket} {call : EnqueueCall} {lane : Lane} :
      before.calls[ticket]? = some call → before.lanes[call.lane]? = some lane →
      call.status = .offering → lane.phase = .running → ticket ∉ lane.places →
      ticket ∉ lane.waiting → ¬(lane.waiting = [] ∧ before.hasRoom lane = true) →
      Move before (.send ticket) ((before.setLane call.lane
        { lane with waiting := lane.waiting ++ [ticket] }).setStatus ticket .waiting)
  | deliver {ticket : Ticket} {call : EnqueueCall} {lane : Lane} :
      before.calls[ticket]? = some call → before.lanes[call.lane]? = some lane →
      call.status = .holding → ticket ∈ lane.places →
      Move before (.deliver ticket) (before.accept ticket call.lane lane)
  | advance {index : Nat} {lane : Lane} {ticket : Ticket} {waiting : List Ticket} :
      before.lanes[index]? = some lane → lane.waiting = ticket :: waiting →
      lane.phase = .running → before.hasRoom lane = true →
      Move before (.advance index) (before.setLane index
        { lane with waiting, places := lane.places ++ [ticket] })
  | abandon {ticket : Ticket} {call : EnqueueCall} :
      before.calls[ticket]? = some call → call.status.isPending = true →
      Move before (.abandon ticket)
        (((before.withdraw ticket call).setStatus ticket .abandoned).note
          (.abandoned ticket))
  | take {index : Nat} {lane : Lane} {ticket : Ticket} {queue : List Ticket} :
      before.lanes[index]? = some lane → lane.hand = .empty →
      lane.queue = ticket :: queue → lane.phase ≠ .stopped →
      Move before (.take index) ((before.setLane index
        { lane with queue, hand := .taken ticket }).note (.worked index ticket .took))
  | skip {index : Nat} {lane : Lane} {ticket : Ticket} {call : EnqueueCall} :
      before.lanes[index]? = some lane → lane.hand = .taken ticket →
      before.calls[ticket]? = some call → call.work.event? = none →
      Move before (.notice index) ((before.setLane index
        { lane with hand := .empty }).note (.worked index ticket .finished))
  | notice {index : Nat} {lane : Lane} {ticket : Ticket} {call : EnqueueCall}
      {event : Event} :
      before.lanes[index]? = some lane → lane.hand = .taken ticket →
      before.calls[ticket]? = some call → call.work.event? = some event →
      Move before (.notice index) ((before.setLane index
        { lane with hand := .notifying ticket event before.registry.ids none }).note
          (.worked index ticket (.noticed event before.registry.ids)))
  | call {index : Nat} {lane : Lane} {ticket : Ticket} {event : Event} {id : ListenerId}
      {next : List ListenerId} :
      before.lanes[index]? = some lane →
      lane.hand = .notifying ticket event (id :: next) none →
      Move before (.call index) ((before.setLane index
        { lane with hand := .notifying ticket event next (some id) }).note
          (.worked index ticket (.called event id)))
  | finishCall {index : Nat} {lane : Lane} {ticket : Ticket} {event : Event}
      {id : ListenerId} {next : List ListenerId} (panicked : Bool) :
      before.lanes[index]? = some lane →
      lane.hand = .notifying ticket event next (some id) →
      Move before (.finishCall index panicked) ((before.setLane index
        { lane with hand := .notifying ticket event next none }).note
          (.worked index ticket (.returned event id panicked)))
  | finish {index : Nat} {lane : Lane} {ticket : Ticket} {event : Event} :
      before.lanes[index]? = some lane → lane.hand = .notifying ticket event [] none →
      Move before (.finish index) ((before.setLane index
        { lane with hand := .empty }).note (.worked index ticket .finished))
  | closeQueue {index : Nat} {lane : Lane} :
      before.lanes[index]? = some lane → lane.hand = .empty → lane.phase = .running →
      before.closing = true →
      Move before (.closeQueue index) (before.setLane index { lane with phase := .draining })
  | stop {index : Nat} {lane : Lane} :
      before.lanes[index]? = some lane → lane.hand = .empty → lane.queue = [] →
      lane.places = [] → lane.phase = .draining →
      Move before (.stop index) ((before.setLane index
        { lane with phase := .stopped }).note (.stopped index))
  | addListener : Move before .addListener before.addListener
  | removeListener (id : ListenerId) :
      Move before (.removeListener id) (before.removeListener id)
  | shutdown :
      before.closing = false →
      Move before .shutdown ({ before with closing := true }.note .closing)

namespace Move

variable {before after : Dispatcher} {ticket : Ticket} {index : Nat}

theorem ofLook? (success : before.look? ticket = some after) :
    Move before (.look ticket) after := by
  simp only [look?, Option.bind_eq_bind, Option.bind_eq_some_iff] at success
  obtain ⟨call, found, success⟩ := success
  split at success
  · rename_i pending
    split at success
    · rename_i closing
      cases success
      exact .lookClosed found pending closing
    · rename_i opened
      cases success
      exact .lookOpen found pending (by simpa using opened)
  · cases success

theorem ofSend? (success : before.send? ticket = some after) :
    Move before (.send ticket) after := by
  simp only [send?, Option.bind_eq_bind, Option.bind_eq_some_iff] at success
  obtain ⟨call, found, lane, laneFound, success⟩ := success
  split at success
  · cases success
  rename_i offering
  have offering : call.status = .offering := by simpa using offering
  split at success
  · rename_i notRunning
    cases success
    exact .sendClosed found laneFound offering notRunning
  rename_i running
  have running : lane.phase = .running := by simpa using running
  split at success
  · rename_i given
    cases success
    exact .sendGiven found laneFound offering running given
  rename_i notGiven
  split at success
  · rename_i asleep
    cases success
    exact .sendAsleep found laneFound offering running notGiven asleep
  rename_i fresh
  split at success
  · rename_i free
    simp only [Bool.and_eq_true, List.isEmpty_iff] at free
    cases success
    exact .sendPlaced found laneFound offering running notGiven fresh free.1 free.2
  · rename_i full
    simp only [Bool.and_eq_true, List.isEmpty_iff] at full
    cases success
    exact .sendQueued found laneFound offering running notGiven fresh full

theorem ofDeliver? (success : before.deliver? ticket = some after) :
    Move before (.deliver ticket) after := by
  simp only [deliver?, Option.bind_eq_bind, Option.bind_eq_some_iff] at success
  obtain ⟨call, found, lane, laneFound, success⟩ := success
  split at success
  · rename_i holds
    cases success
    exact .deliver found laneFound holds.1 holds.2
  · cases success

theorem ofAdvance? (success : before.advance? index = some after) :
    Move before (.advance index) after := by
  simp only [advance?, Option.bind_eq_bind, Option.bind_eq_some_iff] at success
  obtain ⟨lane, laneFound, success⟩ := success
  split at success
  · rename_i ticket waiting line
    split at success
    · rename_i free
      simp only [Bool.and_eq_true, decide_eq_true_eq] at free
      cases success
      exact .advance laneFound line free.1 free.2
    · cases success
  · cases success

theorem ofAbandon? (success : before.abandon? ticket = some after) :
    Move before (.abandon ticket) after := by
  simp only [abandon?, Option.bind_eq_bind, Option.bind_eq_some_iff] at success
  obtain ⟨call, found, success⟩ := success
  split at success
  · rename_i pending
    cases success
    exact .abandon found pending
  · cases success

theorem ofTake? (success : before.take? index = some after) :
    Move before (.take index) after := by
  simp only [take?, Option.bind_eq_bind, Option.bind_eq_some_iff] at success
  obtain ⟨lane, laneFound, success⟩ := success
  split at success
  · rename_i ticket queue free first
    split at success
    · cases success
    · rename_i active
      cases success
      exact .take laneFound free first active
  · cases success

theorem ofNotice? (success : before.notice? index = some after) :
    Move before (.notice index) after := by
  simp only [notice?, Option.bind_eq_bind, Option.bind_eq_some_iff] at success
  obtain ⟨lane, laneFound, success⟩ := success
  split at success
  · rename_i ticket inHand
    simp only [Option.bind_eq_some_iff] at success
    obtain ⟨call, found, success⟩ := success
    split at success
    · rename_i useless
      cases success
      exact .skip laneFound inHand found useless
    · rename_i event useful
      cases success
      exact .notice laneFound inHand found useful
  · cases success

theorem ofCall? (success : before.call? index = some after) :
    Move before (.call index) after := by
  simp only [call?, Option.bind_eq_bind, Option.bind_eq_some_iff] at success
  obtain ⟨lane, laneFound, success⟩ := success
  split at success
  · rename_i inHand
    cases success
    exact .call laneFound inHand
  · cases success

theorem ofFinishCall? {panicked : Bool} (success : before.finishCall? index panicked = some after) :
    Move before (.finishCall index panicked) after := by
  simp only [finishCall?, Option.bind_eq_bind, Option.bind_eq_some_iff] at success
  obtain ⟨lane, laneFound, success⟩ := success
  split at success
  · rename_i inHand
    cases success
    exact .finishCall panicked laneFound inHand
  · cases success

theorem ofFinish? (success : before.finish? index = some after) :
    Move before (.finish index) after := by
  simp only [finish?, Option.bind_eq_bind, Option.bind_eq_some_iff] at success
  obtain ⟨lane, laneFound, success⟩ := success
  split at success
  · rename_i inHand
    cases success
    exact .finish laneFound inHand
  · cases success

theorem ofCloseQueue? (success : before.closeQueue? index = some after) :
    Move before (.closeQueue index) after := by
  simp only [closeQueue?, Option.bind_eq_bind, Option.bind_eq_some_iff] at success
  obtain ⟨lane, laneFound, success⟩ := success
  split at success
  · rename_i free running
    split at success
    · rename_i closing
      cases success
      exact .closeQueue laneFound free running closing
    · cases success
  · cases success

theorem ofStop? (success : before.stop? index = some after) :
    Move before (.stop index) after := by
  simp only [stop?, Option.bind_eq_bind, Option.bind_eq_some_iff] at success
  obtain ⟨lane, laneFound, success⟩ := success
  split at success
  · rename_i free empty back draining
    cases success
    exact .stop laneFound free empty back draining
  · cases success

theorem ofShutdown? (success : before.shutdown? = some after) :
    Move before .shutdown after := by
  simp only [shutdown?] at success
  split at success
  · cases success
  · rename_i opened
    cases success
    exact .shutdown (by simpa using opened)

end Move

theorem Move.ofStep? {before after : Dispatcher} {action : DispatchAction}
    (success : before.step? action = some after) : Move before action after := by
  cases action with
  | enter work =>
      cases success
      exact .enter work
  | look ticket => exact .ofLook? success
  | send ticket => exact .ofSend? success
  | deliver ticket => exact .ofDeliver? success
  | advance index => exact .ofAdvance? success
  | abandon ticket => exact .ofAbandon? success
  | take index => exact .ofTake? success
  | notice index => exact .ofNotice? success
  | call index => exact .ofCall? success
  | finishCall index panicked => exact .ofFinishCall? success
  | finish index => exact .ofFinish? success
  | closeQueue index => exact .ofCloseQueue? success
  | stop index => exact .ofStop? success
  | addListener =>
      cases success
      exact .addListener
  | removeListener id =>
      cases success
      exact .removeListener id
  | shutdown => exact .ofShutdown? success

/-- Every move is possible. -/
theorem Move.step? {before after : Dispatcher} {action : DispatchAction}
    (move : Move before action after) : before.step? action = some after := by
  cases move with
  | enter | addListener | removeListener => rfl
  | lookClosed found pending closing =>
      simp [Dispatcher.step?, look?, found, pending, closing]
  | lookOpen found pending opened => simp [Dispatcher.step?, look?, found, pending, opened]
  | sendClosed found laneFound offering closed =>
      simp [Dispatcher.step?, send?, found, laneFound, offering, closed]
  | sendGiven found laneFound offering running given =>
      simp [Dispatcher.step?, send?, found, laneFound, offering, running, given]
  | sendAsleep found laneFound offering running notGiven asleep =>
      simp [Dispatcher.step?, send?, found, laneFound, offering, running, notGiven, asleep]
  | sendPlaced found laneFound offering running notGiven fresh first room =>
      simp [Dispatcher.step?, send?, found, laneFound, offering, running, notGiven, first, room]
  | sendQueued found laneFound offering running notGiven fresh full =>
      simp [Dispatcher.step?, send?, found, laneFound, offering, running, notGiven, fresh, full]
  | deliver found laneFound holding placed =>
      simp [Dispatcher.step?, deliver?, found, laneFound, holding, placed]
  | advance laneFound line running room =>
      simp [Dispatcher.step?, advance?, laneFound, line, running, room]
  | abandon found pending => simp [Dispatcher.step?, abandon?, found, pending]
  | take laneFound free first active =>
      simp [Dispatcher.step?, take?, laneFound, free, first, active]
  | skip laneFound inHand found useless =>
      simp [Dispatcher.step?, notice?, laneFound, inHand, found, useless]
  | notice laneFound inHand found useful =>
      simp [Dispatcher.step?, notice?, laneFound, inHand, found, useful]
  | call laneFound inHand => simp [Dispatcher.step?, call?, laneFound, inHand]
  | finishCall panicked laneFound inHand =>
      simp [Dispatcher.step?, finishCall?, laneFound, inHand]
  | finish laneFound inHand => simp [Dispatcher.step?, finish?, laneFound, inHand]
  | closeQueue laneFound free running closing =>
      simp [Dispatcher.step?, closeQueue?, laneFound, free, running, closing]
  | stop laneFound free empty back draining =>
      simp [Dispatcher.step?, stop?, laneFound, free, empty, back, draining]
  | shutdown opened => simp [Dispatcher.step?, shutdown?, opened]

end Dispatcher

end ReviewFeed
