import ReviewFeed.Dispatch.Registry
import ReviewFeed.Dispatch.Work

/-!
# The dispatcher

A dispatcher has lanes, each a bounded queue with one worker.  Work goes to a
lane by the name of its provider.  The dispatcher is a machine that moves by small
actions: the checks and the sending of each enqueue call, the moves of each
worker, registrations, and the shutdown.  A run is any list of actions each of
which is possible when its turn comes, so that every interleaving of producers,
workers and listeners is a run.
-/

namespace ReviewFeed

/-- The number of an enqueue call. -/
abbrev Ticket := Nat

/-- How far an enqueue call has come. -/
inductive CallStatus
  /-- It saw the dispatcher open when it began. -/
  | entered
  /-- It saw the dispatcher open once more and turns to its queue. -/
  | offering
  /-- It sleeps until it is given a place or the dispatcher closes. -/
  | waiting
  /-- It has a place and is about to put its unit there. -/
  | holding
  | accepted
  | refused
  | abandoned
  deriving DecidableEq, Repr

/-- Whether a call can still be refused or given up. -/
def CallStatus.isPending : CallStatus → Bool
  | .entered | .offering | .waiting => true
  | _ => false

/-- An enqueue call: the unit of work, its lane, and how far it has come. -/
structure EnqueueCall where
  work : Work
  lane : Nat
  status : CallStatus

/-- What a worker is doing. -/
inductive Hand
  | empty
  /-- It has taken a unit out of its queue. -/
  | taken (ticket : Ticket)
  /-- It reports an event: the listeners still to call, and the one whose call is
  not over. -/
  | notifying (ticket : Ticket) (event : Event) (next : List ListenerId)
      (inCall : Option ListenerId)
  deriving DecidableEq, Repr

/-- The unit in a worker's hands, if any. -/
def Hand.tickets : Hand → List Ticket
  | .empty => []
  | .taken ticket | .notifying ticket _ _ _ => [ticket]

/-- Whether a worker receives, empties its closed queue, or has stopped. -/
inductive Phase
  | running
  | draining
  | stopped
  deriving DecidableEq, Repr

/-- A queue and its worker: the accepted units that nobody took yet, the calls
that wait for a place, the calls that have been given one and not filled it yet,
and what the worker does. -/
structure Lane where
  queue : List Ticket
  waiting : List Ticket
  places : List Ticket
  hand : Hand
  phase : Phase
  deriving DecidableEq, Repr

/-- A lane without a call that waited or had a place there. -/
def Lane.without (ticket : Ticket) (lane : Lane) : Lane :=
  { lane with
    waiting := lane.waiting.filter (fun other => other != ticket)
    places := lane.places.filter (fun other => other != ticket) }

/-- What a worker does about a unit. -/
inductive WorkerAct
  | took
  /-- A notification begins; these listeners are its snapshot. -/
  | noticed (event : Event) (ids : List ListenerId)
  | called (event : Event) (id : ListenerId)
  | returned (event : Event) (id : ListenerId) (panicked : Bool)
  | finished
  deriving DecidableEq, Repr

/-- What a run has done that its callers and listeners can tell. -/
inductive Entry
  | accepted (lane : Nat) (ticket : Ticket)
  | refused (ticket : Ticket)
  | abandoned (ticket : Ticket)
  | worked (lane : Nat) (ticket : Ticket) (act : WorkerAct)
  | added (id : ListenerId)
  | removed (id : ListenerId) (found : Bool)
  | closing
  | stopped (lane : Nat)
  deriving DecidableEq, Repr

/-- The state of a dispatcher.  The journal is in order of time. -/
structure Dispatcher where
  capacity : Nat
  routing : String → Nat
  lanes : List Lane
  closing : Bool
  calls : List EnqueueCall
  registry : Registry
  journal : List Entry

inductive DispatchAction
  /-- An enqueue call begins, and looks whether the dispatcher is closed. -/
  | enter (work : Work)
  /-- An enqueue call looks once more: before it turns to its queue, and whenever it
  wakes up. -/
  | look (ticket : Ticket)
  /-- An enqueue call asks its queue for a place. -/
  | send (ticket : Ticket)
  /-- An enqueue call puts its unit into the place that it holds. -/
  | deliver (ticket : Ticket)
  /-- The call that waits longest on a lane is given a place. -/
  | advance (lane : Nat)
  /-- A call is given up by its caller. -/
  | abandon (ticket : Ticket)
  | take (lane : Nat)
  /-- A worker turns its unit into an event, and fixes whom to tell. -/
  | notice (lane : Nat)
  | call (lane : Nat)
  | finishCall (lane : Nat) (panicked : Bool)
  | finish (lane : Nat)
  /-- A worker that found nothing to do notices the shutdown and closes its queue. -/
  | closeQueue (lane : Nat)
  | stop (lane : Nat)
  | addListener
  | removeListener (id : ListenerId)
  | shutdown

namespace Dispatcher

def idleLane : Lane :=
  { queue := [], waiting := [], places := [], hand := .empty, phase := .running }

/-- The most places that a queue can have: they are counted in a word of 64 bits, three
of which serve another end. -/
def mostPlaces : Nat := 2305843009213693951

/-- The most workers that a dispatcher can have: the list of their queues takes eight
bytes for each, and less than half of the address space. -/
def mostWorkers : Nat := 1152921504606846975

/-- Whether a dispatcher of these sizes can be started.  Starting a larger one panics. -/
def canStart (capacity workers : Nat) : Bool :=
  capacity ≤ mostPlaces && workers ≤ mostWorkers

/-- A new dispatcher, of sizes with which one can be started.  Sizes below one count as
one. -/
def start (capacity workers : Nat) (routing : String → Nat) : Dispatcher :=
  { capacity := max 1 capacity
    routing
    lanes := List.replicate (max 1 workers) idleLane
    closing := false
    calls := []
    registry := .empty
    journal := [] }

/-- The lane for work of a provider: the first one if it has no name. -/
def laneOf (dispatcher : Dispatcher) (provider : Option Provider) : Nat :=
  match provider.bind (·.name) with
  | some name => dispatcher.routing name % dispatcher.lanes.length
  | none => 0

def note (entry : Entry) (dispatcher : Dispatcher) : Dispatcher :=
  { dispatcher with journal := dispatcher.journal ++ [entry] }

def setLane (index : Nat) (lane : Lane) (dispatcher : Dispatcher) : Dispatcher :=
  { dispatcher with lanes := dispatcher.lanes.set index lane }

/-- Sets how far a call has come. -/
def setStatus (ticket : Ticket) (status : CallStatus) (dispatcher : Dispatcher) : Dispatcher :=
  { dispatcher with
    calls := dispatcher.calls.modify ticket (fun call => { call with status }) }

def status? (dispatcher : Dispatcher) (ticket : Ticket) : Option CallStatus :=
  (dispatcher.calls[ticket]?).map (·.status)

/-- Whether a lane has a place to give.  A place that is given and not filled yet
is taken. -/
def hasRoom (dispatcher : Dispatcher) (lane : Lane) : Bool :=
  lane.queue.length + lane.places.length < dispatcher.capacity

/-- Takes a call out of the line of its lane, and its place back. -/
def withdraw (ticket : Ticket) (call : EnqueueCall) (dispatcher : Dispatcher) : Dispatcher :=
  { dispatcher with lanes := dispatcher.lanes.modify call.lane (Lane.without ticket) }

/-- The end of a call that the dispatcher does not accept. -/
def refusal (ticket : Ticket) (dispatcher : Dispatcher) : Dispatcher :=
  (dispatcher.setStatus ticket .refused).note (.refused ticket)

def enter (dispatcher : Dispatcher) (work : Work) : Dispatcher :=
  let ticket := dispatcher.calls.length
  let call : EnqueueCall :=
    { work, lane := dispatcher.laneOf work.provider, status := .entered }
  let begun := { dispatcher with calls := dispatcher.calls ++ [call] }
  if dispatcher.closing then begun.refusal ticket else begun

/-- An enqueue call looks once more whether the dispatcher is closed. -/
def look? (dispatcher : Dispatcher) (ticket : Ticket) : Option Dispatcher := do
  let call ← dispatcher.calls[ticket]?
  if call.status.isPending then
    if dispatcher.closing then some ((dispatcher.withdraw ticket call).refusal ticket)
    else some (dispatcher.setStatus ticket .offering)
  else none

/-- An enqueue call asks its queue for a place.  A queue that its worker has closed
has none, not even for a call that was given one in its sleep.  A call that comes
new gets a place at once if nobody waits before it and there is room. -/
def send? (dispatcher : Dispatcher) (ticket : Ticket) : Option Dispatcher := do
  let call ← dispatcher.calls[ticket]?
  let lane ← dispatcher.lanes[call.lane]?
  if call.status ≠ .offering then none
  else if lane.phase ≠ .running then
    some ((dispatcher.withdraw ticket call).refusal ticket)
  else if ticket ∈ lane.places then some (dispatcher.setStatus ticket .holding)
  else if ticket ∈ lane.waiting then some (dispatcher.setStatus ticket .waiting)
  else if lane.waiting.isEmpty && dispatcher.hasRoom lane then
    some ((dispatcher.setLane call.lane
      { lane with places := lane.places ++ [ticket] }).setStatus ticket .holding)
  else
    some ((dispatcher.setLane call.lane
      { lane with waiting := lane.waiting ++ [ticket] }).setStatus ticket .waiting)

/-- A unit goes to the end of the queue of its lane. -/
def accept (ticket : Ticket) (index : Nat) (lane : Lane) (dispatcher : Dispatcher) :
    Dispatcher :=
  ((dispatcher.setLane index
    { lane.without ticket with queue := lane.queue ++ [ticket] }).setStatus
      ticket .accepted).note (.accepted index ticket)

/-- An enqueue call puts its unit into the place that it holds, also when the
queue has been closed meanwhile. -/
def deliver? (dispatcher : Dispatcher) (ticket : Ticket) : Option Dispatcher := do
  let call ← dispatcher.calls[ticket]?
  let lane ← dispatcher.lanes[call.lane]?
  if call.status = .holding ∧ ticket ∈ lane.places then
    some (dispatcher.accept ticket call.lane lane)
  else none

/-- The call that waits longest on a lane is given a place. -/
def advance? (dispatcher : Dispatcher) (index : Nat) : Option Dispatcher := do
  let lane ← dispatcher.lanes[index]?
  match lane.waiting with
  | ticket :: waiting =>
      if lane.phase = .running && dispatcher.hasRoom lane then
        some (dispatcher.setLane index
          { lane with waiting, places := lane.places ++ [ticket] })
      else none
  | [] => none

/-- The caller gives up a call that is not over.  A place that it was given is free
again. -/
def abandon? (dispatcher : Dispatcher) (ticket : Ticket) : Option Dispatcher := do
  let call ← dispatcher.calls[ticket]?
  if call.status.isPending then
    some (((dispatcher.withdraw ticket call).setStatus ticket .abandoned).note
      (.abandoned ticket))
  else none

/-- A worker with free hands takes the first unit of its queue. -/
def take? (dispatcher : Dispatcher) (index : Nat) : Option Dispatcher := do
  let lane ← dispatcher.lanes[index]?
  match lane.hand, lane.queue with
  | .empty, ticket :: queue =>
      if lane.phase = .stopped then none
      else some ((dispatcher.setLane index
        { lane with queue, hand := .taken ticket }).note (.worked index ticket .took))
  | _, _ => none

/-- A worker turns its unit into an event, if it is one, and fixes the listeners
to call. -/
def notice? (dispatcher : Dispatcher) (index : Nat) : Option Dispatcher := do
  let lane ← dispatcher.lanes[index]?
  match lane.hand with
  | .taken ticket =>
      let call ← dispatcher.calls[ticket]?
      match call.work.event? with
      | none =>
          some ((dispatcher.setLane index { lane with hand := .empty }).note
            (.worked index ticket .finished))
      | some event =>
          let ids := dispatcher.registry.ids
          some ((dispatcher.setLane index
            { lane with hand := .notifying ticket event ids none }).note
              (.worked index ticket (.noticed event ids)))
  | _ => none

def call? (dispatcher : Dispatcher) (index : Nat) : Option Dispatcher := do
  let lane ← dispatcher.lanes[index]?
  match lane.hand with
  | .notifying ticket event (id :: next) none =>
      some ((dispatcher.setLane index
        { lane with hand := .notifying ticket event next (some id) }).note
          (.worked index ticket (.called event id)))
  | _ => none

/-- A listener returns from its call, or panics. -/
def finishCall? (dispatcher : Dispatcher) (index : Nat) (panicked : Bool) :
    Option Dispatcher := do
  let lane ← dispatcher.lanes[index]?
  match lane.hand with
  | .notifying ticket event next (some id) =>
      some ((dispatcher.setLane index
        { lane with hand := .notifying ticket event next none }).note
          (.worked index ticket (.returned event id panicked)))
  | _ => none

/-- A worker has called every listener of its event. -/
def finish? (dispatcher : Dispatcher) (index : Nat) : Option Dispatcher := do
  let lane ← dispatcher.lanes[index]?
  match lane.hand with
  | .notifying ticket _ [] none =>
      some ((dispatcher.setLane index { lane with hand := .empty }).note
        (.worked index ticket .finished))
  | _ => none

/-- A worker that found nothing to do notices the shutdown and closes its queue.
By then a call may have put a unit there. -/
def closeQueue? (dispatcher : Dispatcher) (index : Nat) : Option Dispatcher := do
  let lane ← dispatcher.lanes[index]?
  match lane.hand, lane.phase with
  | .empty, .running =>
      if dispatcher.closing then some (dispatcher.setLane index { lane with phase := .draining })
      else none
  | _, _ => none

/-- A worker stops when its closed queue is empty and every place has been given
back. -/
def stop? (dispatcher : Dispatcher) (index : Nat) : Option Dispatcher := do
  let lane ← dispatcher.lanes[index]?
  match lane.hand, lane.queue, lane.places, lane.phase with
  | .empty, [], [], .draining =>
      some ((dispatcher.setLane index { lane with phase := .stopped }).note (.stopped index))
  | _, _, _, _ => none

def addListener (dispatcher : Dispatcher) : Dispatcher :=
  { dispatcher with registry := dispatcher.registry.add }.note
    (.added dispatcher.registry.next)

def removeListener (dispatcher : Dispatcher) (id : ListenerId) : Dispatcher :=
  { dispatcher with registry := dispatcher.registry.remove id }.note
    (.removed id (dispatcher.registry.has id))

/-- The shutdown begins, once. -/
def shutdown? (dispatcher : Dispatcher) : Option Dispatcher :=
  if dispatcher.closing then none
  else some ({ dispatcher with closing := true }.note .closing)

/-- The state after an action, or `none` if the action is not possible now. -/
def step? (dispatcher : Dispatcher) : DispatchAction → Option Dispatcher
  | .enter work => some (dispatcher.enter work)
  | .look ticket => dispatcher.look? ticket
  | .send ticket => dispatcher.send? ticket
  | .deliver ticket => dispatcher.deliver? ticket
  | .advance lane => dispatcher.advance? lane
  | .abandon ticket => dispatcher.abandon? ticket
  | .take lane => dispatcher.take? lane
  | .notice lane => dispatcher.notice? lane
  | .call lane => dispatcher.call? lane
  | .finishCall lane panicked => dispatcher.finishCall? lane panicked
  | .finish lane => dispatcher.finish? lane
  | .closeQueue lane => dispatcher.closeQueue? lane
  | .stop lane => dispatcher.stop? lane
  | .addListener => some dispatcher.addListener
  | .removeListener id => some (dispatcher.removeListener id)
  | .shutdown => dispatcher.shutdown?

/-- The state after a run of actions, or `none` if one of them is not possible. -/
def run? (dispatcher : Dispatcher) (actions : List DispatchAction) : Option Dispatcher :=
  actions.foldlM step? dispatcher

/-- Every worker has stopped, so the shutdown is over. -/
def isOver (dispatcher : Dispatcher) : Bool :=
  dispatcher.closing && dispatcher.lanes.all (fun lane => lane.phase = .stopped)

end Dispatcher

end ReviewFeed
