import ReviewFeed.Dispatch.Feed
import ReviewFeed.Dispatch.Script

/-!
# Rehearsals

A rehearsal runs a feed on a fixed schedule with scripted listeners: after every
request each move that is possible is made, until nothing moves any more.  Workers,
readers and callers come in turn, and each goes on as long as it can, as on a single
thread.  It is one of the runs of the feed, chosen so that its course can be told in
advance.
-/

namespace ReviewFeed

/-- Who moves in a feed: a worker, a reader together with its enqueue call, or the
enqueue calls of all others. -/
inductive Mover
  | worker (lane : Nat)
  | reader (index : Nat)
  | callers
  deriving DecidableEq, Repr

/-- A feed on its schedule: the scripts of its listeners, the permits left for
gated ones, the instant at which units are made, whose turn it is, and what was
heard. -/
structure Rehearsal where
  feed : Feed
  cast : Cast
  permits : Nat
  now : Instant
  turn : Nat
  heard : List Heard

namespace Rehearsal

def start (capacity workers : Nat) (routing : String → Nat) (now : Instant) : Rehearsal :=
  { feed := .start capacity workers routing, cast := [], permits := 0, now, turn := 0
    heard := [] }

/-- The moves of a reader, in the order in which they are tried. -/
def readerMoves (now : Instant) (reader : Nat) : List FeedAction :=
  [.openStream reader, .readNext reader now, .giveUp reader, .resume reader]

/-- Whether a sleeping call has been woken: it was given a place, or the dispatcher
is closed. -/
def isWoken (dispatcher : Dispatcher) (ticket : Ticket) (call : EnqueueCall) : Bool :=
  dispatcher.closing ||
    (dispatcher.lanes[call.lane]?).any (fun lane => lane.places.contains ticket)

/-- The move of an enqueue call, if it has one.  A call that sleeps does not look
before it is woken. -/
def callMove? (dispatcher : Dispatcher) (ticket : Ticket) (call : EnqueueCall) :
    Option FeedAction :=
  match call.status with
  | .entered => some (.dispatch (.look ticket))
  | .offering => some (.dispatch (.send ticket))
  | .holding => some (.dispatch (.deliver ticket))
  | .waiting =>
      if isWoken dispatcher ticket call then some (.dispatch (.look ticket)) else none
  | .accepted | .refused | .abandoned => none

/-- The moves of the enqueue calls, in the order in which they are tried. -/
def callMoves (dispatcher : Dispatcher) : List FeedAction :=
  dispatcher.calls.zipIdx.filterMap (fun (call, ticket) => callMove? dispatcher ticket call)

/-- The moves of a lane but for the return of a listener, in the order in which
they are tried. -/
def laneMoves (lane : Nat) : List FeedAction :=
  [.dispatch (.advance lane), .dispatch (.take lane), .dispatch (.notice lane),
    .dispatch (.call lane), .dispatch (.finish lane), .dispatch (.closeQueue lane),
    .dispatch (.stop lane)]

/-- The move of the enqueue call that a reader waits for. -/
def ownMove? (rehearsal : Rehearsal) (index : Nat) : Option FeedAction := do
  let reader ← rehearsal.feed.readers[index]?
  match reader.phase with
  | .enqueuing ticket =>
      let call ← rehearsal.feed.dispatcher.calls[ticket]?
      callMove? rehearsal.feed.dispatcher ticket call
  | _ => none

/-- All who move, in the order in which they come in turn. -/
def movers (rehearsal : Rehearsal) : List Mover :=
  (List.range rehearsal.feed.dispatcher.lanes.length).map .worker ++
    (List.range rehearsal.feed.readers.length).map .reader ++ [.callers]

/-- The moves of somebody that need no permit, in the order in which they are tried. -/
def movesOf (rehearsal : Rehearsal) : Mover → List FeedAction
  | .worker lane => laneMoves lane
  | .reader index => (rehearsal.ownMove? index).toList ++ readerMoves rehearsal.now index
  | .callers => callMoves rehearsal.feed.dispatcher

def listenerIn? (rehearsal : Rehearsal) (index : Nat) : Option ListenerId := do
  let lane ← rehearsal.feed.dispatcher.lanes[index]?
  match lane.hand with
  | .notifying _ _ _ inCall => inCall
  | _ => none

/-- What a journal entry says in the words of the scripted listeners. -/
def hear (cast : Cast) : Entry → List Heard
  | .worked _ _ (.called event id) =>
      let script := cast.script id
      if script.gated then [.entered script.name event.kind] else []
  | .worked _ _ (.returned event id _) => [.delivered (cast.script id).name event]
  | _ => []

/-- The rehearsal after an action of its feed, if the action is possible. -/
def act? (rehearsal : Rehearsal) (action : FeedAction) : Option Rehearsal :=
  (rehearsal.feed.step? action).map (fun feed =>
    let entries := feed.dispatcher.journal.drop rehearsal.feed.dispatcher.journal.length
    { rehearsal with
      feed
      heard := rehearsal.heard ++ entries.flatMap (hear rehearsal.cast) })

/-- The return of the listener that a lane is calling.  A gated listener uses up
a permit. -/
def return? (rehearsal : Rehearsal) (lane : Nat) : Option Rehearsal := do
  let id ← rehearsal.listenerIn? lane
  let script := rehearsal.cast.script id
  if script.gated && rehearsal.permits == 0 then none
  else
    let after ← rehearsal.act? (.dispatch (.finishCall lane script.panics))
    some (if script.gated then { after with permits := rehearsal.permits - 1 } else after)

/-- The next move of somebody.  A worker waits for the return of its listener only when
it has nothing else to do. -/
def moveOf? (rehearsal : Rehearsal) (mover : Mover) : Option Rehearsal :=
  match (rehearsal.movesOf mover).findSome? rehearsal.act?, mover with
  | some after, _ => some after
  | none, .worker lane => rehearsal.return? lane
  | none, _ => none

/-- The next move of the schedule.  Who has the turn keeps it as long as there is a move,
and then it goes to the next one in the circle who has one. -/
def next? (rehearsal : Rehearsal) : Option Rehearsal :=
  let circle := rehearsal.movers.zipIdx
  (circle.drop rehearsal.turn ++ circle.take rehearsal.turn).findSome? (fun (mover, turn) =>
    (rehearsal.moveOf? mover).map (fun after => { after with turn }))

/-- Makes moves until there is none, or the bound is used up. -/
def settleWithin : Nat → Rehearsal → Rehearsal
  | 0, rehearsal => rehearsal
  | bound + 1, rehearsal =>
      match rehearsal.next? with
      | some after => settleWithin bound after
      | none => rehearsal

/-- A bound on the number of moves: every line still to be read and every call
costs a few moves and two for each listener, and each reader and each lane has a
few moves of its own. -/
def bound (rehearsal : Rehearsal) : Nat :=
  let readers := rehearsal.feed.readers
  let reads (reader : Reader) : Nat :=
    match reader.phase with
    | .unopened =>
        match reader.source streamCommand with
        | .ok session => session.length
        | .error _ => 0
    | _ => reader.session.length
  let units := (readers.map reads).foldl (· + ·) 0 + rehearsal.feed.dispatcher.calls.length
  units * (2 * rehearsal.cast.length + 12) +
    8 * (readers.length + rehearsal.feed.dispatcher.lanes.length)

def settle (rehearsal : Rehearsal) : Rehearsal :=
  settleWithin rehearsal.bound rehearsal

/-- Whether the dispatcher has been told to shut down. -/
def isClosing (rehearsal : Rehearsal) : Bool :=
  rehearsal.feed.dispatcher.closing

def addListener (script : Script) (rehearsal : Rehearsal) : Rehearsal :=
  { (rehearsal.act? (.dispatch .addListener)).getD rehearsal with
    cast := rehearsal.cast ++ [script] }

/-- Removes the listener last added under a name.  The result says whether it was
registered, or is `none` if there never was one. -/
def removeListener (name : String) (rehearsal : Rehearsal) : Rehearsal × Option Bool :=
  match rehearsal.cast.last? name with
  | none => (rehearsal, none)
  | some id =>
      let found := rehearsal.feed.dispatcher.registry.has id
      ((rehearsal.act? (.dispatch (.removeListener id))).getD rehearsal, some found)

/-- Calls listeners one after the other, up to a gated one for which there is no
permit. -/
def tell (event : Event) : List ListenerId → Rehearsal → Rehearsal
  | [], rehearsal => rehearsal
  | id :: ids, rehearsal =>
      let script := rehearsal.cast.script id
      let called : List Heard := if script.gated then [.entered script.name event.kind] else []
      if script.gated && rehearsal.permits == 0 then
        { rehearsal with heard := rehearsal.heard ++ called }
      else
        tell event ids
          { rehearsal with
            permits := if script.gated then rehearsal.permits - 1 else rehearsal.permits
            heard := rehearsal.heard ++ called ++ [.delivered script.name event] }

/-- Reports an event to the listeners without a queue, and gives up where it would
have to wait for a permit. -/
def notify (event : Event) (rehearsal : Rehearsal) : Rehearsal :=
  rehearsal.tell event rehearsal.feed.dispatcher.registry.ids

/-- What an enqueue call comes to when it is given up as soon as it has to wait. -/
inductive Reply
  | accepted
  | full
  | closed
  deriving DecidableEq, Repr

/-- Enqueues a unit, and gives up if there is no room. -/
def enqueue (work : Work) (rehearsal : Rehearsal) : Rehearsal × Reply :=
  let ticket := rehearsal.feed.dispatcher.calls.length
  let begun := ((rehearsal.act? (.dispatch (.enter work))).getD rehearsal).settle
  match begun.feed.dispatcher.status? ticket with
  | some .accepted => (begun, .accepted)
  | some .refused => (begun, .closed)
  | _ => ((begun.act? (.dispatch (.abandon ticket))).getD begun, .full)

/-- Enqueues an object.  One that is of no use as an event is skipped without a
reply, also by a closed dispatcher. -/
def enqueueObject (members : Members) (provider : Option Provider) (rehearsal : Rehearsal) :
    Rehearsal × Option Reply :=
  match Work.ofUsable? members provider rehearsal.now with
  | none => (rehearsal, none)
  | some work =>
      let (after, reply) := rehearsal.enqueue work
      (after, some reply)

/-- Gives permits to the gated listeners together. -/
def release (count : Nat) (rehearsal : Rehearsal) : Rehearsal :=
  { rehearsal with permits := rehearsal.permits + count }.settle

def startReader (source : Source) (provider : Option Provider) (cancelled : Bool)
    (rehearsal : Rehearsal) : Rehearsal :=
  ((rehearsal.act? (.addReader source provider cancelled)).getD rehearsal).settle

/-- Fires the token of a reader. -/
def cancelReader (reader : Nat) (rehearsal : Rehearsal) : Rehearsal :=
  ((rehearsal.act? (.cancel reader)).getD rehearsal).settle

def shutdown (rehearsal : Rehearsal) : Rehearsal :=
  ((rehearsal.act? (.dispatch .shutdown)).getD rehearsal).settle

end Rehearsal

end ReviewFeed
