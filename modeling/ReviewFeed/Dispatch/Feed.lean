import ReviewFeed.Dispatch.Dispatcher
import ReviewFeed.Session.Source

/-!
# Event streams feeding a dispatcher

A reader reads the event stream of a server and enqueues every line that is not
blank, without its blank ends.  It looks at its token before each read, and never
drops a line that it has read: while it waits for room only the dispatcher can
turn it away.  A feed is a dispatcher together with its readers, and moves by the
actions of both.
-/

namespace ReviewFeed

def streamCommand : String := "gerrit stream-events"

inductive StreamError
  | session (error : SessionError)
  | dispatcherClosed
  deriving DecidableEq, Repr

def closedMessage : String := "Dispatcher is closed"

def StreamError.message : StreamError → String
  | .session error => "Transport error: " ++ error.message
  | .dispatcherClosed => "Dispatch error: " ++ closedMessage

/-- What a reader is doing. -/
inductive ReaderPhase
  | unopened
  /-- It is about to look at its token and to read. -/
  | between
  /-- It waits for a read that finds nothing. -/
  | reading
  /-- It waits for an enqueue call to return. -/
  | enqueuing (ticket : Ticket)
  /-- It is over, with the number of accepted units or a failure. -/
  | ended (outcome : Except StreamError Nat)

/-- What a reader does to its source, in order. -/
inductive ReaderAct
  | opened (command : String)
  /-- A read begins. -/
  | read
  | enqueued (line : String) (ticket : Ticket)
  | closed
  deriving DecidableEq, Repr

/-- A reader: the provider of its work, its source, the reads to come once it is
open, whether its token has fired, and how many units were accepted. -/
structure Reader where
  provider : Option Provider
  source : Source
  session : Session
  cancelled : Bool
  phase : ReaderPhase
  accepted : Nat
  acts : List ReaderAct

namespace Reader

/-- A reader that has not begun. -/
def start (source : Source) (provider : Option Provider) (cancelled : Bool) : Reader :=
  { provider, source, session := [], cancelled, phase := .unopened, accepted := 0, acts := [] }

def close (outcome : Except StreamError Nat) (reader : Reader) : Reader :=
  { reader with phase := .ended outcome, acts := reader.acts ++ [.closed] }

/-- Opens the event stream; if that fails there is nothing to close. -/
def open? (reader : Reader) : Option Reader :=
  match reader.phase with
  | .unopened =>
      let opened := { reader with acts := reader.acts ++ [ReaderAct.opened streamCommand] }
      match reader.source streamCommand with
      | .error error => some { opened with phase := .ended (.error (.session error)) }
      | .ok session => some { opened with session, phase := .between }
  | _ => none

end Reader

/-- A dispatcher and the readers that feed it. -/
structure Feed where
  dispatcher : Dispatcher
  readers : List Reader

inductive FeedAction
  | dispatch (action : DispatchAction)
  /-- A reader that has not begun is added. -/
  | addReader (source : Source) (provider : Option Provider) (cancelled : Bool)
  | openStream (reader : Nat)
  /-- A reader looks at its token and reads; the instant is that of the unit it
  makes. -/
  | readNext (reader : Nat) (now : Instant)
  /-- A reader whose read finds nothing notices its token. -/
  | giveUp (reader : Nat)
  /-- A reader goes on after its enqueue call has returned. -/
  | resume (reader : Nat)
  | cancel (reader : Nat)

namespace Feed

def setReader (index : Nat) (reader : Reader) (feed : Feed) : Feed :=
  { feed with readers := feed.readers.set index reader }

/-- Whether a reader waits for this enqueue call. -/
def ownsTicket (ticket : Ticket) (reader : Reader) : Bool :=
  match reader.phase with
  | .enqueuing other => other == ticket
  | _ => false

/-- A move of the dispatcher.  The enqueue calls of readers are not given up. -/
def dispatch? (feed : Feed) (action : DispatchAction) : Option Feed := do
  match action with
  | .abandon ticket =>
      if feed.readers.any (ownsTicket ticket) then none
      else
        let dispatcher ← feed.dispatcher.abandon? ticket
        some { feed with dispatcher }
  | action =>
      let dispatcher ← feed.dispatcher.step? action
      some { feed with dispatcher }

/-- A reader makes a unit of a line and begins to enqueue it. -/
def enqueueLine (feed : Feed) (index : Nat) (reader : Reader) (line : String) (now : Instant) :
    Feed :=
  let text := Text.trim line
  let ticket := feed.dispatcher.calls.length
  let dispatcher := feed.dispatcher.enter (.ofLine text reader.provider now)
  setReader index
    { reader with phase := .enqueuing ticket, acts := reader.acts ++ [.enqueued text ticket] }
    { feed with dispatcher }

/-- A reader between two reads ends if its token has fired, and else reads. -/
def readNext? (feed : Feed) (index : Nat) (now : Instant) : Option Feed := do
  let reader ← feed.readers[index]?
  match reader.phase with
  | .between =>
      if reader.cancelled then some (feed.setReader index (reader.close (.ok reader.accepted)))
      else
        let begun := { reader with acts := reader.acts ++ [ReaderAct.read] }
        match reader.session with
        | [] => some (feed.setReader index (begun.close (.ok reader.accepted)))
        | read :: session =>
            let found := { begun with session, cancelled := read.cancels }
            match read.reading with
            | .line line =>
                if Text.isBlankLine line then some (feed.setReader index found)
                else some (feed.enqueueLine index found line now)
            | .ended => some (feed.setReader index (found.close (.ok reader.accepted)))
            | .failed error =>
                some (feed.setReader index (found.close (.error (.session error))))
            | .pending => some (feed.setReader index { found with phase := .reading })
  | _ => none

/-- A reader gives up a read that finds nothing. -/
def giveUp? (feed : Feed) (index : Nat) : Option Feed := do
  let reader ← feed.readers[index]?
  match reader.phase with
  | .reading =>
      if reader.cancelled then some (feed.setReader index (reader.close (.ok reader.accepted)))
      else none
  | _ => none

/-- A reader whose unit was accepted goes on; one whose unit was refused ends. -/
def resume? (feed : Feed) (index : Nat) : Option Feed := do
  let reader ← feed.readers[index]?
  match reader.phase with
  | .enqueuing ticket =>
      match feed.dispatcher.status? ticket with
      | some .accepted =>
          some (feed.setReader index
            { reader with phase := .between, accepted := reader.accepted + 1 })
      | some .refused => some (feed.setReader index (reader.close (.error .dispatcherClosed)))
      | _ => none
  | _ => none

/-- Fires the token of a reader. -/
def cancel? (feed : Feed) (index : Nat) : Option Feed := do
  let reader ← feed.readers[index]?
  some (feed.setReader index { reader with cancelled := true })

def openStream? (feed : Feed) (index : Nat) : Option Feed := do
  let reader ← feed.readers[index]?
  let opened ← reader.open?
  some (feed.setReader index opened)

/-- The state after an action, or `none` if the action is not possible now. -/
def step? (feed : Feed) : FeedAction → Option Feed
  | .dispatch action => feed.dispatch? action
  | .addReader source provider cancelled =>
      some { feed with readers := feed.readers ++ [.start source provider cancelled] }
  | .openStream reader => feed.openStream? reader
  | .readNext reader now => feed.readNext? reader now
  | .giveUp reader => feed.giveUp? reader
  | .resume reader => feed.resume? reader
  | .cancel reader => feed.cancel? reader

/-- The state after a run of actions, or `none` if one of them is not possible. -/
def run? (feed : Feed) (actions : List FeedAction) : Option Feed :=
  actions.foldlM step? feed

/-- A feed without readers and listeners. -/
def start (capacity workers : Nat) (routing : String → Nat) : Feed :=
  { dispatcher := .start capacity workers routing, readers := [] }

end Feed

end ReviewFeed
