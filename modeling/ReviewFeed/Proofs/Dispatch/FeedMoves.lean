import ReviewFeed.Dispatch.Feed
import ReviewFeed.Proofs.Dispatch.Invariants

/-!
# The moves of a feed

As with the dispatcher alone, each step of a feed is given as a relation.  A reader
either moves by itself, beside a dispatcher that stays as it is, or turns a line
into an enqueue call.
-/

namespace ReviewFeed

namespace Reader

/-- A move that a reader makes by itself. -/
inductive Move (dispatcher : Dispatcher) (index : Nat) (before : Reader) :
    FeedAction → Reader → Prop
  | openFailed {error : SessionError} :
      before.phase = .unopened → before.source streamCommand = .error error →
      Move dispatcher index before (.openStream index)
        { before with
          acts := before.acts ++ [.opened streamCommand]
          phase := .ended (.error (.session error)) }
  | opened {session : Session} :
      before.phase = .unopened → before.source streamCommand = .ok session →
      Move dispatcher index before (.openStream index)
        { before with
          acts := before.acts ++ [.opened streamCommand], session, phase := .between }
  | stopped (now : Instant) :
      before.phase = .between → before.cancelled = true →
      Move dispatcher index before (.readNext index now) (before.close (.ok before.accepted))
  | exhausted (now : Instant) :
      before.phase = .between → before.cancelled = false → before.session = [] →
      Move dispatcher index before (.readNext index now)
        (Reader.close (.ok before.accepted) { before with acts := before.acts ++ [.read] })
  | skipped (now : Instant) {read : Read} {session : Session} {line : String} :
      before.phase = .between → before.cancelled = false →
      before.session = read :: session → read.reading = .line line →
      Text.isBlankLine line = true →
      Move dispatcher index before (.readNext index now)
        { before with
          acts := before.acts ++ [.read], session, cancelled := read.cancels }
  | sourceEnded (now : Instant) {read : Read} {session : Session} :
      before.phase = .between → before.cancelled = false →
      before.session = read :: session → read.reading = .ended →
      Move dispatcher index before (.readNext index now)
        (Reader.close (.ok before.accepted)
          { before with
            acts := before.acts ++ [.read], session, cancelled := read.cancels })
  | sourceFailed (now : Instant) {read : Read} {session : Session} {error : SessionError} :
      before.phase = .between → before.cancelled = false →
      before.session = read :: session → read.reading = .failed error →
      Move dispatcher index before (.readNext index now)
        (Reader.close (.error (.session error))
          { before with
            acts := before.acts ++ [.read], session, cancelled := read.cancels })
  | paused (now : Instant) {read : Read} {session : Session} :
      before.phase = .between → before.cancelled = false →
      before.session = read :: session → read.reading = .pending →
      Move dispatcher index before (.readNext index now)
        { before with
          acts := before.acts ++ [.read], session, cancelled := read.cancels
          phase := .reading }
  | gaveUp :
      before.phase = .reading → before.cancelled = true →
      Move dispatcher index before (.giveUp index) (before.close (.ok before.accepted))
  | resumed {ticket : Ticket} :
      before.phase = .enqueuing ticket → dispatcher.status? ticket = some .accepted →
      Move dispatcher index before (.resume index)
        { before with phase := .between, accepted := before.accepted + 1 }
  | turnedAway {ticket : Ticket} :
      before.phase = .enqueuing ticket → dispatcher.status? ticket = some .refused →
      Move dispatcher index before (.resume index) (before.close (.error .dispatcherClosed))
  | cancelled :
      Move dispatcher index before (.cancel index) { before with cancelled := true }

end Reader

namespace Feed

/-- One action of a feed. -/
inductive Move (before : Feed) : FeedAction → Feed → Prop
  | dispatch {action : DispatchAction} {dispatcher : Dispatcher} :
      before.dispatcher.Move action dispatcher →
      (∀ ticket, action = .abandon ticket →
        before.readers.any (ownsTicket ticket) = false) →
      Move before (.dispatch action) { before with dispatcher }
  | addReader (source : Source) (provider : Option Provider) (cancelled : Bool) :
      Move before (.addReader source provider cancelled)
        { before with readers := before.readers ++ [.start source provider cancelled] }
  | reader {index : Nat} {reader after : Reader} {action : FeedAction} :
      before.readers[index]? = some reader →
      reader.Move before.dispatcher index action after →
      Move before action (before.setReader index after)
  | enqueue {index : Nat} {reader : Reader} (now : Instant) {read : Read}
      {session : Session} {line : String} :
      before.readers[index]? = some reader → reader.phase = .between →
      reader.cancelled = false → reader.session = read :: session →
      read.reading = .line line → Text.isBlankLine line = false →
      Move before (.readNext index now)
        (before.enqueueLine index
          { reader with
            acts := reader.acts ++ [.read], session, cancelled := read.cancels }
          line now)

theorem Move.ofReadNext? {before after : Feed} {index : Nat} {now : Instant}
    (success : before.readNext? index now = some after) :
    Move before (.readNext index now) after := by
  simp only [readNext?, Option.bind_eq_bind, Option.bind_eq_some_iff] at success
  obtain ⟨reader, found, success⟩ := success
  split at success
  · rename_i between
    split at success
    · rename_i cancelled
      cases success
      exact .reader found (.stopped now between cancelled)
    · rename_i notCancelled
      have going : reader.cancelled = false := by simpa using notCancelled
      split at success
      · rename_i empty
        cases success
        exact .reader found (.exhausted now between going empty)
      · rename_i read session next
        split at success
        · rename_i line isLine
          split at success
          · rename_i blank
            cases success
            exact .reader found (.skipped now between going next isLine blank)
          · rename_i notBlank
            cases success
            exact .enqueue now found between going next isLine (by simpa using notBlank)
        · rename_i ended
          cases success
          exact .reader found (.sourceEnded now between going next ended)
        · rename_i error failed
          cases success
          exact .reader found (.sourceFailed now between going next failed)
        · rename_i pending
          cases success
          exact .reader found (.paused now between going next pending)
  · cases success

theorem Move.ofDispatch? {before after : Feed} {action : DispatchAction}
    (success : before.dispatch? action = some after) :
    Move before (.dispatch action) after := by
  by_cases gives : ∃ ticket, action = .abandon ticket
  · obtain ⟨ticket, rfl⟩ := gives
    simp only [dispatch?] at success
    split at success
    · cases success
    · rename_i free
      simp only [Option.bind_eq_bind, Option.bind_eq_some_iff] at success
      obtain ⟨dispatcher, step, success⟩ := success
      cases success
      refine .dispatch (.ofStep? step) ?_
      intro other same
      cases same
      simpa using free
  · have step : ∃ dispatcher, before.dispatcher.step? action = some dispatcher ∧
        some { before with dispatcher } = some after := by
      cases action with
      | abandon ticket => exact absurd ⟨ticket, rfl⟩ gives
      | _ => simpa only [dispatch?, Option.bind_eq_bind, Option.bind_eq_some_iff] using success
    obtain ⟨dispatcher, step, success⟩ := step
    cases success
    exact .dispatch (.ofStep? step) (fun ticket same => absurd ⟨ticket, same⟩ gives)

theorem Move.ofStep? {before after : Feed} {action : FeedAction}
    (success : before.step? action = some after) : Move before action after := by
  cases action with
  | dispatch action => exact .ofDispatch? success
  | addReader source provider cancelled =>
      cases success
      exact .addReader source provider cancelled
  | readNext index now => exact .ofReadNext? success
  | openStream index =>
      simp only [step?, openStream?, Option.bind_eq_bind, Option.bind_eq_some_iff] at success
      obtain ⟨reader, found, opened, open?, success⟩ := success
      cases success
      simp only [Reader.open?] at open?
      split at open?
      · rename_i unopened
        split at open?
        · rename_i error failed
          cases open?
          exact .reader found (.openFailed unopened failed)
        · rename_i session works
          cases open?
          exact .reader found (.opened unopened works)
      · cases open?
  | giveUp index =>
      simp only [step?, giveUp?, Option.bind_eq_bind, Option.bind_eq_some_iff] at success
      obtain ⟨reader, found, success⟩ := success
      split at success
      · rename_i reading
        split at success
        · rename_i cancelled
          cases success
          exact .reader found (.gaveUp reading cancelled)
        · cases success
      · cases success
  | resume index =>
      simp only [step?, resume?, Option.bind_eq_bind, Option.bind_eq_some_iff] at success
      obtain ⟨reader, found, success⟩ := success
      split at success
      · rename_i ticket enqueuing
        split at success
        · rename_i accepted
          cases success
          exact .reader found (.resumed enqueuing accepted)
        · rename_i refused
          cases success
          exact .reader found (.turnedAway enqueuing refused)
        · cases success
      · cases success
  | cancel index =>
      simp only [step?, cancel?, Option.bind_eq_bind, Option.bind_eq_some_iff] at success
      obtain ⟨reader, found, success⟩ := success
      cases success
      exact .reader found .cancelled

end Feed

end ReviewFeed
