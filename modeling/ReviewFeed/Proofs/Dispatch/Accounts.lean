import ReviewFeed.Proofs.Dispatch.Readers
import ReviewFeed.Proofs.Query.Course

/-!
# The account of a reader

A reader that is over has made some reads after which it went on, and at most one more,
at which it stopped.  The lines of the former that are not blank are exactly its
accepted units.  It opens its stream once, closes it once behind everything else, and
begins no read once its token has fired.
-/

namespace ReviewFeed

private theorem forall₂_concat {α β : Type} {Related : α → β → Prop} {items : List α}
    {others : List β} {item : α} {other : β}
    (all : List.Forall₂ Related (items ++ [item]) (others ++ [other])) :
    List.Forall₂ Related items others ∧ Related item other := by
  have same : items.length = others.length := by simpa using all.length_eq
  constructor
  · have front := List.forall₂_take_append _ _ _ all
    rwa [← same, List.take_left] at front
  · have back := List.forall₂_drop_append _ _ _ all
    rw [← same, List.drop_left] at back
    cases back with
    | cons related _ => exact related

theorem Read.filterMap_visitLine? (reads : Session) :
    (reads.filterMap Read.line?).filter (fun line => !Text.isBlankLine line) =
      reads.filterMap Read.visitLine? := by
  rw [List.filter_filterMap]
  refine List.filterMap_congr (fun read _ => ?_)
  unfold line? visitLine?
  cases read.reading with
  | line line => cases blank : Text.isBlankLine line <;> simp [Option.filter, blank]
  | ended | failed _ | pending => rfl

namespace Reader

/-- What a reader does about its reads, and the calls that it makes: one for each line
that is not blank, at once after the read. -/
inductive Course : Session → List Ticket → List ReaderAct → Prop
  | start : Course [] [] []
  | idle {reads : Session} {tickets : List Ticket} {acts : List ReaderAct} {read : Read} :
      Course reads tickets acts → read.visitLine? = none →
      Course (reads ++ [read]) tickets (acts ++ [.read])
  | worked {reads : Session} {tickets : List Ticket} {acts : List ReaderAct} {read : Read}
      {line : String} (ticket : Ticket) :
      Course reads tickets acts → read.visitLine? = some line →
      Course (reads ++ [read]) (tickets ++ [ticket])
        (acts ++ [.read] ++ [.enqueued (Text.trim line) ticket])

/-- How a reader stops: with the read that it makes then, if any, and with an outcome. -/
inductive Stops (reader : Reader) : Session → Except StreamError Nat → Prop
  /-- The token has fired before the next read. -/
  | cancelled : reader.cancelled = true → Stops reader [] (.ok reader.tickets.length)
  /-- The token fires while a read waits. -/
  | givenUp {read : Read} : reader.cancelled = true → read.reading = .pending →
      Stops reader [read] (.ok reader.tickets.length)
  | ended {read : Read} : read.reading = .ended → Stops reader [read] (.ok reader.tickets.length)
  | failed {read : Read} {error : SessionError} : read.reading = .failed error →
      Stops reader [read] (.error (.session error))
  | refused {read : Read} {line : String} : read.visitLine? = some line →
      Stops reader [read] (.error .dispatcherClosed)

/-- What a reader has done since its session began: the reads after which it went on,
the one that it is busy with or has stopped at, and those that it has not made. -/
structure Ledger (reader : Reader) (passed last unread : Session) (acts : List ReaderAct) :
    Prop where
  opened : reader.source streamCommand = .ok reader.available
  whole : reader.available ++ [.atEnd] = passed ++ last ++ unread
  course : Course (passed ++ last) reader.tickets acts
  lines : ∀ read ∈ passed, ∃ line, read.reading = .line line

/-- Where a reader stands, by its phase. -/
def Stands (reader : Reader) : ReaderPhase → Prop
  | .unopened => reader.acts = [] ∧ reader.accepted = 0
  | .between => ∃ passed acts,
      Ledger reader passed [] (reader.session ++ [.atEnd]) acts ∧
      reader.acts = .opened streamCommand :: acts ∧ reader.accepted = reader.tickets.length
  | .reading => ∃ passed read acts,
      Ledger reader passed [read] (reader.session ++ [.atEnd]) acts ∧
      reader.acts = .opened streamCommand :: acts ∧ reader.accepted = reader.tickets.length ∧
      read.reading = .pending
  | .enqueuing _ => ∃ passed read acts,
      Ledger reader passed [read] (reader.session ++ [.atEnd]) acts ∧
      reader.acts = .opened streamCommand :: acts ∧
      reader.accepted + 1 = reader.tickets.length ∧ ∃ line, read.visitLine? = some line
  | .ended outcome =>
      (∃ error, reader.source streamCommand = .error error ∧
        outcome = .error (.session error) ∧ reader.acts = [.opened streamCommand]) ∨
      ∃ passed last unread acts, Ledger reader passed last unread acts ∧
        reader.acts = .opened streamCommand :: acts ++ [.closed] ∧
        (unread = reader.session ++ [.atEnd] ∨ unread = [] ∧ reader.session = []) ∧
        Stops reader last outcome

section Ledgers

variable {before after : Reader} {passed last unread : Session} {read : Read}
  {acts : List ReaderAct}

theorem Ledger.keep (ledger : Ledger before passed last unread acts)
    (source : after.source = before.source) (tickets : after.tickets = before.tickets) :
    Ledger after passed last unread acts := by
  have available : after.available = before.available := by
    rw [Reader.available, Reader.available, source]
  refine ⟨?_, ?_, ?_, ledger.lines⟩
  · rw [source, available]
    exact ledger.opened
  · rw [available]
    exact ledger.whole
  · rw [tickets]
    exact ledger.course

/-- A read that yields nothing to enqueue. -/
theorem Ledger.idle (ledger : Ledger before passed [] (read :: unread) acts)
    (unvisited : read.visitLine? = none) :
    Ledger before passed [read] unread (acts ++ [.read]) where
  opened := ledger.opened
  whole := by simp [ledger.whole]
  course := by
    have course := ledger.course
    rw [List.append_nil] at course
    exact course.idle unvisited
  lines := ledger.lines

/-- A read after which the reader goes on. -/
theorem Ledger.goOn (ledger : Ledger before passed [read] unread acts)
    (isLine : ∃ line, read.reading = .line line) :
    Ledger before (passed ++ [read]) [] unread acts where
  opened := ledger.opened
  whole := by simp [ledger.whole]
  course := by
    rw [List.append_nil]
    exact ledger.course
  lines := by
    intro other member
    rcases List.mem_append.mp member with old | new
    · exact ledger.lines other old
    · rw [List.mem_singleton.mp new]
      exact isLine

end Ledgers

/-- A reader that stops closes its session. -/
theorem stands_close {before after : Reader} {passed last unread : Session}
    {acts : List ReaderAct} {outcome : Except StreamError Nat}
    (ledger : Ledger before passed last unread acts)
    (source : after.source = before.source)
    (tickets : after.tickets = before.tickets)
    (done : after.acts = .opened streamCommand :: acts ++ [.closed])
    (rest : unread = after.session ++ [.atEnd] ∨ unread = [] ∧ after.session = [])
    (stops : Stops after last outcome) : Stands after (.ended outcome) :=
  .inr ⟨passed, last, unread, acts, ledger.keep source tickets, done, rest, stops⟩

theorem Stops.cancel {reader : Reader} {last : Session} {outcome : Except StreamError Nat}
    (stops : Stops reader last outcome) :
    Stops { reader with cancelled := true } last outcome := by
  cases stops with
  | cancelled => exact .cancelled rfl
  | givenUp _ pending => exact .givenUp rfl pending
  | ended ended => exact .ended ended
  | failed failed => exact .failed failed
  | refused visited => exact .refused visited

theorem Stands.cancel {reader : Reader} {phase : ReaderPhase} (stands : Stands reader phase) :
    Stands { reader with cancelled := true } phase := by
  cases phase with
  | unopened => exact stands
  | between =>
      obtain ⟨passed, acts, ledger, rest⟩ := stands
      exact ⟨passed, acts, ledger.keep rfl rfl, rest⟩
  | reading | enqueuing =>
      obtain ⟨passed, read, acts, ledger, rest⟩ := stands
      exact ⟨passed, read, acts, ledger.keep rfl rfl, rest⟩
  | ended outcome =>
      rcases stands with notOpened | ⟨passed, last, unread, acts, ledger, same, rest, stops⟩
      · exact .inl notOpened
      · exact stands_close ledger rfl rfl same rest stops.cancel

theorem Move.keepsStands {dispatcher : Dispatcher} {index : Nat} {before after : Reader}
    {action : FeedAction} (stands : Stands before before.phase)
    (move : before.Move dispatcher index action after) : Stands after after.phase := by
  have tickets := move.same.2
  cases move with
  | openFailed unopened failed =>
      rw [unopened] at stands
      exact .inl ⟨_, failed, rfl, by simp [stands.1]⟩
  | @opened session unopened works =>
      rw [unopened] at stands
      obtain ⟨acts, accepted⟩ := stands
      have none : before.tickets = [] := by
        rw [Reader.tickets, acts]
        rfl
      rw [none] at tickets
      refine ⟨[], [], ⟨?_, ?_, ?_, by simp⟩, by simp [acts], ?_⟩
      · simp only [available, works]
      · simp only [available, works]
        rfl
      · rw [tickets]
        exact .start
      · rw [tickets]
        exact accepted
  | stopped now between cancelled =>
      rw [between] at stands
      obtain ⟨passed, acts, ledger, same, accepted⟩ := stands
      refine stands_close ledger rfl tickets (by simp [close, same]) (.inl rfl) ?_
      rw [accepted, ← tickets]
      exact .cancelled cancelled
  | exhausted now between _ empty =>
      rw [between] at stands
      obtain ⟨passed, acts, ledger, same, accepted⟩ := stands
      rw [empty] at ledger
      refine stands_close (ledger.idle rfl) rfl tickets (by simp [close, same])
        (.inr ⟨rfl, empty⟩) ?_
      rw [accepted, ← tickets]
      exact .ended rfl
  | skipped now between _ next isLine blank =>
      rw [between] at stands
      obtain ⟨passed, acts, ledger, same, accepted⟩ := stands
      rw [next] at ledger
      have goesOn := (ledger.idle (Read.visitLine?_blank isLine blank)).goOn ⟨_, isLine⟩
      rw [between] at tickets ⊢
      exact ⟨_, _, goesOn.keep rfl tickets, by simp [same], by rw [tickets]; exact accepted⟩
  | sourceEnded now between _ next ended =>
      rw [between] at stands
      obtain ⟨passed, acts, ledger, same, accepted⟩ := stands
      rw [next] at ledger
      have read := ledger.idle (Read.visitLine?_no_line _ (by simp [ended]))
      refine stands_close read rfl tickets (by simp [close, same]) (.inl rfl) ?_
      rw [accepted, ← tickets]
      exact .ended ended
  | sourceFailed now between _ next failed =>
      rw [between] at stands
      obtain ⟨passed, acts, ledger, same, _⟩ := stands
      rw [next] at ledger
      have read := ledger.idle (Read.visitLine?_no_line _ (by simp [failed]))
      exact stands_close read rfl tickets (by simp [close, same]) (.inl rfl) (.failed failed)
  | paused now between _ next pending =>
      rw [between] at stands
      obtain ⟨passed, acts, ledger, same, accepted⟩ := stands
      rw [next] at ledger
      have read := ledger.idle (Read.visitLine?_no_line _ (by simp [pending]))
      exact ⟨passed, _, _, read.keep rfl tickets, by simp [same], by rw [tickets]; exact accepted,
        pending⟩
  | gaveUp reading cancelled =>
      rw [reading] at stands
      obtain ⟨passed, read, acts, ledger, same, accepted, pending⟩ := stands
      refine stands_close ledger rfl tickets (by simp [close, same]) (.inl rfl) ?_
      rw [accepted, ← tickets]
      exact .givenUp cancelled pending
  | resumed enqueuing _ =>
      rw [enqueuing] at stands
      obtain ⟨passed, read, acts, ledger, same, accepted, line, visited⟩ := stands
      have isLine := (Read.visitLine?_eq_some.mp visited).1
      exact ⟨_, acts, (ledger.goOn ⟨line, isLine⟩).keep rfl rfl, same, accepted⟩
  | turnedAway enqueuing _ =>
      rw [enqueuing] at stands
      obtain ⟨passed, read, acts, ledger, same, _, line, visited⟩ := stands
      exact stands_close ledger rfl tickets (by simp [close, same]) (.inl rfl)
        (.refused visited)
  | cancelled => exact stands.cancel

/-- A read of a line that is not blank, and the call for it. -/
theorem Stands.enqueue {reader : Reader} {read : Read} {session : Session} {line : String}
    {ticket : Ticket} (stands : Stands reader reader.phase) (between : reader.phase = .between)
    (next : reader.session = read :: session) (isLine : read.reading = .line line)
    (notBlank : Text.isBlankLine line = false) :
    Stands
      { reader with
        acts := reader.acts ++ [.read] ++ [.enqueued (Text.trim line) ticket], session
        cancelled := read.cancels, phase := .enqueuing ticket } (.enqueuing ticket) := by
  rw [between] at stands
  obtain ⟨passed, acts, ledger, same, accepted⟩ := stands
  have visited : read.visitLine? = some line := Read.visitLine?_eq_some.mpr ⟨isLine, notBlank⟩
  have tickets : Reader.tickets
      { reader with
        acts := reader.acts ++ [.read] ++ [.enqueued (Text.trim line) ticket], session
        cancelled := read.cancels, phase := .enqueuing ticket } =
      reader.tickets ++ [ticket] := by
    simp [Reader.tickets]
  refine ⟨passed, read, acts ++ [.read] ++ [.enqueued (Text.trim line) ticket],
    ⟨ledger.opened, ?_, ?_, ledger.lines⟩, ?_, ?_, line, visited⟩
  · have whole := ledger.whole
    rw [next] at whole
    simpa [available] using whole
  · rw [tickets]
    have course := ledger.course
    rw [List.append_nil] at course
    exact course.worked ticket visited
  · simp [same]
  · rw [tickets]
    simp [accepted]

/-- The accepted units of a reader, in the order of their acceptance. -/
def acceptedBy (dispatcher : Dispatcher) (reader : Reader) : List Ticket :=
  (acceptedTickets dispatcher.journal).filter (fun ticket => ticket ∈ reader.tickets)

theorem Ledger.workLines {reader : Reader} {passed last unread : Session}
    {acts : List ReaderAct} {outcome : Except StreamError Nat}
    (ledger : Ledger reader passed last unread acts)
    (ended : reader.phase = .ended outcome)
    (rest : unread = reader.session ++ [.atEnd] ∨ unread = [] ∧ reader.session = []) :
    reader.workLines = (passed ++ last).filterMap Read.visitLine? := by
  have opened : reader.phase ≠ .unopened := by simp [ended]
  have whole := ledger.whole
  rcases rest with rfl | ⟨rfl, empty⟩
  · -- The reads made are those that the reader has taken from its session.
    rw [← List.append_assoc] at whole
    have consumed := consumed_eq opened (List.append_cancel_right whole)
    rw [Reader.workLines, linesRead, consumed, Read.filterMap_visitLine?]
  · -- The last read found the end behind the session, and yields no line either.
    have consumed := consumed_eq opened
      (show reader.available = reader.available ++ reader.session by simp [empty])
    rw [List.append_nil] at whole
    rw [Reader.workLines, linesRead, consumed, Read.filterMap_visitLine?, ← whole,
      List.filterMap_append]
    exact (List.append_nil _).symm

/-- Only a reader that was turned away has made a call for its last read. -/
theorem Stops.lines {reader : Reader} {last : Session} {outcome : Except StreamError Nat}
    (stops : Stops reader last outcome) :
    (outcome ≠ .error .dispatcherClosed ∧ last.filterMap Read.visitLine? = []) ∨
      outcome = .error .dispatcherClosed ∧ ∃ line, last.filterMap Read.visitLine? = [line] := by
  cases stops with
  | cancelled => exact .inl ⟨by simp, rfl⟩
  | givenUp _ found | ended found | failed found =>
      refine .inl ⟨by simp, ?_⟩
      rw [List.filterMap_cons_none (Read.visitLine?_no_line _ (by simp [found]))]
      rfl
  | @refused read line visited =>
      refine .inr ⟨rfl, line, ?_⟩
      rw [List.filterMap_cons_some visited]
      rfl

theorem acceptedBy_eq {dispatcher : Dispatcher} {reader : Reader} {accepted : List Ticket}
    (sound : dispatcher.Sound) (order : accepted.Sublist (acceptedTickets dispatcher.journal))
    (mine : accepted ⊆ reader.tickets)
    (only : ∀ ticket ∈ reader.tickets, ticket ∈ acceptedTickets dispatcher.journal →
      ticket ∈ accepted) : reader.acceptedBy dispatcher = accepted := by
  refine eq_of_sublist_of_subset ?_ (sound.once.filter _) ?_
  · have filtered := order.filter (fun ticket => decide (ticket ∈ reader.tickets))
    rwa [List.filter_eq_self.mpr (fun ticket member => decide_eq_true (mine member))] at filtered
  · intro ticket member
    obtain ⟨inJournal, isMine⟩ := List.mem_filter.mp member
    exact only ticket (of_decide_eq_true isMine) inJournal

/-- All calls of a reader that was not turned away are accepted. -/
theorem Traced.acceptedBy {dispatcher : Dispatcher} {reader : Reader}
    {outcome : Except StreamError Nat} (traced : Traced dispatcher reader)
    (sound : dispatcher.Sound) (ended : reader.phase = .ended outcome)
    (through : outcome ≠ .error .dispatcherClosed) :
    reader.acceptedBy dispatcher = reader.tickets := by
  have settled := traced.settled
  rw [ended] at settled
  have order : reader.tickets.Sublist (acceptedTickets dispatcher.journal) := by
    match outcome with
    | .error .dispatcherClosed => exact absurd rfl through
    | .error (.session error) => exact settled
    | .ok count => exact settled
  exact acceptedBy_eq sound order (List.Subset.refl _) (fun _ member _ => member)

/-- All calls of a reader that was turned away are accepted but for its last one. -/
theorem Traced.acceptedBy_of_closed {dispatcher : Dispatcher} {reader : Reader}
    (traced : Traced dispatcher reader) (sound : dispatcher.Sound)
    (ended : reader.phase = .ended (.error .dispatcherClosed)) :
    ∃ ticket, reader.tickets = reader.acceptedBy dispatcher ++ [ticket] ∧
      dispatcher.status? ticket = some .refused := by
  have settled := traced.settled
  rw [ended] at settled
  obtain ⟨earlier, ticket, tickets, order, refused⟩ := settled
  refine ⟨ticket, ?_, refused⟩
  rw [acceptedBy_eq sound order]
  · exact tickets
  · rw [tickets]
    exact List.subset_append_left _ _
  · intro other mine accepted
    rw [tickets, List.mem_append, List.mem_singleton] at mine
    rcases mine with old | rfl
    · exact old
    · rw [sound.mem_accepted_iff, refused] at accepted
      cases accepted

/-- A reader whose token has fired begins no further read. -/
theorem Move.keepsStopped {dispatcher : Dispatcher} {index : Nat} {before after : Reader}
    {action : FeedAction} (fired : before.cancelled = true)
    (move : before.Move dispatcher index action after) :
    after.cancelled = true ∧ ∃ acts, after.acts = before.acts ++ acts ∧ .read ∉ acts := by
  cases move with
  | openFailed | opened => exact ⟨fired, _, rfl, by simp⟩
  | stopped | gaveUp | turnedAway => exact ⟨fired, _, rfl, by simp⟩
  | exhausted _ _ unfired | skipped _ _ unfired | sourceEnded _ _ unfired
  | sourceFailed _ _ unfired | paused _ _ unfired =>
      rw [fired] at unfired
      cases unfired
  | resumed => exact ⟨fired, [], (List.append_nil _).symm, by simp⟩
  | cancelled => exact ⟨rfl, [], (List.append_nil _).symm, by simp⟩

end Reader

namespace Feed

theorem Move.keepsStands {before after : Feed} {action : FeedAction}
    (stand : ∀ reader ∈ before.readers, reader.Stands reader.phase)
    (move : Move before action after) :
    ∀ reader ∈ after.readers, reader.Stands reader.phase := by
  intro reader member
  cases move with
  | dispatch => exact stand reader member
  | addReader source provider cancelled =>
      rcases List.mem_append.mp member with old | new
      · exact stand reader old
      · rw [List.mem_singleton.mp new]
        exact ⟨rfl, rfl⟩
  | reader found move =>
      rcases List.mem_or_eq_of_mem_set member with old | rfl
      · exact stand reader old
      · exact move.keepsStands (stand _ (List.mem_of_getElem? found))
  | enqueue now found between _ next isLine notBlank =>
      rcases List.mem_or_eq_of_mem_set member with old | rfl
      · exact stand reader old
      · exact (stand _ (List.mem_of_getElem? found)).enqueue between next isLine notBlank

/-- The reader in some place has had its token fired, and begins no further read. -/
def StoppedAt (index : Nat) (acts : List ReaderAct) (feed : Feed) : Prop :=
  ∃ reader, feed.readers[index]? = some reader ∧ reader.cancelled = true ∧
    ∃ later, reader.acts = acts ++ later ∧ .read ∉ later

theorem Move.keepsStopped {index : Nat} {acts : List ReaderAct} {before after : Feed}
    {action : FeedAction} (stopped : StoppedAt index acts before)
    (move : Move before action after) : StoppedAt index acts after := by
  obtain ⟨reader, atPlace, fired, later, same, quiet⟩ := stopped
  have inside := (List.getElem?_eq_some_iff.mp atPlace).1
  cases move with
  | dispatch => exact ⟨reader, atPlace, fired, later, same, quiet⟩
  | addReader =>
      exact ⟨reader, (List.getElem?_append_left inside).trans atPlace, fired, later, same, quiet⟩
  | @reader place old new _ found move =>
      by_cases here : place = index
      · subst here
        obtain rfl := Option.some.inj (found.symm.trans atPlace)
        obtain ⟨stays, more, grown, silent⟩ := move.keepsStopped fired
        refine ⟨new, by simp [setReader, inside], stays, later ++ more, ?_, ?_⟩
        · rw [grown, same, List.append_assoc]
        · rw [List.mem_append, not_or]
          exact ⟨quiet, silent⟩
      · exact ⟨reader, (List.getElem?_set_ne here).trans atPlace, fired, later, same, quiet⟩
  | @enqueue place old now read session line found _ unfired =>
      have elsewhere : place ≠ index := by
        rintro rfl
        obtain rfl := Option.some.inj (found.symm.trans atPlace)
        rw [fired] at unfired
        cases unfired
      exact ⟨reader, (List.getElem?_set_ne elsewhere).trans atPlace, fired, later, same, quiet⟩

/-- A reader that is ended has opened its stream once.  If that failed, it has done
nothing else, and this is its outcome.  Otherwise it has made its reads one after the
other, at once enqueued each line that is not blank, without its blank ends, and closed
its stream once behind all of this.  The units accepted from it are those of the lines
that it has read, in order and without gaps; only when the dispatcher turned it away,
its last line was refused.  It ended successfully, with the number of accepted units,
at the end of its stream or cancelled, and with a failure at the read that failed.
Once its token had fired it began no read. -/
theorem every_line_accounted {capacity workers : Nat} {routing : String → Nat}
    {actions : List FeedAction} {feed : Feed} {index : Nat} {reader : Reader}
    {outcome : Except StreamError Nat}
    (run : (start capacity workers routing).run? actions = some feed)
    (found : feed.readers[index]? = some reader) (ended : reader.phase = .ended outcome) :
    (∀ error, reader.source streamCommand = .error error →
      outcome = .error (.session error) ∧ reader.acts = [.opened streamCommand]) ∧
    (∀ session, reader.source streamCommand = .ok session →
      ∃ passed last unread acts, session ++ [.atEnd] = passed ++ last ++ unread ∧
        reader.acts = .opened streamCommand :: acts ++ [.closed] ∧
        Reader.Course (passed ++ last) reader.tickets acts ∧
        (∀ read ∈ passed, ∃ line, read.reading = .line line) ∧
        reader.Stops last outcome ∧
        List.Forall₂ (Reader.MadeOf feed.dispatcher reader.provider)
          (passed.filterMap Read.visitLine?) (reader.acceptedBy feed.dispatcher) ∧
        (outcome ≠ .error .dispatcherClosed →
          reader.tickets = reader.acceptedBy feed.dispatcher) ∧
        (outcome = .error .dispatcherClosed → ∃ line ticket,
          last.filterMap Read.visitLine? = [line] ∧
          reader.tickets = reader.acceptedBy feed.dispatcher ++ [ticket] ∧
          Reader.MadeOf feed.dispatcher reader.provider line ticket ∧
          feed.dispatcher.status? ticket = some .refused)) ∧
    (∀ early late middle before, actions = early ++ late →
      (start capacity workers routing).run? early = some middle →
      middle.readers[index]? = some before → before.cancelled = true →
        ∃ acts, reader.acts = before.acts ++ acts ∧ .read ∉ acts) := by
  have sound := run?_keepsSound (sound_start capacity workers routing) run
  have member := List.mem_of_getElem? found
  have traced := sound.readers reader member
  have stands : reader.Stands (.ended outcome) := by
    rw [← ended]
    refine run?_preserves (fun state => ∀ reader ∈ state.readers, reader.Stands reader.phase)
      (fun _ stand move => move.keepsStands stand) ?_ run reader member
    simp [start]
  refine ⟨?_, ?_, ?_⟩
  · intro error failed
    rcases stands with ⟨other, otherFailed, same, acts⟩ |
      ⟨passed, last, unread, acts, ledger, _⟩
    · obtain rfl := Except.error.inj (failed.symm.trans otherFailed)
      exact ⟨same, acts⟩
    · rw [ledger.opened] at failed
      cases failed
  · intro session opened
    rcases stands with ⟨error, failed, _⟩ |
      ⟨passed, last, unread, acts, ledger, same, rest, stops⟩
    · rw [opened] at failed
      cases failed
    obtain rfl := Except.ok.inj (opened.symm.trans ledger.opened)
    refine ⟨passed, last, unread, acts, ledger.whole, same, ledger.course, ledger.lines,
      stops, ?_⟩
    have made := traced.lines
    rw [ledger.workLines ended rest, List.filterMap_append] at made
    rcases stops.lines with ⟨through, none⟩ | ⟨rfl, line, single⟩
    · have accepted := traced.acceptedBy sound.dispatcher ended through
      rw [none, List.append_nil, ← accepted] at made
      exact ⟨made, fun _ => accepted.symm, fun closed => absurd closed through⟩
    · obtain ⟨ticket, tickets, refused⟩ := traced.acceptedBy_of_closed sound.dispatcher ended
      rw [single, tickets] at made
      obtain ⟨front, back⟩ := forall₂_concat made
      exact ⟨front, fun through => absurd rfl through,
        fun _ => ⟨line, ticket, single, tickets, back, refused⟩⟩
  · rintro early late middle before rfl runEarly foundBefore fired
    obtain ⟨other, runOther, runLate⟩ := run?_append.mp run
    obtain rfl := Option.some.inj (runEarly.symm.trans runOther)
    obtain ⟨last, lastFound, _, acts, same, quiet⟩ :=
      run?_preserves (StoppedAt index before.acts)
        (fun _ stopped move => move.keepsStopped stopped)
        ⟨before, foundBefore, fired, [], (List.append_nil _).symm, by simp⟩ runLate
    obtain rfl := Option.some.inj (found.symm.trans lastFound)
    exact ⟨acts, same, quiet⟩

/-- A stream with two lines between blanks and a blank one, and more to come. -/
def spacedStream : Source := fun _ =>
  .ok [.ofLine " one ", .ofLine " ", .ofLine "two ", .ofLine "three"]

/-- A run in which a reader waits for room with its second line when its token fires and
the dispatcher is shut down. -/
def turnedAwayRun : List FeedAction :=
  let now := Instant.epoch
  let ask (ticket : Ticket) : List FeedAction :=
    [.dispatch (.look ticket), .dispatch (.send ticket)]
  [.addReader spacedStream none false, .openStream 0, .readNext 0 now] ++ ask 0 ++
    [.dispatch (.deliver 0), .resume 0, .readNext 0 now, .readNext 0 now] ++ ask 1 ++
    [.cancel 0, .dispatch .shutdown, .dispatch (.look 1), .resume 0]

theorem every_line_accounted_turned_away :
    ∃ feed reader, (start 1 1 (fun _ => 0)).run? turnedAwayRun = some feed ∧
      feed.readers[0]? = some reader ∧
      reader.phase = .ended (.error .dispatcherClosed) ∧
      reader.acts = [.opened streamCommand, .read, .enqueued "one" 0, .read, .read,
        .enqueued "two" 1, .closed] ∧
      reader.acceptedBy feed.dispatcher = [0] ∧
      ∃ line ticket, reader.tickets = [0] ++ [ticket] ∧
        Reader.MadeOf feed.dispatcher none line ticket ∧
        feed.dispatcher.status? ticket = some .refused := by
  obtain ⟨feed, reader, run, found, ended, acts, accepted, source, provider⟩ :
      ∃ feed reader, (start 1 1 (fun _ => 0)).run? turnedAwayRun = some feed ∧
        feed.readers[0]? = some reader ∧
        reader.phase = .ended (.error .dispatcherClosed) ∧
        reader.acts = [.opened streamCommand, .read, .enqueued "one" 0, .read, .read,
          .enqueued "two" 1, .closed] ∧
        reader.acceptedBy feed.dispatcher = [0] ∧ reader.source = spacedStream ∧
        reader.provider = none :=
    ⟨_, _, rfl, rfl, rfl, by decide +kernel, rfl, rfl, rfl⟩
  refine ⟨feed, reader, run, found, ended, acts, accepted, ?_⟩
  obtain ⟨_, opened, _⟩ := every_line_accounted run found ended
  obtain ⟨_, _, _, _, _, _, _, _, _, _, _, closed⟩ := opened _ (by rw [source]; rfl)
  obtain ⟨line, ticket, _, tickets, made, refused⟩ := closed rfl
  rw [accepted] at tickets
  rw [provider] at made
  exact ⟨line, ticket, tickets, made, refused⟩

end Feed

end ReviewFeed
