import Mathlib.Data.List.Forall2
import Mathlib.Data.List.Perm.Subperm
import ReviewFeed.Proofs.Dispatch.FeedMoves
import ReviewFeed.Proofs.Dispatch.Performances

/-!
# What readers do with their lines

A reader makes one unit of every line that is not blank, in order, and does not
take the next line before its call has returned.  So the accepted units of a reader
are accepted in the order of its lines.
-/

namespace ReviewFeed

/-- A part of a list without repetitions that has all its members is the whole. -/
theorem eq_of_sublist_of_subset {α : Type} {part whole : List α} (order : part.Sublist whole)
    (once : whole.Nodup) (inside : whole ⊆ part) : whole = part :=
  (order.eq_of_length_le (List.subperm_of_subset once inside).length_le).symm

def Read.line? (read : Read) : Option String :=
  match read.reading with
  | .line line => some line
  | _ => none

namespace Reader

/-- Everything that the source of a reader has for it. -/
def available (reader : Reader) : Session :=
  match reader.source streamCommand with
  | .ok session => session
  | .error _ => []

/-- The reads that a reader has made. -/
def consumed (reader : Reader) : Session :=
  match reader.phase with
  | .unopened => []
  | _ => reader.available.take (reader.available.length - reader.session.length)

/-- The lines that a reader has read. -/
def linesRead (reader : Reader) : List String :=
  reader.consumed.filterMap Read.line?

/-- The lines to make units of. -/
def workLines (reader : Reader) : List String :=
  reader.linesRead.filter (fun line => !Text.isBlankLine line)

/-- The calls that a reader has made. -/
def tickets (reader : Reader) : List Ticket :=
  reader.acts.filterMap (fun
    | .enqueued _ ticket => some ticket
    | _ => none)

/-- The call of a ticket enqueues the unit of a line. -/
def MadeOf (dispatcher : Dispatcher) (provider : Option Provider) (line : String)
    (ticket : Ticket) : Prop :=
  ∃ call now, dispatcher.calls[ticket]? = some call ∧
    call.work = .ofLine (Text.trim line) provider now

/-- How far the calls of a reader have come: all are accepted, but for the one that
it waits for and the one that was refused. -/
def Settled (dispatcher : Dispatcher) (tickets : List Ticket) : ReaderPhase → Prop
  | .enqueuing last => ∃ earlier, tickets = earlier ++ [last] ∧
      earlier.Sublist (acceptedTickets dispatcher.journal) ∧
      (last ∈ acceptedTickets dispatcher.journal →
        tickets.Sublist (acceptedTickets dispatcher.journal))
  | .ended (.error .dispatcherClosed) => ∃ earlier last, tickets = earlier ++ [last] ∧
      earlier.Sublist (acceptedTickets dispatcher.journal) ∧
      dispatcher.status? last = some .refused
  | _ => tickets.Sublist (acceptedTickets dispatcher.journal)

/-- The account of a reader: its reads are the first ones of its source, its calls
are those of its lines, and they are settled. -/
structure Traced (dispatcher : Dispatcher) (reader : Reader) : Prop where
  unopened : reader.phase = .unopened → reader.session = []
  whole : reader.phase ≠ .unopened → reader.available = reader.consumed ++ reader.session
  lines : List.Forall₂ (MadeOf dispatcher reader.provider) reader.workLines reader.tickets
  settled : Settled dispatcher reader.tickets reader.phase

theorem traced_start (dispatcher : Dispatcher) (source : Source)
    (provider : Option Provider) (cancelled : Bool) :
    Traced dispatcher (.start source provider cancelled) where
  unopened := fun _ => rfl
  whole := fun opened => absurd rfl opened
  lines := .nil
  settled := List.nil_sublist _

theorem consumed_eq {reader : Reader} {taken : Session}
    (opened : reader.phase ≠ .unopened)
    (whole : reader.available = taken ++ reader.session) : reader.consumed = taken := by
  unfold consumed
  split
  · rename_i unopened
    exact absurd unopened opened
  · rw [whole, List.length_append, Nat.add_sub_cancel]
    exact List.take_left

/-- A read that yields no line to work on changes neither the lines nor the calls. -/
theorem Traced.go_on {dispatcher : Dispatcher} {before after : Reader} {passed : Session}
    (traced : Traced dispatcher before)
    (source : after.source = before.source) (provider : after.provider = before.provider)
    (tickets : after.tickets = before.tickets)
    (openedBefore : before.phase ≠ .unopened) (opened : after.phase ≠ .unopened)
    (session : before.session = passed ++ after.session)
    (idle : ((passed.filterMap Read.line?).filter
      (fun line => !Text.isBlankLine line)) = [])
    (settled : Settled dispatcher before.tickets after.phase) :
    Traced dispatcher after := by
  have available : after.available = before.available := by
    rw [Reader.available, Reader.available, source]
  have whole : after.available = (before.consumed ++ passed) ++ after.session := by
    rw [available, traced.whole openedBefore, session, List.append_assoc]
  have lines : after.workLines = before.workLines := by
    rw [workLines, linesRead, consumed_eq opened whole, List.filterMap_append,
      List.filter_append, idle, List.append_nil]
    rfl
  refine ⟨fun unopened => absurd unopened opened, fun _ => ?_, ?_, ?_⟩
  · rw [consumed_eq opened whole]
    exact whole
  · rw [lines, tickets, provider]
    exact traced.lines
  · rw [tickets]
    exact settled

theorem tickets_append {reader : Reader} {act : ReaderAct}
    (quiet : ∀ line ticket, act ≠ .enqueued line ticket) :
    ({ reader with acts := reader.acts ++ [act] } : Reader).tickets = reader.tickets := by
  cases act with
  | enqueued line ticket => exact absurd rfl (quiet line ticket)
  | opened _ | read | closed => simp [tickets]

/-- A reader keeps its provider, and by itself it makes no calls. -/
theorem Move.same {dispatcher : Dispatcher} {index : Nat} {before after : Reader}
    {action : FeedAction} (move : before.Move dispatcher index action after) :
    after.provider = before.provider ∧ after.tickets = before.tickets := by
  cases move with
  | openFailed | opened | exhausted | sourceEnded | sourceFailed =>
      exact ⟨rfl, by simp [tickets, close]⟩
  | stopped | skipped | paused | gaveUp | turnedAway =>
      exact ⟨rfl, tickets_append (by simp)⟩
  | resumed | cancelled => exact ⟨rfl, rfl⟩

/-- Opening the source, or failing to, makes no calls and no reads. -/
theorem Traced.leave_unopened {dispatcher : Dispatcher} {before after : Reader}
    (traced : Traced dispatcher before) (unopened : before.phase = .unopened)
    (provider : after.provider = before.provider) (tickets : after.tickets = before.tickets)
    (opened : after.phase ≠ .unopened) (whole : after.available = after.session)
    (settled : Settled dispatcher before.tickets after.phase) :
    Traced dispatcher after := by
  have nothing : after.consumed = [] := consumed_eq opened whole
  have none : before.workLines = [] := by
    simp [workLines, linesRead, consumed, unopened]
  refine ⟨fun same => absurd same opened, fun _ => ?_, ?_, ?_⟩
  · rw [nothing]
    exact whole
  · rw [tickets, provider, workLines, linesRead, nothing]
    have lines := traced.lines
    rw [none] at lines
    exact lines
  · rw [tickets]
    exact settled

theorem Move.keepsTraced {dispatcher : Dispatcher} {index : Nat} {before after : Reader}
    {action : FeedAction} (sound : dispatcher.Sound) (traced : Traced dispatcher before)
    (move : before.Move dispatcher index action after) : Traced dispatcher after := by
  have settled := traced.settled
  have other {phase : ReaderPhase} (now : before.phase = phase)
      (opened : phase ≠ .unopened) : before.phase ≠ .unopened := by
    rw [now]
    exact opened
  cases move with
  | openFailed unopened failed =>
      rw [unopened] at settled
      refine traced.leave_unopened unopened rfl ?_ (by simp) ?_ settled
      · simp [tickets]
      · simp only [available, failed]
        exact (traced.unopened unopened).symm
  | opened unopened works =>
      rw [unopened] at settled
      refine traced.leave_unopened unopened rfl ?_ (by simp) ?_ settled
      · simp [tickets]
      · simp only [available, works]
  | stopped now between =>
      rw [between] at settled
      exact traced.go_on rfl rfl (tickets_append (by simp)) (other between (by simp))
        (by simp [close]) (List.nil_append _).symm rfl settled
  | exhausted now between _ empty =>
      rw [between] at settled
      refine traced.go_on rfl rfl ?_ (other between (by simp)) (by simp [close])
        (List.nil_append _).symm rfl settled
      simp [tickets, close]
  | skipped now between _ next isLine blank =>
      rw [between] at settled
      refine traced.go_on rfl rfl (tickets_append (by simp)) (other between (by simp))
        (other between (by simp)) (List.singleton_append ▸ next) ?_ ?_
      · simp [Read.line?, isLine, blank]
      · rw [between]
        exact settled
  | sourceEnded now between _ next ended =>
      rw [between] at settled
      refine traced.go_on rfl rfl ?_ (other between (by simp)) (by simp [close])
        (List.singleton_append ▸ next) ?_ settled
      · simp [tickets, close]
      · simp [Read.line?, ended]
  | sourceFailed now between _ next failed =>
      rw [between] at settled
      refine traced.go_on rfl rfl ?_ (other between (by simp)) (by simp [close])
        (List.singleton_append ▸ next) ?_ settled
      · simp [tickets, close]
      · simp [Read.line?, failed]
  | paused now between _ next pending =>
      rw [between] at settled
      refine traced.go_on rfl rfl (tickets_append (by simp)) (other between (by simp))
        (by simp) (List.singleton_append ▸ next) ?_ settled
      simp [Read.line?, pending]
  | gaveUp reading =>
      rw [reading] at settled
      exact traced.go_on rfl rfl (tickets_append (by simp)) (other reading (by simp))
        (by simp [close]) (List.nil_append _).symm rfl settled
  | resumed enqueuing accepted =>
      rw [enqueuing] at settled
      obtain ⟨earlier, _, _, whenAccepted⟩ := settled
      exact traced.go_on rfl rfl rfl (other enqueuing (by simp)) (by simp)
        (List.nil_append _).symm rfl (whenAccepted (sound.mem_accepted_iff.mpr accepted))
  | turnedAway enqueuing refused =>
      rw [enqueuing] at settled
      obtain ⟨earlier, same, inOrder, _⟩ := settled
      exact traced.go_on rfl rfl (tickets_append (by simp)) (other enqueuing (by simp))
        (by simp [close]) (List.nil_append _).symm rfl ⟨earlier, _, same, inOrder, refused⟩
  | cancelled => exact ⟨traced.unopened, traced.whole, traced.lines, traced.settled⟩

theorem MadeOf.keep {before after : Dispatcher} {action : DispatchAction}
    (move : before.Move action after) {provider : Option Provider} {line : String}
    {ticket : Ticket} (made : MadeOf before provider line ticket) :
    MadeOf after provider line ticket := by
  obtain ⟨call, now, found, same⟩ := made
  obtain ⟨status, kept, _⟩ := move.keepsCall found
  exact ⟨_, now, kept, same⟩

theorem Settled.keep {before after : Dispatcher} {action : DispatchAction}
    (move : before.Move action after) {tickets : List Ticket} {phase : ReaderPhase}
    (settled : Settled before tickets phase) : Settled after tickets phase := by
  obtain ⟨entries, journal, _⟩ := move.journal
  have accepted : acceptedTickets after.journal =
      acceptedTickets before.journal ++ acceptedTickets entries := by
    rw [journal, acceptedTickets_append]
  have grow {part : List Ticket} (old : part.Sublist (acceptedTickets before.journal)) :
      part.Sublist (acceptedTickets after.journal) := by
    rw [accepted]
    exact old.trans (List.sublist_append_left _ _)
  cases phase with
  | enqueuing last =>
      obtain ⟨earlier, rfl, inOrder, whenAccepted⟩ := settled
      refine ⟨earlier, rfl, grow inOrder, fun member => ?_⟩
      -- If the move accepts the last call, all earlier ones were accepted before it.
      rw [accepted, List.mem_append] at member
      rcases member with old | new
      · exact grow (whenAccepted old)
      · rw [accepted]
        exact inOrder.append (List.singleton_sublist.mpr new)
  | ended outcome =>
      match outcome with
      | .error .dispatcherClosed =>
          obtain ⟨earlier, last, same, inOrder, refused⟩ := settled
          obtain ⟨call, found, status⟩ := Dispatcher.status?_eq_some.mp refused
          obtain ⟨later, kept, legal⟩ := move.keepsCall found
          have unchanged := legal.of_isFinal (by rw [status]; rfl)
          refine ⟨earlier, last, same, grow inOrder, ?_⟩
          exact Dispatcher.status?_eq_some.mpr ⟨_, kept, unchanged.trans status⟩
      | .error (.session error) => exact grow settled
      | .ok count => exact grow settled
  | unopened | between | reading => exact grow settled

theorem Traced.keep {before after : Dispatcher} {action : DispatchAction}
    (move : before.Move action after) {reader : Reader} (traced : Traced before reader) :
    Traced after reader :=
  ⟨traced.unopened, traced.whole, traced.lines.imp (fun _ _ => MadeOf.keep move),
    traced.settled.keep move⟩

theorem Traced.enqueue {dispatcher : Dispatcher} {reader : Reader} {read : Read}
    {session : Session} {line : String} {now : Instant} (sound : dispatcher.Sound)
    (traced : Traced dispatcher reader) (between : reader.phase = .between)
    (next : reader.session = read :: session) (isLine : read.reading = .line line)
    (notBlank : Text.isBlankLine line = false) :
    Traced (dispatcher.enter (.ofLine (Text.trim line) reader.provider now))
      { reader with
        acts := reader.acts ++ [.read] ++
          [.enqueued (Text.trim line) dispatcher.calls.length]
        session, cancelled := read.cancels, phase := .enqueuing dispatcher.calls.length } := by
  let work := Work.ofLine (Text.trim line) reader.provider now
  let after : Reader :=
    { reader with
      acts := reader.acts ++ [.read] ++
        [.enqueued (Text.trim line) dispatcher.calls.length]
      session, cancelled := read.cancels, phase := .enqueuing dispatcher.calls.length }
  change Traced (dispatcher.enter work) after
  have opened : reader.phase ≠ .unopened := by simp [between]
  have move : dispatcher.Move (.enter work) (dispatcher.enter work) := .enter work
  have whole : after.available = (reader.consumed ++ [read]) ++ after.session := by
    rw [List.append_assoc, List.singleton_append]
    exact (traced.whole opened).trans (by rw [next])
  have consumed : after.consumed = reader.consumed ++ [read] :=
    consumed_eq (by simp [after]) whole
  have workLines : after.workLines = reader.workLines ++ [line] := by
    rw [Reader.workLines, linesRead, consumed, List.filterMap_append, List.filter_append]
    simp [Reader.workLines, linesRead, Read.line?, isLine, notBlank]
  have tickets : after.tickets = reader.tickets ++ [dispatcher.calls.length] := by
    simp [after, Reader.tickets]
  have made : MadeOf (dispatcher.enter work) reader.provider line dispatcher.calls.length :=
    ⟨_, now, dispatcher.enter_getElem? work, rfl⟩
  -- The new call is not accepted yet, so that nothing is asked of its order.
  have fresh : dispatcher.calls.length ∉
      acceptedTickets (dispatcher.enter work).journal := by
    intro member
    have accepted := (move.keepsSound sound).mem_accepted_iff.mp member
    rw [Dispatcher.status?, dispatcher.enter_getElem? work] at accepted
    cases closing : dispatcher.closing <;> simp [closing] at accepted
  refine ⟨fun unopened => by simp [after] at unopened, fun _ => ?_, ?_, ?_⟩
  · rw [consumed]
    exact whole
  · rw [workLines, tickets]
    exact List.rel_append (traced.lines.imp (fun _ _ => MadeOf.keep move))
      (.cons made .nil)
  · have settled := traced.settled.keep move
    rw [between] at settled
    exact ⟨reader.tickets, tickets, settled, fun member => absurd member fresh⟩

end Reader

namespace Feed

/-- What every reachable feed satisfies. -/
structure Sound (feed : Feed) : Prop where
  dispatcher : feed.dispatcher.Sound
  readers : ∀ reader ∈ feed.readers, Reader.Traced feed.dispatcher reader

theorem sound_start (capacity workers : Nat) (routing : String → Nat) :
    Sound (start capacity workers routing) where
  dispatcher := Dispatcher.sound_start capacity workers routing
  readers := by simp [start]

theorem Move.keepsSound {before after : Feed} {action : FeedAction} (sound : Sound before)
    (move : Move before action after) : Sound after := by
  cases move with
  | dispatch move _ =>
      exact ⟨move.keepsSound sound.dispatcher,
        fun reader member => (sound.readers reader member).keep move⟩
  | addReader source provider cancelled =>
      refine ⟨sound.dispatcher, fun reader member => ?_⟩
      rcases List.mem_append.mp member with old | new
      · exact sound.readers reader old
      · rw [List.mem_singleton.mp new]
        exact Reader.traced_start _ source provider cancelled
  | reader found move =>
      refine ⟨sound.dispatcher, fun reader member => ?_⟩
      rcases List.mem_or_eq_of_mem_set member with old | rfl
      · exact sound.readers reader old
      · exact move.keepsTraced sound.dispatcher
          (sound.readers _ (List.mem_of_getElem? found))
  | @enqueue index reader now read session line found between _ next isLine notBlank =>
      have move : before.dispatcher.Move
          (.enter (.ofLine (Text.trim line) reader.provider now)) _ := .enter _
      refine ⟨move.keepsSound sound.dispatcher, fun other member => ?_⟩
      rcases List.mem_or_eq_of_mem_set member with old | rfl
      · exact (sound.readers other old).keep move
      · exact (sound.readers reader (List.mem_of_getElem? found)).enqueue sound.dispatcher
          between next isLine notBlank

theorem run?_append {feed final : Feed} {early late : List FeedAction} :
    feed.run? (early ++ late) = some final ↔
      ∃ middle, feed.run? early = some middle ∧ middle.run? late = some final :=
  foldlM_append_eq_some

/-- What every move with one of the actions of a run preserves, the run preserves. -/
theorem run?_preserves (Property : Feed → Prop) {feed final : Feed}
    {actions : List FeedAction}
    (kept : ∀ {before after : Feed} {action : FeedAction}, action ∈ actions →
      Property before → Move before action after → Property after)
    (holds : Property feed) (run : feed.run? actions = some final) : Property final :=
  foldlM_preserves Property (fun member holds step => kept member holds (.ofStep? step))
    holds run

theorem run?_keepsSound {feed final : Feed} {actions : List FeedAction} (sound : Sound feed)
    (run : feed.run? actions = some final) : Sound final :=
  run?_preserves Sound (fun _ sound move => move.keepsSound sound) sound run

/-- In a feed the dispatcher moves as it does alone. -/
theorem Move.dispatcher {before after : Feed} {action : FeedAction}
    (move : Move before action after) :
    after.dispatcher = before.dispatcher ∨
      ∃ act, before.dispatcher.Move act after.dispatcher ∧
        ∀ id, act = .removeListener id → action = .dispatch (.removeListener id) := by
  cases move with
  | @dispatch act dispatcher move _ =>
      exact .inr ⟨act, move, fun id same => by rw [same]⟩
  | addReader | reader => exact .inl rfl
  | enqueue => exact .inr ⟨_, .enter _, fun id same => by cases same⟩

end Feed

end ReviewFeed
