import ReviewFeed.Proofs.Dispatch.Listeners
import ReviewFeed.Proofs.Dispatch.Readers

/-!
# From the streams to the listeners

Several readers with different provider names feed one dispatcher.  Every unit of a
reader's name is then one of its own, so that what a listener hears of that name is
what the lines of this reader become.
-/

namespace ReviewFeed

namespace Reader

def name? (reader : Reader) : Option String :=
  reader.provider.bind (·.name)

/-- The units that a reader has made. -/
def units (dispatcher : Dispatcher) (reader : Reader) : List Work :=
  reader.tickets.filterMap (fun ticket => (dispatcher.calls[ticket]?).map (·.work))

theorem mem_tickets_of_acts {before after : Reader} {line : String} {last ticket : Ticket}
    (acts : after.acts = before.acts ++ [.read] ++ [.enqueued line last]) :
    ticket ∈ after.tickets ↔ ticket ∈ before.tickets ∨ ticket = last := by
  simp [tickets, acts]

theorem Traced.units {dispatcher : Dispatcher} {reader : Reader}
    (traced : Traced dispatcher reader) :
    List.Forall₂ (fun line work => ∃ now, work = .ofLine (Text.trim line) reader.provider now)
      reader.workLines (reader.units dispatcher) := by
  have all {lines : List String} {tickets : List Ticket}
      (made : List.Forall₂ (MadeOf dispatcher reader.provider) lines tickets) :
      List.Forall₂
        (fun line work => ∃ now, work = .ofLine (Text.trim line) reader.provider now) lines
        (tickets.filterMap (fun ticket => (dispatcher.calls[ticket]?).map (·.work))) := by
    induction made with
    | nil => exact .nil
    | cons made _ induction =>
        obtain ⟨call, now, found, same⟩ := made
        rw [List.filterMap_cons, found]
        exact .cons ⟨now, same⟩ induction
  exact all traced.lines

theorem Traced.madeOf {dispatcher : Dispatcher} {reader : Reader}
    (traced : Traced dispatcher reader) {ticket : Ticket} (mine : ticket ∈ reader.tickets) :
    ∃ line, MadeOf dispatcher reader.provider line ticket := by
  have all {lines : List String} {tickets : List Ticket}
      (made : List.Forall₂ (MadeOf dispatcher reader.provider) lines tickets)
      (member : ticket ∈ tickets) : ∃ line, MadeOf dispatcher reader.provider line ticket := by
    induction made with
    | nil => cases member
    | cons made _ induction =>
        rcases List.mem_cons.mp member with rfl | later
        · exact ⟨_, made⟩
        · exact induction later
  exact all traced.lines mine

theorem Traced.isNamed {dispatcher : Dispatcher} {reader : Reader}
    (traced : Traced dispatcher reader) {ticket : Ticket} (mine : ticket ∈ reader.tickets) :
    dispatcher.isNamed reader.name? ticket = true := by
  obtain ⟨line, call, now, found, same⟩ := traced.madeOf mine
  refine Dispatcher.isNamed_iff.mpr ⟨call, found, ?_⟩
  rw [same]
  rfl

/-- Whether a reader is over by itself: at the end of its stream, with a failure of its
source, or cancelled, but not turned away by the dispatcher. -/
def isThrough (reader : Reader) : Bool :=
  match reader.phase with
  | .ended (.error .dispatcherClosed) => false
  | .ended _ => true
  | _ => false

/-- All calls of such a reader are accepted, in the order of its lines. -/
theorem Traced.accepted {dispatcher : Dispatcher} {reader : Reader}
    (traced : Traced dispatcher reader) (through : reader.isThrough = true) :
    reader.tickets.Sublist (acceptedTickets dispatcher.journal) := by
  have settled := traced.settled
  unfold isThrough at through
  split at through
  · cases through
  · rename_i outcome notClosed ended
    rw [ended] at settled
    match outcome with
    | .error .dispatcherClosed => exact (notClosed rfl).elim
    | .error (.session error) => exact settled
    | .ok count => exact settled
  · cases through

theorem Traced.tickets_of_unread {dispatcher : Dispatcher} {reader : Reader}
    (traced : Traced dispatcher reader) (unread : reader.linesRead = []) :
    reader.tickets = [] := by
  have lines := traced.lines
  rw [workLines, unread] at lines
  exact List.forall₂_nil_left_iff.mp lines

end Reader

namespace Feed

/-- A reader keeps its provider, and its calls. -/
theorem Move.keepsReader {before after : Feed} {action : FeedAction}
    (move : Move before action after) {reader : Reader} (member : reader ∈ before.readers) :
    ∃ later ∈ after.readers, later.provider = reader.provider ∧
      reader.tickets ⊆ later.tickets := by
  have unchanged : ∃ later ∈ before.readers, later.provider = reader.provider ∧
      reader.tickets ⊆ later.tickets := ⟨reader, member, rfl, List.Subset.refl _⟩
  have replaced {index : Nat} {old new : Reader} (found : before.readers[index]? = some old)
      (provider : new.provider = old.provider) (tickets : old.tickets ⊆ new.tickets) :
      ∃ later ∈ before.readers.set index new, later.provider = reader.provider ∧
        reader.tickets ⊆ later.tickets := by
    obtain ⟨place, atPlace⟩ := List.getElem?_of_mem member
    by_cases same : index = place
    · subst same
      obtain rfl := Option.some.inj (found.symm.trans atPlace)
      have inside := (List.getElem?_eq_some_iff.mp found).1
      exact ⟨new, List.mem_set inside new, provider, tickets⟩
    · refine ⟨reader, ?_, rfl, List.Subset.refl _⟩
      exact List.mem_of_getElem? ((List.getElem?_set_ne same).trans atPlace)
  cases move with
  | dispatch => exact unchanged
  | addReader source provider cancelled =>
      exact ⟨reader, List.mem_append_left _ member, rfl, List.Subset.refl _⟩
  | reader found move =>
      obtain ⟨provider, tickets⟩ := move.same
      exact replaced found provider (by rw [tickets]; exact List.Subset.refl _)
  | enqueue now found =>
      refine replaced found rfl (fun ticket mine => ?_)
      exact (Reader.mem_tickets_of_acts rfl).mpr (.inl mine)

/-- Every call comes from a reader, or from a producer of its own. -/
def Owned (actions : List FeedAction) (feed : Feed) : Prop :=
  ∀ (ticket : Ticket) (call : EnqueueCall), feed.dispatcher.calls[ticket]? = some call →
    .dispatch (.enter call.work) ∈ actions ∨
      ∃ reader ∈ feed.readers, ticket ∈ reader.tickets ∧
        call.work.provider = reader.provider

theorem Move.keepsOwned {actions : List FeedAction} {before after : Feed}
    {action : FeedAction} (member : action ∈ actions) (owned : Owned actions before)
    (move : Move before action after) : Owned actions after := by
  intro ticket call found
  have old {work : EnqueueCall} (oldFound : before.dispatcher.calls[ticket]? = some work)
      (same : call.work = work.work) :
      .dispatch (.enter call.work) ∈ actions ∨
        ∃ reader ∈ after.readers, ticket ∈ reader.tickets ∧
          call.work.provider = reader.provider := by
    rcases owned ticket work oldFound with entered | ⟨reader, inReaders, mine, provider⟩
    · exact .inl (same ▸ entered)
    · obtain ⟨later, inLater, kept, tickets⟩ := move.keepsReader inReaders
      exact .inr ⟨later, inLater, tickets mine, by rw [same, provider, kept]⟩
  cases move with
  | dispatch move =>
      rcases move.call_cases found with ⟨work, oldFound, same, _⟩ | ⟨rfl, _, _⟩
      · exact old oldFound same
      · exact .inl member
  | addReader | reader => exact old found rfl
  | @enqueue index reader now read session line readerFound =>
      have move : before.dispatcher.Move
          (.enter (.ofLine (Text.trim line) reader.provider now)) _ := .enter _
      rcases move.call_cases found with ⟨work, oldFound, same, _⟩ | ⟨entered, rfl, _⟩
      · exact old oldFound same
      · right
        have inside := (List.getElem?_eq_some_iff.mp readerFound).1
        refine ⟨_, List.mem_set inside _, ?_, ?_⟩
        · exact (Reader.mem_tickets_of_acts rfl).mpr (.inr rfl)
        · rw [← DispatchAction.enter.inj entered]
          rfl

/-- A listener follows the readers: it is told of everything from a mark on, and no
reader has made a call before that mark. -/
structure Followed (id : ListenerId) (mark : Ticket) (feed : Feed) : Prop where
  listening : feed.dispatcher.Listening id mark
  passed : mark ≤ feed.dispatcher.calls.length
  later : ∀ reader ∈ feed.readers, ∀ ticket ∈ reader.tickets, mark ≤ ticket

theorem Move.keepsFollowed {id : ListenerId} {mark : Ticket} {before after : Feed}
    {action : FeedAction} (followed : Followed id mark before)
    (stays : action ≠ .dispatch (.removeListener id)) (move : Move before action after) :
    Followed id mark after := by
  obtain ⟨listening, passed, later⟩ := followed
  refine ⟨?_, ?_, ?_⟩
  · rcases move.dispatcher with same | ⟨act, dispatched, removes⟩
    · rw [same]
      exact listening
    · exact dispatched.keepsListening listening (fun same => stays (removes id same))
  · rcases move.dispatcher with same | ⟨act, dispatched, _⟩
    · rw [same]
      exact passed
    · exact Nat.le_trans passed dispatched.calls_le
  · intro reader member ticket mine
    cases move with
    | dispatch => exact later reader member ticket mine
    | addReader source provider cancelled =>
        rcases List.mem_append.mp member with old | new
        · exact later reader old ticket mine
        · rw [List.mem_singleton.mp new] at mine
          cases mine
    | reader found move =>
        rcases List.mem_or_eq_of_mem_set member with old | rfl
        · exact later reader old ticket mine
        · rw [move.same.2] at mine
          exact later _ (List.mem_of_getElem? found) ticket mine
    | enqueue now found =>
        rcases List.mem_or_eq_of_mem_set member with old | rfl
        · exact later reader old ticket mine
        · rcases (Reader.mem_tickets_of_acts rfl).mp mine with old | rfl
          · exact later _ (List.mem_of_getElem? found) ticket old
          · exact passed

theorem run?_keepsProper {feed final : Feed} {actions : List FeedAction}
    (proper : feed.dispatcher.registry.Proper) (run : feed.run? actions = some final) :
    final.dispatcher.registry.Proper := by
  refine run?_preserves (fun state => state.dispatcher.registry.Proper)
    (fun {before after action} _ proper move => ?_) proper run
  rcases move.dispatcher with same | ⟨act, dispatched, _⟩
  · rw [same]
    exact proper
  · exact dispatched.keepsProper proper

theorem followed_of_unread {feed : Feed} {id : ListenerId} (sound : Sound feed)
    (proper : feed.dispatcher.registry.Proper)
    (unread : ∀ reader ∈ feed.readers, reader.linesRead = [])
    (registered : id ∈ feed.dispatcher.registry.ids) :
    Followed id feed.dispatcher.calls.length feed := by
  refine ⟨⟨proper, registered, ?_⟩, Nat.le_refl _, ?_⟩
  · intro lane ticket event ids member later
    obtain ⟨call, found, _⟩ := sound.dispatcher.accepted_of_worked member
    exact absurd later (Nat.not_le_of_lt (List.getElem?_eq_some_iff.mp found).1)
  · intro reader member ticket mine
    rw [(sound.readers reader member).tickets_of_unread (unread reader member)] at mine
    cases mine

/-- If nobody else uses the name of a reader, the accepted units of the name are the
reader's own. -/
theorem Sound.accepted_of_name {feed : Feed} {actions : List FeedAction} (sound : Sound feed)
    (owned : Owned actions feed) (distinct : (feed.readers.map Reader.name?).Nodup)
    (alone : ∀ work, .dispatch (.enter work) ∈ actions →
      work.routingName? ∉ feed.readers.map Reader.name?)
    {reader : Reader} (member : reader ∈ feed.readers)
    (accepted : reader.tickets.Sublist (acceptedTickets feed.dispatcher.journal)) :
    (acceptedTickets feed.dispatcher.journal).filter
      (feed.dispatcher.isNamed reader.name?) = reader.tickets := by
  have part : reader.tickets.Sublist ((acceptedTickets feed.dispatcher.journal).filter
      (feed.dispatcher.isNamed reader.name?)) := by
    have filtered := accepted.filter (feed.dispatcher.isNamed reader.name?)
    rwa [List.filter_eq_self.mpr (fun ticket mine =>
      (sound.readers reader member).isNamed mine)] at filtered
  have inside : (acceptedTickets feed.dispatcher.journal).filter
      (feed.dispatcher.isNamed reader.name?) ⊆ reader.tickets := by
    intro ticket named
    obtain ⟨call, found, routed⟩ := Dispatcher.isNamed_iff.mp (List.mem_filter.mp named).2
    rcases owned ticket call found with entered | ⟨owner, inReaders, mine, provider⟩
    · have used : reader.name? ∈ feed.readers.map Reader.name? := List.mem_map_of_mem member
      exact absurd (routed ▸ used) (alone call.work entered)
    · have sameName : owner.name? = reader.name? := by
        rw [← routed, Work.routingName?_eq, provider, Reader.name?]
      obtain rfl := List.inj_on_of_nodup_map distinct inReaders member sameName
      exact mine
  exact eq_of_sublist_of_subset part (sound.dispatcher.once.filter _) inside

/-- What a listener hears of the name of a reader is what its units become. -/
theorem Sound.heard_of_reader {feed : Feed} {id : ListenerId} {mark : Ticket}
    (sound : Sound feed) (followed : Followed id mark feed)
    (complete : feed.dispatcher.isOver = true) {reader : Reader} (member : reader ∈ feed.readers)
    (own : (acceptedTickets feed.dispatcher.journal).filter
      (feed.dispatcher.isNamed reader.name?) = reader.tickets) :
    heard id reader.name? feed.dispatcher.journal =
      (reader.units feed.dispatcher).filterMap Work.event? := by
  have told : ∀ lane ticket event ids,
      .worked lane ticket (.noticed event ids) ∈ feed.dispatcher.journal →
        feed.dispatcher.isNamed reader.name? ticket = true → ids.count id = 1 := by
    intro lane ticket event ids noticed named
    obtain ⟨call, found, _, status⟩ := sound.dispatcher.accepted_of_worked noticed
    have accepted := sound.dispatcher.mem_accepted_iff.mpr
      (Dispatcher.status?_eq_some.mpr ⟨call, found, status⟩)
    have mine : ticket ∈ reader.tickets := by
      rw [← own]
      exact List.mem_filter.mpr ⟨accepted, named⟩
    exact followed.listening.told lane ticket event ids noticed
      (followed.later reader member ticket mine)
  rw [sound.dispatcher.heard_eq complete told, own, Reader.units, List.filterMap_filterMap]
  refine List.filterMap_congr (fun ticket _ => ?_)
  rw [Dispatcher.eventOf?]
  cases feed.dispatcher.calls[ticket]? <;> rfl

/-- Several readers with different provider names feed one dispatcher, and nobody
else uses these names.  If every reader ends at the end of its stream, with a failure
of its source or cancelled, and the shutdown is complete, then a listener that was
registered before the first line and never removed has been called, for each reader,
with exactly the events that its non-blank lines become, in order, each once and
stamped with its provider, and with no other event of that name. -/
theorem delivered_from_streams {capacity workers : Nat} {routing : String → Nat}
    {early late : List FeedAction} {first final : Feed} {id : ListenerId}
    (runEarly : (start capacity workers routing).run? early = some first)
    (runLate : first.run? late = some final)
    (unread : ∀ reader ∈ first.readers, reader.linesRead = [])
    (registered : id ∈ first.dispatcher.registry.ids)
    (stays : .dispatch (.removeListener id) ∉ late)
    (distinct : (final.readers.map Reader.name?).Nodup)
    (alone : ∀ work, .dispatch (.enter work) ∈ early ++ late →
      work.routingName? ∉ final.readers.map Reader.name?)
    (through : ∀ reader ∈ final.readers, reader.isThrough = true)
    (complete : final.dispatcher.isOver = true) :
    ∀ reader ∈ final.readers,
      List.Forall₂
        (fun line work => ∃ now, work = .ofLine (Text.trim line) reader.provider now)
        reader.workLines (reader.units final.dispatcher) ∧
      heard id reader.name? final.dispatcher.journal =
        (reader.units final.dispatcher).filterMap Work.event? ∧
      ∀ event ∈ heard id reader.name? final.dispatcher.journal,
        event.provider = reader.provider := by
  have run := run?_append.mpr ⟨first, runEarly, runLate⟩
  have soundFirst := run?_keepsSound (sound_start capacity workers routing) runEarly
  have sound := run?_keepsSound soundFirst runLate
  -- The calls made before the first line are none of the readers' calls.
  have followed : Followed id first.dispatcher.calls.length final := by
    refine run?_preserves _ (fun inLate followed move => ?_)
      (followed_of_unread soundFirst ?_ unread registered) runLate
    · refine move.keepsFollowed followed ?_
      rintro rfl
      exact stays inLate
    · exact run?_keepsProper Registry.proper_empty runEarly
  have owned : Owned (early ++ late) final := by
    refine run?_preserves (Owned (early ++ late))
      (fun member owned move => move.keepsOwned member owned) ?_ run
    intro ticket call found
    cases found
  intro reader member
  have traced := sound.readers reader member
  have own := sound.accepted_of_name owned distinct alone member
    (traced.accepted (through reader member))
  have hears := sound.heard_of_reader followed complete member own
  refine ⟨traced.units, hears, ?_⟩
  intro event heardEvent
  rw [hears] at heardEvent
  obtain ⟨work, made, becomes⟩ := List.mem_filterMap.mp heardEvent
  obtain ⟨ticket, mine, found⟩ := List.mem_filterMap.mp made
  obtain ⟨line, call, now, callFound, same⟩ := traced.madeOf mine
  rw [callFound, Option.map_some, Option.some.injEq] at found
  subst found
  rw [Work.provider_of_event? becomes, same]
  rfl

/-- A line about a new project, between blanks. -/
def projectLine : Read :=
  .ofLine " \x7b\"type\":\"project-created\",\"projectName\":\"demo\"\x7d "

/-- A stream with an event, a blank line and noise, and more to come. -/
def longStream : Source := fun _ =>
  .ok [projectLine, .ofLine " ", .ofLine "noise", projectLine]

/-- A stream that fails after its first event. -/
def brokenStream : Source := fun _ =>
  .ok [projectLine, { reading := .failed (.connectionFailed "reset"), cancels := false }]

/-- One listener and two readers. -/
def twoReaders : List FeedAction :=
  let provider (name : String) : Provider :=
    { name := some name, host := none, port := none, scheme := none, url := none
      version := none }
  [.dispatch .addListener, .addReader longStream (some (provider "main")) false,
    .addReader brokenStream (some (provider "other")) false]

/-- A run in which the first reader is cancelled while it waits for room, the second
one fails, and the listener panics. -/
def crowdedRun : List FeedAction :=
  let now := Instant.epoch
  let ask (ticket : Ticket) : List FeedAction :=
    [.dispatch (.look ticket), .dispatch (.send ticket)]
  let report (panicked : Bool) : List FeedAction :=
    [.dispatch (.notice 0), .dispatch (.call 0), .dispatch (.finishCall 0 panicked),
      .dispatch (.finish 0)]
  [.openStream 0, .openStream 1, .readNext 0 now] ++ ask 0 ++
    [.dispatch (.deliver 0), .resume 0, .readNext 0 now, .readNext 0 now] ++ ask 1 ++
    [.cancel 0, .dispatch (.take 0), .dispatch (.advance 0)] ++ ask 1 ++
    [.dispatch (.deliver 1), .resume 0, .readNext 0 now, .readNext 1 now] ++ ask 2 ++
    report true ++ [.dispatch (.take 0), .dispatch (.advance 0)] ++ ask 2 ++
    [.dispatch (.deliver 2), .resume 1, .readNext 1 now, .dispatch (.notice 0),
      .dispatch (.take 0)] ++ report false ++
    [.dispatch .shutdown, .dispatch (.closeQueue 0), .dispatch (.stop 0)]

theorem delivered_from_streams_crowded :
    ∃ first final, (start 1 1 (fun _ => 0)).run? twoReaders = some first ∧
      first.run? crowdedRun = some final ∧
      (final.readers.map (fun reader => reader.workLines.length)) = [2, 1] ∧
      (heard 0 (some "main") final.dispatcher.journal).length = 1 ∧
      ∀ reader ∈ final.readers,
        heard 0 reader.name? final.dispatcher.journal =
          (reader.units final.dispatcher).filterMap Work.event? := by
  have runEarly : (start 1 1 (fun _ => 0)).run? twoReaders = some _ := rfl
  refine ⟨_, _, runEarly, rfl, rfl, rfl, ?_⟩
  have delivered := @delivered_from_streams 1 1 (fun _ => 0) twoReaders crowdedRun _ _ 0
    runEarly rfl (by decide +kernel) (by decide +kernel) (by simp [crowdedRun])
    (by decide +kernel) (by simp [twoReaders, crowdedRun]) (by decide +kernel) rfl
  exact fun reader member => (delivered reader member).2.1

end Feed

end ReviewFeed
