import Mathlib.Logic.Relation
import ReviewFeed.Proofs.Dispatch.Accounts
import ReviewFeed.Proofs.Dispatch.Printed
import ReviewFeed.Proofs.Dispatch.Rest

/-!
# The course of listening

To listen is to have one reader feed a dispatcher with one listener, and to shut the
dispatcher down when the reader is over.  In between, readers, calls and workers move in
any order.  No call is given up, none is refused before the shutdown, and every course
can be continued up to the end of the shutdown.
-/

namespace ReviewFeed

/-- A source whose reads all find something, and fire no token. -/
def Source.Prompt (source : Source) : Prop :=
  ∀ session, source streamCommand = .ok session →
    ∀ read ∈ session, read.cancels = false ∧ read.reading ≠ .pending

namespace Reader

section Moves

variable {dispatcher : Dispatcher} {index : Nat} {before after : Reader} {action : FeedAction}

theorem Move.sameSource (move : before.Move dispatcher index action after) :
    after.source = before.source := by
  cases move <;> rfl

/-- A reader that is over does not move by itself any more. -/
theorem Move.not_ended (move : before.Move dispatcher index action after)
    (quiet : action.isQuiet = true) (outcome : Except StreamError Nat) :
    before.phase ≠ .ended outcome := by
  intro ended
  cases move with
  | openFailed phase | opened phase | stopped _ phase | exhausted _ phase | skipped _ phase
  | sourceEnded _ phase | sourceFailed _ phase | paused _ phase | gaveUp phase | resumed phase
  | turnedAway phase => cases ended.symm.trans phase
  | cancelled => cases quiet

theorem Move.keepsUnfired (move : before.Move dispatcher index action after)
    (quiet : action.isQuiet = true) (unfired : before.cancelled = false)
    (plain : ∀ read ∈ before.session, read.cancels = false) : after.cancelled = false := by
  cases move with
  | openFailed | opened | stopped | exhausted | gaveUp | resumed | turnedAway => exact unfired
  | skipped _ _ _ next | sourceEnded _ _ _ next | sourceFailed _ _ _ next | paused _ _ _ next =>
      exact plain _ (next ▸ List.mem_cons_self)
  | cancelled => cases quiet

/-- A reader is turned away only if the dispatcher has refused its call. -/
theorem Move.turned_away (move : before.Move dispatcher index action after)
    (quiet : action.isQuiet = true)
    (closed : after.phase = .ended (.error .dispatcherClosed)) :
    ∃ ticket, before.phase = .enqueuing ticket ∧ dispatcher.status? ticket = some .refused := by
  cases move with
  | turnedAway enqueuing refused => exact ⟨_, enqueuing, refused⟩
  | skipped _ between => cases between.symm.trans closed
  | cancelled => cases quiet
  | openFailed | opened | stopped | exhausted | sourceEnded | sourceFailed | paused | gaveUp
  | resumed => cases closed

end Moves

theorem Traced.session_subset {dispatcher : Dispatcher} {reader : Reader}
    (traced : Traced dispatcher reader) : reader.session ⊆ reader.available := by
  by_cases unopened : reader.phase = .unopened
  · rw [traced.unopened unopened]
    exact List.nil_subset _
  · rw [traced.whole unopened]
    exact List.subset_append_right _ _

theorem available_prompt {reader : Reader} (prompt : reader.source.Prompt) :
    ∀ read ∈ reader.available, read.cancels = false ∧ read.reading ≠ .pending := by
  intro read member
  unfold available at member
  split at member
  · rename_i session opened
    exact prompt session opened read member
  · cases member

/-- A reader of a prompt source does not wait in a read. -/
theorem Stands.not_reading {reader : Reader} (stands : reader.Stands reader.phase)
    (prompt : reader.source.Prompt) : reader.phase ≠ .reading := by
  intro reading
  rw [reading] at stands
  obtain ⟨passed, read, acts, ledger, _, _, pending⟩ := stands
  have member : read ∈ reader.available ++ [.atEnd] := by
    rw [ledger.whole]
    simp
  rcases List.mem_append.mp member with found | last
  · exact (available_prompt prompt read found).2 pending
  · rw [List.mem_singleton.mp last] at pending
    cases pending

end Reader

/-- Whether an action is a move of a call or a worker, a new call or the shutdown. -/
def DispatchAction.isRegular : DispatchAction → Bool
  | .enter _ | .shutdown => true
  | action => action.isQuiet

theorem DispatchAction.isRegular_of_isQuiet {action : DispatchAction}
    (quiet : action.isQuiet = true) : action.isRegular = true := by
  cases action with
  | enter | shutdown => rfl
  | _ => exact quiet

namespace Dispatcher

/-- A dispatcher with one listener that does not panic, and whose callers are patient:
no call is given up, and none is refused before the shutdown. -/
structure Tended (id : ListenerId) (dispatcher : Dispatcher) : Prop where
  listener : dispatcher.registry.ids = [id]
  sole : SoleListener id dispatcher.journal
  running : dispatcher.Running
  unrefused : dispatcher.closing = false → ∀ call ∈ dispatcher.calls, call.status ≠ .refused
  kept : ∀ call ∈ dispatcher.calls, call.status ≠ .abandoned

theorem Move.keepsTended {before after : Dispatcher} {action : DispatchAction} {id : ListenerId}
    (tended : Tended id before) (regular : action.isRegular = true)
    (move : Move before action after) : Tended id after where
  listener := by
    cases move with
    | enter work =>
        rw [enter_registry]
        exact tended.listener
    | addListener | removeListener => cases regular
    | _ => exact tended.listener
  sole := by
    refine ⟨fun lane ticket event ids member => ?_, fun lane ticket event other member => ?_⟩
    · rcases move.worked member with old | step
      · exact tended.sole.alone lane ticket event ids old
      · cases step
        exact tended.listener
    · rcases move.worked member with old | step
      · exact tended.sole.calm lane ticket event other old
      · cases step
        cases regular
  running := move.keepsRunning tended.running
  unrefused := by
    intro stillOpen
    have opened := move.keepsClosing stillOpen
    refine move.forall_status (· ≠ .refused) (tended.unrefused opened) ?_ (by decide) ?_
      (fun _ _ => by decide)
    · rintro status notFinal rfl
      cases notFinal
    · rintro (closing | ⟨lane, member, closed⟩)
      · cases opened.symm.trans closing
      · exact absurd (tended.running opened lane member) closed
  kept := by
    refine move.forall_status (· ≠ .abandoned) tended.kept ?_ (by decide)
      (fun _ => by decide) ?_
    · rintro status notFinal rfl
      cases notFinal
    · rintro ticket rfl
      cases regular

end Dispatcher

namespace Feed

/-- A dispatcher with one listener, and a reader that has not begun. -/
def listening (source : Source) (settings : Settings) (routing : String → Nat) : Feed :=
  { dispatcher :=
      (Dispatcher.start settings.dispatch.queueCapacity settings.dispatch.workers
        routing).addListener
    readers := [.start source (some settings.ssh.provider) false] }

/-- One step of listening: a reader, a call or a worker moves, or the dispatcher is told
to shut down because its readers are over. -/
inductive ListenStep (before : Feed) : Feed → Prop
  | move {action : FeedAction} {after : Feed} :
      action.isQuiet = true → before.step? action = some after → ListenStep before after
  | shutdown {after : Feed} :
      (∀ reader ∈ before.readers, ∃ outcome, reader.phase = .ended outcome) →
      before.step? (.dispatch .shutdown) = some after → ListenStep before after

/-- The feeds to which listening can come. -/
def Listens (source : Source) (settings : Settings) (feed : Feed) : Prop :=
  ∃ routing, Relation.ReflTransGen ListenStep (listening source settings routing) feed

/-- What is true of a feed as long as it listens. -/
structure Tended (source : Source) (provider : Option Provider) (feed : Feed) : Prop where
  sound : feed.Sound
  stands : ∀ reader ∈ feed.readers, reader.Stands reader.phase
  followed : feed.Followed 0 0
  dispatcher : feed.dispatcher.Tended 0
  closed : feed.dispatcher.closing = true →
    ∀ reader ∈ feed.readers, ∃ outcome, reader.phase = .ended outcome
  reader : ∃ reader, feed.readers = [reader] ∧ reader.source = source ∧
    reader.provider = provider ∧ reader.cancelled = false ∧
    reader.phase ≠ .ended (.error .dispatcherClosed)

theorem tended_listening (source : Source) (settings : Settings) (routing : String → Nat) :
    (listening source settings routing).Tended source (some settings.ssh.provider) where
  sound := by
    have run : (start settings.dispatch.queueCapacity settings.dispatch.workers routing).run?
        [.dispatch .addListener, .addReader source (some settings.ssh.provider) false] =
          some (listening source settings routing) := rfl
    exact run?_keepsSound (sound_start _ _ _) run
  stands := by
    intro reader member
    rw [List.mem_singleton.mp member]
    exact ⟨rfl, rfl⟩
  followed := by
    refine ⟨⟨Registry.proper_empty.add, List.mem_singleton_self 0, ?_⟩, Nat.zero_le _,
      fun _ _ ticket _ => Nat.zero_le ticket⟩
    intro lane ticket event ids member
    simp [listening, Dispatcher.addListener, Dispatcher.note, Dispatcher.start] at member
  dispatcher := by
    refine ⟨rfl, ⟨?_, ?_⟩, ?_, by simp [listening, Dispatcher.addListener, Dispatcher.note,
      Dispatcher.start], by simp [listening, Dispatcher.addListener, Dispatcher.note,
      Dispatcher.start]⟩
    · simp [listening, Dispatcher.addListener, Dispatcher.note, Dispatcher.start]
    · simp [listening, Dispatcher.addListener, Dispatcher.note, Dispatcher.start]
    · exact Dispatcher.running_start settings.dispatch.queueCapacity settings.dispatch.workers
        routing
  closed := fun closing => by cases closing
  reader := ⟨_, rfl, rfl, rfl, rfl, by simp [Reader.start]⟩

theorem Move.dispatcher_regular {before after : Feed} {action : FeedAction}
    (move : Move before action after) (quiet : action.isQuiet = true) :
    after.dispatcher = before.dispatcher ∨
      ∃ act, before.dispatcher.Move act after.dispatcher ∧ act.isRegular = true := by
  cases move with
  | dispatch move => exact .inr ⟨_, move, DispatchAction.isRegular_of_isQuiet quiet⟩
  | addReader | reader => exact .inl rfl
  | enqueue => exact .inr ⟨_, .enter _, rfl⟩

theorem quiet_stays {action : FeedAction} (quiet : action.isQuiet = true) (id : ListenerId) :
    action ≠ .dispatch (.removeListener id) := by
  rintro rfl
  cases quiet

theorem set_of_single {readers : List Reader} {only reader : Reader} {index : Nat}
    (single : readers = [only]) (found : readers[index]? = some reader) (new : Reader) :
    reader = only ∧ readers.set index new = [new] := by
  subst single
  match index with
  | 0 => exact ⟨(Option.some.inj found).symm, rfl⟩
  | index + 1 => cases found

section Steps

variable {source : Source} {provider : Option Provider} {before after : Feed}
  {action : FeedAction}

/-- A reader that has not ended works for a dispatcher that has refused nothing. -/
theorem Tended.unrefused {reader : Reader} {ticket : Ticket}
    (tended : Tended source provider before) (member : reader ∈ before.readers)
    (goesOn : ∀ outcome, reader.phase ≠ .ended outcome) :
    before.dispatcher.closing = false ∧
      before.dispatcher.status? ticket ≠ some .refused := by
  have opened : before.dispatcher.closing = false := by
    by_contra closing
    rw [Bool.not_eq_false] at closing
    obtain ⟨outcome, ended⟩ := tended.closed closing reader member
    exact goesOn outcome ended
  refine ⟨opened, fun refused => ?_⟩
  obtain ⟨call, found, status⟩ := Dispatcher.status?_eq_some.mp refused
  exact tended.dispatcher.unrefused opened call (List.mem_of_getElem? found) status

/-- The reader stays the only one, is not cancelled and is not turned away. -/
theorem Move.keepsOnlyReader (move : Move before action after) (quiet : action.isQuiet = true)
    (tended : Tended source provider before) (prompt : source.Prompt) :
    ∃ reader, after.readers = [reader] ∧ reader.source = source ∧
      reader.provider = provider ∧ reader.cancelled = false ∧
      reader.phase ≠ .ended (.error .dispatcherClosed) := by
  obtain ⟨only, single, ofSource, ofProvider, unfired, through⟩ := tended.reader
  have plain : ∀ read ∈ only.session, read.cancels = false := by
    intro read member
    have traced := tended.sound.readers only (single ▸ List.mem_singleton_self only)
    exact (Reader.available_prompt (ofSource ▸ prompt) read (traced.session_subset member)).1
  cases move with
  | dispatch => exact ⟨only, single, ofSource, ofProvider, unfired, through⟩
  | addReader => cases quiet
  | @reader index old new action found move =>
      obtain ⟨rfl, set⟩ := set_of_single single found new
      refine ⟨new, set, move.sameSource.trans ofSource, move.same.1.trans ofProvider,
        move.keepsUnfired quiet unfired plain, fun closed => ?_⟩
      obtain ⟨ticket, enqueuing, refused⟩ := move.turned_away quiet closed
      exact (tended.unrefused (single ▸ List.mem_singleton_self old)
        (move.not_ended quiet)).2 refused
  | @enqueue index old now read session line found between _ next =>
      obtain ⟨rfl, set⟩ := set_of_single single found
        { old with
          acts := old.acts ++ [.read] ++
            [.enqueued (Text.trim line) before.dispatcher.calls.length]
          session, cancelled := read.cancels, phase := .enqueuing before.dispatcher.calls.length }
      exact ⟨_, set, ofSource, ofProvider, plain read (next ▸ List.mem_cons_self), by simp⟩

theorem Move.keepsTended (move : Move before action after) (quiet : action.isQuiet = true)
    (tended : Tended source provider before) (prompt : source.Prompt) :
    Tended source provider after where
  sound := move.keepsSound tended.sound
  stands := move.keepsStands tended.stands
  followed := move.keepsFollowed tended.followed (quiet_stays quiet 0)
  dispatcher := by
    rcases move.dispatcher_regular quiet with same | ⟨act, moved, regular⟩
    · rw [same]
      exact tended.dispatcher
    · exact moved.keepsTended tended.dispatcher regular
  closed := by
    intro closing
    rw [move.sameClosing quiet] at closing
    have ended := tended.closed closing
    cases move with
    | dispatch => exact ended
    | addReader => cases quiet
    | reader found move =>
        obtain ⟨outcome, phase⟩ := ended _ (List.mem_of_getElem? found)
        exact absurd phase (move.not_ended quiet outcome)
    | enqueue now found between =>
        obtain ⟨outcome, phase⟩ := ended _ (List.mem_of_getElem? found)
        cases between.symm.trans phase
  reader := move.keepsOnlyReader quiet tended prompt

theorem ListenStep.keepsTended (step : ListenStep before after)
    (tended : Tended source provider before) (prompt : source.Prompt) :
    Tended source provider after := by
  cases step with
  | move quiet step => exact (Move.ofStep? step).keepsTended quiet tended prompt
  | shutdown ended step =>
      have move := Move.ofStep? step
      have sound := move.keepsSound tended.sound
      have followed := move.keepsFollowed tended.followed (by simp)
      cases move with
      | dispatch move =>
          exact ⟨sound, tended.stands, followed, move.keepsTended tended.dispatcher rfl,
            fun _ => ended, tended.reader⟩
      | reader _ move => cases move

end Steps

section Runs

variable {source : Source} {settings : Settings} {feed final : Feed}

theorem Listens.tended (listens : Listens source settings feed) (prompt : source.Prompt) :
    Tended source (some settings.ssh.provider) feed := by
  obtain ⟨routing, steps⟩ := listens
  induction steps with
  | refl => exact tended_listening source settings routing
  | tail _ step ih => exact step.keepsTended ih prompt

/-- Listening is a run of the feed in which nobody but the reader enqueues anything. -/
theorem Listens.run (listens : Listens source settings feed) :
    ∃ routing actions, (start settings.dispatch.queueCapacity settings.dispatch.workers
        routing).run? actions = some feed ∧
      ∀ work, .dispatch (.enter work) ∉ actions := by
  obtain ⟨routing, steps⟩ := listens
  refine ⟨routing, ?_⟩
  induction steps with
  | refl =>
      exact ⟨[.dispatch .addListener, .addReader source (some settings.ssh.provider) false], rfl,
        by simp⟩
  | @tail middle last _ step ih =>
      obtain ⟨actions, run, alone⟩ := ih
      have more {action : FeedAction} (stepped : middle.step? action = some last)
          (silent : ∀ work, action ≠ .dispatch (.enter work)) :
          ∃ actions, (start settings.dispatch.queueCapacity settings.dispatch.workers
              routing).run? actions = some last ∧
            ∀ work, .dispatch (.enter work) ∉ actions := by
        refine ⟨actions ++ [action], run?_append.mpr ⟨_, run, ?_⟩, fun work member => ?_⟩
        · rw [run?, List.foldlM_cons, Option.bind_eq_bind, stepped]
          rfl
        · rcases List.mem_append.mp member with old | new
          · exact alone work old
          · exact silent work (List.mem_singleton.mp new).symm
      cases step with
      | move quiet stepped =>
          refine more stepped (fun work same => ?_)
          rw [same] at quiet
          cases quiet
      | shutdown _ stepped => exact more stepped (by simp)

/-- Quiet moves are steps of listening, and no shutdown. -/
theorem listenSteps_of_quiet {actions : List FeedAction} (run : feed.run? actions = some final)
    (quiet : ∀ action ∈ actions, action.isQuiet = true) :
    Relation.ReflTransGen ListenStep feed final ∧
      final.dispatcher.closing = feed.dispatcher.closing := by
  refine foldlM_preserves
    (fun state => Relation.ReflTransGen ListenStep feed state ∧
      state.dispatcher.closing = feed.dispatcher.closing)
    (fun member so step => ?_) ⟨.refl, rfl⟩ run
  exact ⟨so.1.tail (.move (quiet _ member) step),
    ((Move.ofStep? step).sameClosing (quiet _ member)).trans so.2⟩

theorem Listens.trans (listens : Listens source settings feed)
    (steps : Relation.ReflTransGen ListenStep feed final) : Listens source settings final := by
  obtain ⟨routing, earlier⟩ := listens
  exact ⟨routing, earlier.trans steps⟩

/-- A rehearsal of listening settles at a feed that rests and whose reader is over. -/
theorem Listens.settles {rehearsal : Rehearsal} {bound : Nat}
    (listens : Listens source settings rehearsal.feed) (prompt : source.Prompt)
    (gentle : rehearsal.cast.Gentle) (enough : rehearsal.feed.cost 5 ≤ bound) :
    Relation.ReflTransGen ListenStep rehearsal.feed (rehearsal.settleWithin bound).feed ∧
      (rehearsal.settleWithin bound).feed.dispatcher.closing =
        rehearsal.feed.dispatcher.closing ∧
      (rehearsal.settleWithin bound).cast.Gentle ∧
      (rehearsal.settleWithin bound).feed.AtRest ∧
      ∀ reader ∈ (rehearsal.settleWithin bound).feed.readers,
        ∃ outcome, reader.phase = .ended outcome := by
  obtain ⟨actions, run, cast, quiet⟩ := Rehearsal.settleWithin_run bound rehearsal
  obtain ⟨steps, closing⟩ := listenSteps_of_quiet run (quiet gentle)
  have unit : rehearsal.feed.dispatcher.unitCost ≤ 5 := by
    rw [Dispatcher.unitCost, (listens.tended prompt).dispatcher.listener]
    exact Nat.le_refl 5
  have stuck := Rehearsal.settleWithin_rests gentle unit enough
  have later := listens.trans steps
  have tended := later.tended prompt
  obtain ⟨routing, whole, reached, _⟩ := later.run
  have calm : (rehearsal.settleWithin bound).cast.Gentle := cast ▸ gentle
  have rest := Rehearsal.atRest_of_stuck reached calm tended.dispatcher.kept stuck
  refine ⟨steps, closing, calm, rest, fun reader member => ?_⟩
  refine (rest.readers reader member).resolve_right (fun waits => ?_)
  obtain ⟨only, single, ofSource, _⟩ := tended.reader
  obtain rfl := List.mem_singleton.mp (single ▸ member)
  exact (tended.stands reader member).not_reading (ofSource ▸ prompt) waits.1

/-- The feed after the beginning of the shutdown. -/
def closed (feed : Feed) : Feed :=
  { feed with dispatcher := { feed.dispatcher with closing := true }.note .closing }

@[simp] theorem closed_readers (feed : Feed) : feed.closed.readers = feed.readers := rfl

@[simp] theorem closed_lanes (feed : Feed) :
    feed.closed.dispatcher.lanes = feed.dispatcher.lanes := rfl

@[simp] theorem closed_cost (feed : Feed) (price : Nat) :
    feed.closed.cost price = feed.cost price := rfl

theorem step?_shutdown (opened : feed.dispatcher.closing = false) :
    feed.step? (.dispatch .shutdown) = some feed.closed := by
  simp only [step?, dispatch?, Dispatcher.step?, Dispatcher.shutdown?, opened]
  rfl

/-- A listener that only prints. -/
theorem gentle_printer : Cast.Gentle [.plain "printer"] := by
  intro id
  match id with
  | 0 | id + 1 => exact ⟨rfl, rfl⟩

/-- A rehearsal of listening that rests with its reader over shuts down completely. -/
theorem Listens.shutsDown {rehearsal : Rehearsal}
    (listens : Listens source settings rehearsal.feed) (prompt : source.Prompt)
    (gentle : rehearsal.cast.Gentle) (rest : rehearsal.feed.AtRest)
    (ended : ∀ reader ∈ rehearsal.feed.readers, ∃ outcome, reader.phase = .ended outcome)
    (opened : rehearsal.feed.dispatcher.closing = false) :
    Relation.ReflTransGen ListenStep rehearsal.feed rehearsal.shutdown.feed ∧
      rehearsal.shutdown.feed.dispatcher.isOver = true := by
  have stepped := step?_shutdown opened
  obtain ⟨after, acted, feed, cast⟩ : ∃ after,
      rehearsal.act? (.dispatch .shutdown) = some after ∧
        after.feed = rehearsal.feed.closed ∧ after.cast = rehearsal.cast := by
    rw [Rehearsal.act?, stepped]
    exact ⟨_, rfl, rfl, rfl⟩
  have begun : Relation.ReflTransGen ListenStep rehearsal.feed after.feed :=
    feed ▸ .single (.shutdown ended stepped)
  have enough : after.feed.cost 5 ≤ after.bound := by
    have cost := rest.cost_le ended 5
    have bound : 8 * (after.feed.readers.length + after.feed.dispatcher.lanes.length) ≤
        after.bound := Nat.le_add_left _ _
    rw [feed, closed_readers, closed_lanes] at bound
    rw [feed, closed_cost]
    omega
  obtain ⟨more, closing, _, rests, _⟩ :=
    (listens.trans begun).settles prompt (cast ▸ gentle) enough
  rw [Rehearsal.shutdown, acted, Option.getD_some]
  refine ⟨begun.trans more, rests.complete (closing.trans ?_)⟩
  rw [feed]
  rfl

/-- However far listening has come, it can go on up to the end of the shutdown. -/
theorem Listens.completes (listens : Listens source settings feed) (prompt : source.Prompt) :
    ∃ final, Relation.ReflTransGen ListenStep feed final ∧
      final.dispatcher.isOver = true := by
  obtain ⟨rehearsal, rfl, gentle⟩ : ∃ rehearsal : Rehearsal, rehearsal.feed = feed ∧
      rehearsal.cast.Gentle :=
    ⟨{ feed, cast := [.plain "printer"], permits := 0, now := .epoch, turn := 0, heard := [] },
      rfl, gentle_printer⟩
  obtain ⟨steps, _, calm, rest, ended⟩ := listens.settles prompt gentle (Nat.le_refl _)
  cases closing : (rehearsal.settleWithin _).feed.dispatcher.closing with
  | true => exact ⟨_, steps, rest.complete closing⟩
  | false =>
      obtain ⟨more, complete⟩ :=
        (listens.trans steps).shutsDown prompt calm rest ended closing
      exact ⟨_, steps.trans more, complete⟩

end Runs

end Feed

/-- The rehearsal of listening before anything has moved. -/
def Rehearsal.listening (source : Source) (settings : Settings) (now : Instant) : Rehearsal :=
  { feed := Feed.listening source settings String.length, cast := [.plain "printer"]
    permits := 0, now, turn := 0, heard := [] }

theorem Rehearsal.cost_listening (source : Source) (settings : Settings) (now : Instant) :
    (listening source settings now).feed.cost 5 ≤ (listening source settings now).bound := by
  have lanes : (listening source settings now).feed.dispatcher.lanes =
      List.replicate (max 1 settings.dispatch.workers) Dispatcher.idleLane := rfl
  have calls : (listening source settings now).feed.dispatcher.callsCost 5 = 0 := rfl
  have reader : (listening source settings now).feed.readers =
      [.start source (some settings.ssh.provider) false] := rfl
  have idle : Dispatcher.idleLane.cost 5 = 2 := rfl
  rw [Feed.cost, Dispatcher.cost, Dispatcher.lanesCost, calls, lanes, reader, bound, lanes, reader]
  simp only [List.map_replicate, idle, List.sum_replicate, Nat.nsmul_eq_mul, List.map_cons,
    List.map_nil, List.sum_cons, List.sum_nil, List.foldl_cons, List.foldl_nil,
    List.length_replicate, List.length_cons, List.length_nil, Reader.cost, Reader.available,
    Reader.start]
  cases source streamCommand with
  | ok | error =>
      simp only [listening, List.length_cons, List.length_nil]
      omega

theorem CommandRun.listen_listening (source : Source) (settings : Settings) (now : Instant) :
    listen source settings now =
      .ofFeed (Rehearsal.listening source settings now).settle.shutdown.feed := rfl

/-- To listen on the fixed schedule is one course of listening, up to the end of the
shutdown. -/
theorem CommandRun.listen_eq (source : Source) (settings : Settings) (now : Instant)
    (prompt : source.Prompt) :
    ∃ feed, Feed.Listens source settings feed ∧ feed.dispatcher.isOver = true ∧
      listen source settings now = .ofFeed feed := by
  have began : Feed.Listens source settings (Rehearsal.listening source settings now).feed :=
    ⟨String.length, .refl⟩
  obtain ⟨steps, still, calm, rest, ended⟩ := began.settles prompt Feed.gentle_printer
    (Rehearsal.cost_listening source settings now)
  have settled :
      Feed.Listens source settings (Rehearsal.listening source settings now).settle.feed :=
    began.trans steps
  obtain ⟨more, complete⟩ := settled.shutsDown prompt calm rest ended still
  exact ⟨_, settled.trans more, complete, listen_listening source settings now⟩

end ReviewFeed
