import Mathlib.Data.List.Forall2
import ReviewFeed.Proofs.Command.Listening
import ReviewFeed.Proofs.Command.Querying
import ReviewFeed.Proofs.Event.Identity
import ReviewFeed.Proofs.Event.Written

/-!
# What listening prints

In every course of listening to its end, the printed lines are the renderings of the
events for which the lines of the child are usable payloads, in the order of the lines.
The exit code tells whether the child could be started and did not report a failed
connection; it takes nothing from what is printed.
-/

namespace ReviewFeed

/-- The usable payload that a text holds, if any. -/
def usablePayload? (text : String) : Option Members :=
  match Json.read? text with
  | some (.object members) => if Event.isUsable members then some members else none
  | _ => none

/-- A line tells of an event: it is read as a usable object of this event, with where and
when the event was received. -/
structure Event.ToldBy (event : Event) (provider : Option Provider) (now : Instant)
    (printed : Members) : Prop where
  event : classify? printed = some event
  usable : isUsable printed = true
  provider : (printed.lookup "provider").bind Provider.read? = provider
  receivedOn : printed.lookup "received_on" = some (.string now.text)

/-- A line is the rendering of the event of a payload, stamped with its provider, and the
event is read from it. -/
def Renders (provider : Option Provider) (members : Members) (line : String) : Prop :=
  ∃ event now, Event.classify? members = some event ∧
    line = (event.stamp provider now).render ∧
    ∃ printed, Json.readObject? line = some printed ∧ event.ToldBy provider now printed

theorem Event.renders {members : Members} {event : Event} (provider : Option Provider)
    (now : Instant) (classified : classify? members = some event)
    (usable : isUsable members = true) :
    Renders provider members (event.stamp provider now).render := by
  have copied := (event.stamp provider now).copied_printed.of_stamp
  refine ⟨event, now, classified, rfl, _, readObject?_render classified provider now, ?_⟩
  exact
    { event := copied.classify? classified
      usable := copied.isUsable classified usable
      provider := event.lookup_provider_printed provider now
      receivedOn := event.lookup_receivedOn_printed provider now }

theorem Renders.one_line {provider : Option Provider} {members : Members} {line : String}
    (renders : Renders provider members line) : '\n' ∉ line.toList := by
  obtain ⟨event, now, _, rfl, _⟩ := renders
  exact Json.lineFeed_not_mem_render (event.stamp provider now).toJson

theorem usablePayload?_eq_some {text : String} {members : Members} :
    usablePayload? text = some members ↔
      Json.read? text = some (.object members) ∧ Event.isUsable members = true := by
  rw [usablePayload?]
  cases Json.read? text with
  | none => simp
  | some value =>
      cases value with
      | object found =>
          simp only [Option.ite_none_right_eq_some, Option.some.injEq, Json.object.injEq]
          constructor
          · rintro ⟨usable, rfl⟩
            exact ⟨rfl, usable⟩
          · rintro ⟨rfl, usable⟩
            exact ⟨usable, rfl⟩
      | _ => simp

theorem Work.event?_ofLine (text : String) (provider : Option Provider) (now : Instant) :
    (Work.ofLine text provider now).event? =
      (usablePayload? text).bind
        (fun members => (Event.classify? members).map (Event.stamp provider now)) := by
  rw [Work.event?, usablePayload?]
  simp only [Work.ofLine]
  cases Json.read? text with
  | none => rfl
  | some value =>
      cases value with
      | object members =>
          simp only [Work.eventOfMembers?]
          cases Event.isUsable members <;> rfl
      | _ => rfl

/-- A unit of a line becomes the event of the payload that the line holds. -/
theorem Work.rel_event?_ofLine (text : String) (provider : Option Provider) (now : Instant) :
    Option.Rel (Renders provider) (usablePayload? text)
      ((Work.ofLine text provider now).event?.map Event.render) := by
  rw [Work.event?_ofLine]
  cases payload : usablePayload? text with
  | none => exact .none
  | some members =>
      obtain ⟨_, usable⟩ := usablePayload?_eq_some.mp payload
      obtain ⟨event, classified⟩ := Event.exists_classified usable
      rw [Option.bind_some, classified]
      exact .some (event.renders provider now classified usable)

namespace Reader

/-- A reader that stops by itself stops at a read that finds no line. -/
theorem Stops.last {reader : Reader} {last : Session} {outcome : Except StreamError Nat}
    (stops : Stops reader last outcome) (unfired : reader.cancelled = false)
    (through : outcome ≠ .error .dispatcherClosed) :
    ∃ read, last = [read] ∧
      (read.reading = .ended ∧ (∃ count, outcome = .ok count) ∨
        ∃ error, read.reading = .failed error ∧ outcome = .error (.session error)) := by
  cases stops with
  | cancelled fired | givenUp fired => cases unfired.symm.trans fired
  | ended found => exact ⟨_, rfl, .inl ⟨found, _, rfl⟩⟩
  | failed found => exact ⟨_, rfl, .inr ⟨_, found, rfl⟩⟩
  | refused => exact absurd rfl through

section Ends

variable {reader : Reader} {outcome : Except StreamError Nat}

/-- A reader whose child was not started has no lines, and fails. -/
theorem ended_of_error {error : SessionError}
    (failed : reader.source streamCommand = .error error)
    (stands : reader.Stands (.ended outcome)) :
    reader.workLines = [] ∧ outcome = .error (.session error) := by
  constructor
  · have nothing : reader.consumed = [] := by
      rw [consumed, available, failed]
      split
      · rfl
      · exact List.take_nil
    rw [workLines, linesRead, nothing]
    rfl
  · rcases stands with ⟨other, otherFailed, rfl, _⟩ | ⟨_, _, _, _, ledger, _⟩
    · obtain rfl := Except.error.inj (failed.symm.trans otherFailed)
      rfl
    · cases failed.symm.trans ledger.opened

/-- A reader of a child that ends has all of its lines, and fails if the connection
failed. -/
theorem ended_of_child {child : Child} {status : ExitStatus} (ends : child.status = some status)
    (opened : reader.source streamCommand = .ok child.session)
    (stands : reader.Stands (.ended outcome)) (ended : reader.phase = .ended outcome)
    (unfired : reader.cancelled = false) (through : outcome ≠ .error .dispatcherClosed) :
    reader.workLines = child.lines.filter (fun line => !Text.isBlankLine line) ∧
      ((∃ count, outcome = .ok count) ∧ status ≠ .code 255 ∨
        (∃ error, outcome = .error error) ∧ status = .code 255) := by
  rcases stands with ⟨error, failed, _⟩ | ⟨passed, last, unread, acts, ledger, _, rest, stops⟩
  · cases opened.symm.trans failed
  obtain ⟨read, rfl, stopped⟩ := stops.last unfired through
  have notLine : read.isLine = false := by
    rcases stopped with ⟨found, _⟩ | ⟨error, found, _⟩ <;> rw [Read.isLine, found]
  have whole : child.session ++ [.atEnd] = passed ++ read :: unread := by
    have whole := ledger.whole
    rw [ledger.opened] at opened
    rw [← Except.ok.inj opened, whole, List.append_assoc, List.singleton_append]
  obtain ⟨rfl, rfl⟩ := Child.split_session ends whole
    (fun read member => Read.isLine_iff.mpr (ledger.lines read member)) notLine
  refine ⟨?_, ?_⟩
  · rw [ledger.workLines ended rest, List.filterMap_append, Child.visitLine?_lines,
      List.filterMap_cons_none (Read.visitLine?_no_line _ ?_)]
    · exact List.append_nil _
    · intro line found
      rw [Read.isLine, found] at notLine
      cases notLine
  · rw [Child.ending_eq ends] at stopped
    split at stopped
    · rename_i failed
      rcases stopped with ⟨found, _⟩ | ⟨error, _, rfl⟩
      · cases found
      · exact .inr ⟨⟨_, rfl⟩, failed⟩
    · rename_i well
      rcases stopped with ⟨_, ok⟩ | ⟨error, found, _⟩
      · exact .inl ⟨ok, well⟩
      · cases found

end Ends

end Reader

theorem Child.prompt {child : Child} {status : ExitStatus} (ends : child.status = some status)
    {source : Source} (opened : source streamCommand = .ok child.session) : source.Prompt := by
  intro session same read member
  obtain rfl := Except.ok.inj (opened.symm.trans same)
  rcases List.mem_append.mp member with line | last
  · obtain ⟨text, _, rfl⟩ := List.mem_map.mp line
    exact ⟨rfl, by simp [Read.ofLine]⟩
  · rw [List.mem_singleton.mp last, Child.ending_eq ends]
    refine ⟨rfl, ?_⟩
    split <;> simp

namespace Feed

section Endings

variable {source : Source} {settings : Settings} {feed : Feed}

/-- When the shutdown is over, the reader is over, and what its units become is printed. -/
theorem Listens.printed (listens : Listens source settings feed) (prompt : source.Prompt)
    (complete : feed.dispatcher.isOver = true) :
    ∃ reader outcome, feed.readers = [reader] ∧ reader.source = source ∧
      reader.cancelled = false ∧ reader.phase = .ended outcome ∧
      outcome ≠ .error .dispatcherClosed ∧ reader.Stands (.ended outcome) ∧
      List.Forall₂
        (fun line work => ∃ now,
          work = .ofLine (Text.trim line) (some settings.ssh.provider) now)
        reader.workLines (reader.units feed.dispatcher) ∧
      ReviewFeed.printed feed.dispatcher.journal =
        (reader.units feed.dispatcher).filterMap Work.event? := by
  have tended := listens.tended prompt
  obtain ⟨reader, single, ofSource, ofProvider, unfired, notClosed⟩ := tended.reader
  have member : reader ∈ feed.readers := single ▸ List.mem_singleton_self reader
  have closing : feed.dispatcher.closing = true := (Bool.and_eq_true_iff.mp complete).1
  obtain ⟨outcome, ended⟩ := tended.closed closing reader member
  rw [ended] at notClosed
  have through : outcome ≠ .error .dispatcherClosed := fun same => notClosed (by rw [same])
  have isThrough : reader.isThrough = true := by
    rw [Reader.isThrough, ended]
    match outcome with
    | .error .dispatcherClosed => exact absurd rfl through
    | .error (.session error) | .ok count => rfl
  have traced := tended.sound.readers reader member
  obtain ⟨routing, actions, run, alone⟩ := listens.run
  have owned : Owned actions feed :=
    run?_preserves (Owned actions) (fun member owned move => move.keepsOwned member owned)
      (fun ticket call found => by cases found) run
  have own := tended.sound.accepted_of_name owned (by rw [single]; exact List.nodup_singleton _)
    (fun work entered => absurd entered (alone work)) member (traced.accepted isThrough)
  have named : ∀ ticket < feed.dispatcher.calls.length,
      feed.dispatcher.isNamed reader.name? ticket = true := by
    intro ticket inside
    rcases owned ticket _ (List.getElem?_eq_getElem inside) with entered | ⟨owner, found, mine, _⟩
    · exact absurd entered (alone _)
    · obtain rfl := List.mem_singleton.mp (single ▸ found)
      exact traced.isNamed mine
  refine ⟨reader, outcome, single, ofSource, unfired, ended, through,
    ended ▸ tended.stands reader member, ofProvider ▸ traced.units, ?_⟩
  rw [tended.sound.dispatcher.printed_eq complete tended.dispatcher.sole named]
  exact tended.sound.heard_of_reader tended.followed complete member own

end Endings

end Feed

/-- The usable payloads among the lines of a child, in order. -/
def Child.payloads (child : Child) : List Members :=
  child.resultLines.filterMap usablePayload?

/-- The usable payloads that come of a launch. -/
def launchedPayloads : Except SpawnFault Child → List Members
  | .ok child => child.payloads
  | .error _ => []

/-- Whether a child was not started, or reports a failed connection. -/
def launchFails : Except SpawnFault Child → Bool
  | .ok child => child.status = some (.code 255)
  | .error _ => true

theorem CommandRun.ofFeed_eq {feed : Feed} {reader : Reader} {outcome : Except StreamError Nat}
    (single : feed.readers = [reader]) (ended : reader.phase = .ended outcome)
    (complete : feed.dispatcher.isOver = true) :
    ofFeed feed =
      { printed := (ReviewFeed.printed feed.dispatcher.journal).map Event.render
        outcome := some (match outcome with
          | .ok _ => .ok ()
          | .error error => .error error.message) } := by
  simp only [ofFeed, single, complete, List.head?_cons, Option.bind_some, ended, if_true]
  cases outcome <;> rfl

namespace Surroundings

section Listening

variable {surroundings : Surroundings} {settings : Settings} {launched : Except SpawnFault Child}

theorem prompt_of_launch
    (launch : surroundings.launch (settings.ssh.arguments ++ [streamCommand]) = launched)
    (ends : ∀ child, launched = .ok child → child.status ≠ none) :
    (surroundings.source settings.ssh).Prompt := by
  cases launched with
  | error fault =>
      intro session opened
      cases (source_of_error launch).symm.trans opened
  | ok child =>
      obtain ⟨status, some⟩ := Option.ne_none_iff_exists'.mp (ends child rfl)
      exact Child.prompt some (source_of_ok launch)

/-- What the reader of a launched child has read when it is over, and how it is over. -/
theorem ended_of_launch {reader : Reader} {outcome : Except StreamError Nat}
    (launch : surroundings.launch (settings.ssh.arguments ++ [streamCommand]) = launched)
    (ends : ∀ child, launched = .ok child → child.status ≠ none)
    (ofSource : reader.source = surroundings.source settings.ssh)
    (unfired : reader.cancelled = false) (ended : reader.phase = .ended outcome)
    (through : outcome ≠ .error .dispatcherClosed) (stands : reader.Stands (.ended outcome)) :
    reader.workLines.filterMap (fun line => usablePayload? (Text.trim line)) =
        launchedPayloads launched ∧
      ((∃ count, outcome = .ok count) ∧ launchFails launched = false ∨
        (∃ error, outcome = .error error) ∧ launchFails launched = true) := by
  cases launched with
  | error fault =>
      obtain ⟨nothing, rfl⟩ :=
        Reader.ended_of_error (ofSource ▸ source_of_error launch) stands
      rw [nothing]
      exact ⟨rfl, .inr ⟨⟨_, rfl⟩, rfl⟩⟩
  | ok child =>
      obtain ⟨status, some⟩ := Option.ne_none_iff_exists'.mp (ends child rfl)
      obtain ⟨lines, result⟩ := Reader.ended_of_child some (ofSource ▸ source_of_ok launch)
        stands ended unfired through
      refine ⟨?_, ?_⟩
      · rw [lines, launchedPayloads, Child.payloads, Child.resultLines, List.filterMap_map,
          Function.comp_def]
      · simp only [launchFails, some, Option.some.injEq]
        exact result.imp (fun ⟨ok, well⟩ => ⟨ok, decide_eq_false well⟩)
          (fun ⟨error, failed⟩ => ⟨error, decide_eq_true failed⟩)

/-- How the program ends with a feed whose shutdown is over. -/
theorem result_of_over {feed : Feed} (session : Option (List String))
    (launch : surroundings.launch (settings.ssh.arguments ++ [streamCommand]) = launched)
    (ends : ∀ child, launched = .ok child → child.status ≠ none)
    (listens : Feed.Listens (surroundings.source settings.ssh) settings feed)
    (complete : feed.dispatcher.isOver = true) :
    ∃ result, ProgramResult.ofRun? session (.ofFeed feed) = some result ∧
      List.Forall₂ (Renders (some settings.ssh.provider)) (launchedPayloads launched)
        result.printed ∧
      result.code = if launchFails launched then 1 else 0 := by
  obtain ⟨reader, outcome, single, ofSource, unfired, ended, through, stands, units, prints⟩ :=
    listens.printed (prompt_of_launch launch ends) complete
  obtain ⟨payloads, result⟩ :=
    ended_of_launch launch ends ofSource unfired ended through stands
  have rendered : List.Forall₂ (Renders (some settings.ssh.provider)) (launchedPayloads launched)
      ((printed feed.dispatcher.journal).map Event.render) := by
    rw [← payloads, prints, List.map_filterMap]
    refine List.rel_filterMap (fun line work made => ?_) units
    obtain ⟨now, rfl⟩ := made
    exact Work.rel_event?_ofLine (Text.trim line) (some settings.ssh.provider) now
  rw [CommandRun.ofFeed_eq single ended complete]
  rcases result with ⟨⟨count, rfl⟩, well⟩ | ⟨⟨error, rfl⟩, failed⟩
  · exact ⟨_, rfl, rendered, by simp [well]⟩
  · exact ⟨_, rfl, rendered, by simp [failed]⟩

end Listening

theorem canRun_listen {settings : Settings} :
    Command.listen.canRun settings = true ↔
      settings.dispatch.queueCapacity < 2 ^ 61 ∧ settings.dispatch.workers < 2 ^ 60 := by
  rw [Command.canRun, Dispatcher.canStart, Bool.and_eq_true, decide_eq_true_iff,
    decide_eq_true_iff]
  exact and_congr Nat.lt_succ_iff.symm Nat.lt_succ_iff.symm

section Invoking

variable {surroundings : Surroundings} {invocation : Invocation} {settings : Settings}

/-- What an invocation of listening comes to once its settings are loaded. -/
theorem invoke_listen (loaded : surroundings.settings invocation = .ok settings)
    (asked : invocation.command = .listen) (canRun : Command.listen.canRun settings = true) :
    surroundings.invoke invocation =
      ProgramResult.ofRun? (surroundings.started settings.ssh .listen)
        (CommandRun.listen (surroundings.source settings.ssh) settings surroundings.now) := by
  simp only [invoke, loaded, asked, canRun, if_true]
  rfl

theorem invoke_listen_too_large (loaded : surroundings.settings invocation = .ok settings)
    (asked : invocation.command = .listen) (tooLarge : ¬Command.listen.canRun settings = true) :
    surroundings.invoke invocation = some .panicked := by
  simp only [invoke, loaded, asked, tooLarge, if_false, Bool.false_eq_true]

end Invoking

/-- Listening prints one line for each line of the child that holds a usable payload, in
order: the rendering of its event, stamped with the provider of the settings, from which
the event is read again.  It fails exactly if the child was not started or reports a failed
connection, and that takes nothing from what it prints.  This is so in every course of the
reader and the workers, each of which can be continued to its end, and the program takes
one of them.  With settings that are valid and too large for a dispatcher the program
panics instead, and prints nothing. -/
theorem listen_prints_every_event {surroundings : Surroundings} {invocation : Invocation}
    {settings : Settings} {launched : Except SpawnFault Child}
    (loaded : surroundings.settings invocation = .ok settings)
    (asked : invocation.command = .listen)
    (launch : surroundings.launch (settings.ssh.arguments ++ [streamCommand]) = launched)
    (ends : ∀ child, launched = .ok child → child.status ≠ none) :
    if settings.dispatch.queueCapacity < 2 ^ 61 ∧ settings.dispatch.workers < 2 ^ 60 then
      (∃ feed, Feed.Listens (surroundings.source settings.ssh) settings feed ∧
        feed.dispatcher.isOver = true ∧
        surroundings.invoke invocation =
          ProgramResult.ofRun? (surroundings.started settings.ssh .listen) (.ofFeed feed)) ∧
      ∀ feed, Feed.Listens (surroundings.source settings.ssh) settings feed →
        (∃ final, Relation.ReflTransGen Feed.ListenStep feed final ∧
          final.dispatcher.isOver = true) ∧
        (feed.dispatcher.isOver = true → ∃ result,
          ProgramResult.ofRun? (surroundings.started settings.ssh .listen) (.ofFeed feed) =
            some result ∧
          List.Forall₂
            (fun members line => Renders (some settings.ssh.provider) members line ∧
              '\n' ∉ line.toList)
            (launchedPayloads launched) result.printed ∧
          result.code = if launchFails launched then 1 else 0)
    else
      surroundings.invoke invocation =
        some { code := 101, printed := [], error := none, session := none } := by
  split
  · rename_i fits
    have prompt := prompt_of_launch launch ends
    refine ⟨?_, fun feed listens => ⟨listens.completes prompt, fun complete => ?_⟩⟩
    · obtain ⟨feed, listens, complete, same⟩ :=
        CommandRun.listen_eq (surroundings.source settings.ssh) settings surroundings.now prompt
      refine ⟨feed, listens, complete, ?_⟩
      rw [invoke_listen loaded asked (canRun_listen.mpr fits), same]
    · obtain ⟨result, ran, rendered, code⟩ :=
        result_of_over (surroundings.started settings.ssh .listen) launch ends listens complete
      exact ⟨result, ran, rendered.imp (fun _ _ renders => ⟨renders, renders.one_line⟩), code⟩
  · rename_i tooLarge
    exact invoke_listen_too_large loaded asked (fun canRun => tooLarge (canRun_listen.mp canRun))

/-- A usable payload, a blank line, a line without meaning, and a connection that was
lost. -/
def eventsChild : Child :=
  { output := Utf8.encode
      "\x7b\"type\":\"project-created\",\"projectName\":\"p\"\x7d\n \nnoise\n".toList
    diagnostics := Utf8.encode "lost".toList, status := some (.code 255) }

def listenInvocation : Invocation :=
  { settingsPath := none, verbosity := 0, command := .listen }

/-- The line that is printed for the event of the child. -/
def eventLine : String :=
  "\x7b\"type\":\"project-created\",\"projectName\":\"p\",\"projectHead\":null," ++
    "\"eventCreatedOn\":null," ++
    "\"provider\":\x7b\"name\":\"localhost\",\"host\":\"localhost\",\"port\":\"29418\"," ++
    "\"scheme\":\"ssh\",\"url\":null,\"version\":null\x7d," ++
    "\"received_on\":\"1970-01-01T00:00:00Z\"\x7d"

theorem listen_prints_every_event_lost :
    ∃ result, (launching eventsChild).invoke listenInvocation = some result ∧
      result.printed = [eventLine] ∧ result.code = 1 ∧
      Renders (some SshSettings.default.provider)
        [("projectName", .string "p"), ("type", .string "project-created")] eventLine := by
  have loaded : (launching eventsChild).settings listenInvocation = .ok .default := rfl
  have launch : (launching eventsChild).launch (SshSettings.default.arguments ++ [streamCommand]) =
      .ok eventsChild := rfl
  have payloads : launchedPayloads (.ok eventsChild) =
      [[("projectName", .string "p"), ("type", .string "project-created")]] := by
    have kept : eventsChild.resultLines =
        ["\x7b\"type\":\"project-created\",\"projectName\":\"p\"\x7d", "noise"] := by
      decide +kernel
    rw [launchedPayloads, Child.payloads, kept]
    rfl
  have shown : ((launching eventsChild).invoke listenInvocation).map ProgramResult.printed =
      some [eventLine] := by
    decide +kernel
  have told := listen_prints_every_event loaded rfl launch
    (fun child same => by cases same; simp [eventsChild])
  rw [if_pos (by decide)] at told
  obtain ⟨⟨feed, listens, complete, invoked⟩, each⟩ := told
  obtain ⟨result, ran, rendered, code⟩ := (each feed listens).2 complete
  rw [invoked, ran] at shown
  have printed : result.printed = [eventLine] := Option.some.inj shown
  rw [payloads, printed] at rendered
  exact ⟨result, invoked.trans ran, printed, code, (List.forall₂_cons.mp rendered).1.1⟩

/-- Settings by which every queue has 2 ^ 62 places. -/
def hugeQueues : Settings :=
  { Settings.default with
    dispatch := { DispatchSettings.default with queueCapacity := 4611686018427387904 } }

/-- A settings file that says so, and a child that writes one event and ends well. -/
def listeningWithHugeQueues : Surroundings :=
  { launching { eventsChild with diagnostics := [], status := some (.code 0) } with
    files := fun _ => .bytes
      (Utf8.encode "[dispatch]\nqueue_capacity = 4611686018427387904\n".toList) }

/-- Settings are valid with which the program panics before it starts a child, and prints
nothing of an event that it would have received. -/
theorem huge_queues_lose_events :
    hugeQueues.validate.isOk = true ∧
      listeningWithHugeQueues.settings listenInvocation = .ok hugeQueues ∧
      ∃ child, listeningWithHugeQueues.launch (SshSettings.default.arguments ++ [streamCommand]) =
        .ok child ∧
      child.status = some (.code 0) ∧
      child.resultLines.map (fun line => (usablePayload? line).isSome) = [true, false] ∧
      listeningWithHugeQueues.invoke listenInvocation =
        some { code := 101, printed := [], error := none, session := none } := by
  refine ⟨?_, ?_, _, rfl, rfl, ?_, ?_⟩
  · decide +kernel
  · decide +kernel
  · decide +kernel
  · decide +kernel

end Surroundings

end ReviewFeed
