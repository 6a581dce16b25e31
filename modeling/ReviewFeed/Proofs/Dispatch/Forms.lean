import ReviewFeed.Proofs.Dispatch.Closing
import ReviewFeed.Proofs.Dispatch.Reported
import ReviewFeed.Proofs.Dispatch.Rest
import ReviewFeed.Proofs.Event.Identity

/-!
# Forms of work

Work comes as a line, as an object or as a finished event.  The same object becomes the
same event whichever way it came, and the filter before a queue drops exactly the objects
that a worker would drop behind it.
-/

namespace ReviewFeed

namespace Work

variable {members : Members} {provider : Option Provider} {now : Instant}

theorem event?_ofLine_object {line : String} (read : Json.read? line = some (.object members)) :
    (ofLine line provider now).event? = (ofObject members provider now).event? := by
  simp only [event?, ofLine, ofObject, read]

theorem event?_ofLine_other {line : String}
    (other : ∀ members, Json.read? line ≠ some (.object members)) :
    (ofLine line provider now).event? = none := by
  cases read : Json.read? line with
  | none => simp only [event?, ofLine, read]
  | some value =>
      cases value with
      | object members => exact absurd read (other members)
      | null | bool _ | number _ | string _ | array _ => simp only [event?, ofLine, read]

theorem event?_ofObject_eq_some_iff {event : Event} :
    (ofObject members provider now).event? = some event ↔
      Event.isUsable members = true ∧
        ∃ plain, Event.classify? members = some plain ∧ plain.stamp provider now = event := by
  have made : (ofObject members provider now).event? =
      if Event.isUsable members then (Event.classify? members).map (Event.stamp provider now)
      else none := rfl
  rw [made, Option.ite_none_right_eq_some, Option.map_eq_some_iff]

theorem event?_ofObject_eq_none_iff :
    (ofObject members provider now).event? = none ↔ Event.isUsable members = false := by
  rw [Option.eq_none_iff_forall_ne_some, ← Bool.not_eq_true]
  constructor
  · intro dropped usable
    obtain ⟨plain, classified⟩ := Event.exists_classified usable
    exact dropped _ (event?_ofObject_eq_some_iff.mpr ⟨usable, plain, classified, rfl⟩)
  · intro useless event becomes
    exact useless (event?_ofObject_eq_some_iff.mp becomes).1

end Work

/-- The unit of a call stays what it is. -/
theorem Feed.run?_keepsWork {feed final : Feed} {actions : List FeedAction} {ticket : Ticket}
    {call : EnqueueCall} (found : feed.dispatcher.calls[ticket]? = some call)
    (run : feed.run? actions = some final) :
    ∃ later, final.dispatcher.calls[ticket]? = some later ∧ later.work = call.work := by
  refine run?_preserves
    (fun state => ∃ later, state.dispatcher.calls[ticket]? = some later ∧
      later.work = call.work)
    (fun _ so move => ?_) ⟨call, found, rfl⟩ run
  obtain ⟨later, laterFound, same⟩ := so
  rcases move.dispatcher with unmoved | ⟨action, moved, _⟩
  · rw [unmoved]
    exact ⟨later, laterFound, same⟩
  · obtain ⟨status, kept, _⟩ := moved.keepsCall laterFound
    exact ⟨_, kept, same⟩

namespace Rehearsal

variable {rehearsal : Rehearsal} {members : Members} {provider : Option Provider}

/-- To enqueue a unit with success is to make a run after which its call is accepted. -/
theorem enqueue_accepted {work : Work} (accepted : (rehearsal.enqueue work).2 = .accepted) :
    ∃ actions call, rehearsal.feed.run? actions = some (rehearsal.enqueue work).1.feed ∧
      (rehearsal.enqueue work).1.feed.dispatcher.calls[rehearsal.feed.dispatcher.calls.length]? =
        some call ∧
      call.work = work ∧ call.status = .accepted := by
  obtain ⟨entered, acted, dispatcher⟩ : ∃ entered,
      rehearsal.act? (.dispatch (.enter work)) = some entered ∧
        entered.feed.dispatcher = rehearsal.feed.dispatcher.enter work := ⟨_, rfl, rfl⟩
  obtain ⟨actions, settled, _⟩ := settleWithin_run entered.bound entered
  have found := rehearsal.feed.dispatcher.enter_getElem? work
  rw [← dispatcher] at found
  obtain ⟨call, kept, same⟩ := Feed.run?_keepsWork found settled
  have run : rehearsal.feed.run? (.dispatch (.enter work) :: actions) =
      some entered.settle.feed := by
    rw [Feed.run?, List.foldlM_cons, Option.bind_eq_bind, (act?_eq_some acted).1]
    exact settled
  have status : entered.settle.feed.dispatcher.status? rehearsal.feed.dispatcher.calls.length =
      some call.status := Dispatcher.status?_eq_some.mpr ⟨call, kept, rfl⟩
  -- The reply tells how the call stands, so it is accepted and nothing was given up.
  rw [enqueue, acted, Option.getD_some] at accepted ⊢
  simp only [status] at accepted ⊢
  split at accepted
  · rename_i isAccepted
    exact ⟨_, call, run, kept, same, Option.some.inj isAccepted⟩
  · cases accepted
  · cases accepted

theorem enqueueObject_eq_none_iff :
    (rehearsal.enqueueObject members provider).2 = none ↔
      (Work.ofObject members provider rehearsal.now).event? = none := by
  rw [Work.event?_ofObject_eq_none_iff, enqueueObject, Work.ofUsable?]
  cases Event.isUsable members with
  | true => simp
  | false => simp

theorem enqueueObject_accepted
    (accepted : (rehearsal.enqueueObject members provider).2 = some .accepted) :
    (rehearsal.enqueue (.ofObject members provider rehearsal.now)).2 = .accepted ∧
      (rehearsal.enqueueObject members provider).1 =
        (rehearsal.enqueue (.ofObject members provider rehearsal.now)).1 := by
  rw [enqueueObject, Work.ofUsable?] at accepted ⊢
  cases usable : Event.isUsable members with
  | true =>
      simp only [usable, if_true, Option.some.injEq] at accepted ⊢
      exact ⟨accepted, trivial⟩
  | false => simp [usable] at accepted

/-- An object that was accepted becomes an event and leads to one notification of it, in
whatever way the feed goes on. -/
theorem leadsTo_of_accepted {capacity workers : Nat} {routing : String → Nat}
    {actions : List FeedAction}
    (run : (Feed.start capacity workers routing).run? actions = some rehearsal.feed)
    (accepted : (rehearsal.enqueueObject members provider).2 = some .accepted) :
    ∃ event, (Work.ofObject members provider rehearsal.now).event? = some event ∧
      ∀ late final, (rehearsal.enqueueObject members provider).1.feed.run? late = some final →
        final.dispatcher.LeadsTo rehearsal.feed.dispatcher.calls.length [event] := by
  have replied : (rehearsal.enqueueObject members provider).2 ≠ none := by
    rw [accepted]
    exact Option.some_ne_none _
  obtain ⟨event, becomes⟩ := Option.ne_none_iff_exists'.mp
    (enqueueObject_eq_none_iff.not.mp replied)
  obtain ⟨reply, same⟩ := enqueueObject_accepted accepted
  obtain ⟨moves, call, enqueued, found, work, status⟩ := enqueue_accepted reply
  refine ⟨event, becomes, fun late final runLate => ?_⟩
  rw [same] at runLate
  have wholeRun := Feed.run?_append.mpr ⟨_, Feed.run?_append.mpr ⟨_, run, enqueued⟩, runLate⟩
  obtain ⟨_, dispatcherRun⟩ := Feed.dispatcher_run wholeRun
  have kept := Feed.run?_keepsFinal found (by rw [status]; rfl) runLate
  have leads := Dispatcher.leadsTo_of_run dispatcherRun kept status
  rwa [Work.notifications, work, becomes] at leads

end Rehearsal

namespace Dispatcher

/-- A line becomes the event of the object that it holds, and none if it holds no object.
An object becomes an event exactly if it is usable, and then it is the classified one
with its origin; an event stays as it is.  Performing an accepted unit notifies once of the
event that it becomes, or never if it becomes none.  So an object gets no reply exactly if
its unit would be dropped, and one that was accepted always leads to one notification. -/
theorem work_forms_agree :
    (∀ (line : String) (provider : Option Provider) (now : Instant),
      (∀ members, Json.read? line = some (.object members) →
        (Work.ofLine line provider now).event? = (Work.ofObject members provider now).event?) ∧
      ((∀ members, Json.read? line ≠ some (.object members)) →
        (Work.ofLine line provider now).event? = none)) ∧
    (∀ (members : Members) (provider : Option Provider) (now : Instant),
      ((∃ event, (Work.ofObject members provider now).event? = some event) ↔
        Event.isUsable members = true) ∧
      ∀ event, (Work.ofObject members provider now).event? = some event →
        ∃ plain, Event.classify? members = some plain ∧
          plain.provider = none ∧ plain.receivedOn = none ∧
          event = { plain with provider := provider, receivedOn := some now }) ∧
    (∀ (event : Event) (now : Instant), (Work.ofEvent event now).event? = some event) ∧
    (∀ (capacity workers : Nat) (routing : String → Nat) (actions : List DispatchAction)
      (dispatcher : Dispatcher),
      (start capacity workers routing).run? actions = some dispatcher →
        ∀ ticket call, dispatcher.calls[ticket]? = some call →
          (call.status = .accepted → dispatcher.LeadsTo ticket call.work.event?.toList) ∧
          (call.status ≠ .accepted → noticesOf ticket dispatcher.journal = [])) ∧
    ∀ (capacity workers : Nat) (routing : String → Nat) (moves : List FeedAction)
      (rehearsal : Rehearsal),
      (Feed.start capacity workers routing).run? moves = some rehearsal.feed →
        ∀ members provider,
          ((rehearsal.enqueueObject members provider).2 = none ↔
            (Work.ofObject members provider rehearsal.now).event? = none) ∧
          ((rehearsal.enqueueObject members provider).2 = some .accepted →
            ∃ event, (Work.ofObject members provider rehearsal.now).event? = some event ∧
              ∀ late final,
                (rehearsal.enqueueObject members provider).1.feed.run? late = some final →
                  final.dispatcher.LeadsTo rehearsal.feed.dispatcher.calls.length [event]) := by
  refine ⟨?_, ?_, fun _ _ => rfl, ?_, ?_⟩
  · intro line provider now
    exact ⟨fun _ => Work.event?_ofLine_object, Work.event?_ofLine_other⟩
  · intro members provider now
    constructor
    · rw [← Option.ne_none_iff_exists', ne_eq, Work.event?_ofObject_eq_none_iff,
        Bool.not_eq_false]
    · intro event becomes
      obtain ⟨_, plain, classified, rfl⟩ := Work.event?_ofObject_eq_some_iff.mp becomes
      obtain ⟨kind, _, rfl⟩ := Option.map_eq_some_iff.mp classified
      exact ⟨_, classified, rfl, rfl, rfl⟩
  · intro capacity workers routing actions dispatcher run ticket call found
    refine ⟨leadsTo_of_run run found, fun notAccepted => ?_⟩
    apply (sound_of_run run).noticesOf_eq_nil
    rw [status?, found]
    exact fun accepted => notAccepted (Option.some.inj accepted)
  · intro capacity workers routing moves rehearsal run members provider
    exact ⟨Rehearsal.enqueueObject_eq_none_iff, Rehearsal.leadsTo_of_accepted run⟩

/-- A project that was created, as a line and as the object in it. -/
def projectLine : String :=
  "\x7b\"projectName\":\"demo\",\"type\":\"project-created\"\x7d"

def projectMembers : Members :=
  [("projectName", .string "demo"), ("type", .string "project-created")]

theorem work_forms_agree_project :
    (Work.ofLine projectLine none .epoch).event? =
      (Work.ofObject projectMembers none .epoch).event? ∧
    (Work.ofLine "[]" none .epoch).event? = none ∧
    (∃ dispatcher, (start 1 1 (fun _ => 0)).run? crowdingRun = some dispatcher ∧
      dispatcher.LeadsTo 0 sampleWork.event?.toList ∧
      dispatcher.status? 1 = some .waiting ∧ noticesOf 1 dispatcher.journal = []) ∧
    ((Rehearsal.start 1 1 String.length .epoch).enqueueObject projectMembers none).2 =
      some .accepted ∧
    ∃ event plain, (Work.ofObject projectMembers none .epoch).event? = some event ∧
      Event.classify? projectMembers = some plain ∧
      event = { plain with provider := none, receivedOn := some .epoch } ∧
      ((Rehearsal.start 1 1 String.length .epoch).enqueueObject projectMembers
        none).1.feed.dispatcher.LeadsTo 0 [event] := by
  obtain ⟨lines, events, _, units, objects⟩ := work_forms_agree
  have read : Json.read? projectLine = some (.object projectMembers) := rfl
  have noObject : ∀ members, Json.read? "[]" ≠ some (.object members) := by
    intro members found
    cases found
  refine ⟨(lines _ _ _).1 _ read, (lines _ _ _).2 noObject, ?_, ?_⟩
  · obtain ⟨dispatcher, run, first, found, work, accepted, second, waits, waiting⟩ :
        ∃ dispatcher, (start 1 1 (fun _ => 0)).run? crowdingRun = some dispatcher ∧
          ∃ first, dispatcher.calls[0]? = some first ∧ first.work = sampleWork ∧
            first.status = .accepted ∧
            ∃ second, dispatcher.calls[1]? = some second ∧ second.status = .waiting :=
      ⟨_, rfl, _, rfl, rfl, rfl, _, rfl, rfl⟩
    have leads := (units 1 1 _ crowdingRun dispatcher run 0 first found).1 accepted
    rw [work] at leads
    have silent := (units 1 1 _ crowdingRun dispatcher run 1 second waits).2 (by simp [waiting])
    exact ⟨dispatcher, run, leads, status?_eq_some.mpr ⟨second, waits, waiting⟩, silent⟩
  · have reply : ((Rehearsal.start 1 1 String.length .epoch).enqueueObject projectMembers
        none).2 = some .accepted := by decide +kernel
    obtain ⟨_, accepted⟩ := objects 1 1 String.length [] (.start 1 1 String.length .epoch) rfl
      projectMembers none
    obtain ⟨event, becomes, leads⟩ := accepted reply
    obtain ⟨plain, classified, _, _, stamped⟩ := (events projectMembers none .epoch).2 event becomes
    exact ⟨reply, event, plain, becomes, classified, stamped, leads [] _ rfl⟩

end Dispatcher

end ReviewFeed
