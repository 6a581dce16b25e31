import ReviewFeed.Proofs.Dispatch.BackPressure
import ReviewFeed.Proofs.Dispatch.Settling

/-!
# Notifications about one unit

An accepted unit leads to one notification of the event that it becomes, or to none if it
becomes none.  Until it is performed its workers can always go on, and every way of going
on comes to an end.
-/

namespace ReviewFeed

/-- The notification that an act begins. -/
def notices? : Ticket × WorkerAct → Option Event
  | (_, .noticed event _) => some event
  | _ => none

/-- The events of the notifications about one unit, in order. -/
def noticesOf (ticket : Ticket) (journal : List Entry) : List Event :=
  (workOn ticket journal).filterMap notices?

theorem Performance.notices?_deliveries (ticket : Ticket) (event : Event)
    (outcomes : List (ListenerId × Bool)) :
    (deliveries ticket event outcomes).filterMap notices? = [] := by
  rw [deliveries, List.filterMap_flatMap]
  exact List.flatMap_eq_nil_iff.mpr fun _ _ => rfl

/-- A performance notifies once of its event. -/
theorem Performance.notices?_work (performance : Performance) :
    performance.work.filterMap notices? = performance.event?.toList := by
  rw [work, event?]
  split
  · rename_i silent
    rw [silent]
    rfl
  · rename_i event outcomes report
    simp only [report, List.filterMap_cons, List.filterMap_append, notices?,
      notices?_deliveries]
    rfl

section Lanes

variable {Becomes : Ticket → Option Event → Prop} {hand : Hand}
  {current : List (Ticket × WorkerAct)} {ticket : Ticket}

theorem Underway.filter_of_mem (underway : Underway Becomes hand current)
    (inHand : ticket ∈ hand.tickets) :
    current.filter (fun worked => worked.1 = ticket) = current := by
  rw [List.filter_eq_self]
  intro worked member
  have same := underway.ticket_mem member
  cases hand with
  | empty => cases inHand
  | taken other | notifying other =>
      rw [List.mem_singleton.mp same, List.mem_singleton.mp inHand]
      exact decide_eq_true rfl

/-- A worker has begun at most one notification about the unit in its hands. -/
theorem Underway.notices (underway : Underway Becomes hand current)
    (inHand : ticket ∈ hand.tickets) :
    current.filterMap notices? = [] ∨
      ∃ event, Becomes ticket (some event) ∧ current.filterMap notices? = [event] := by
  cases underway with
  | empty => cases inHand
  | taken other => exact .inl rfl
  | between outcomes next useful =>
      rw [List.mem_singleton.mp inHand]
      refine .inr ⟨_, useful, ?_⟩
      simp only [List.filterMap_cons, notices?, Performance.notices?_deliveries]
  | inCall outcomes id next useful =>
      rw [List.mem_singleton.mp inHand]
      refine .inr ⟨_, useful, ?_⟩
      simp only [List.filterMap_cons, List.filterMap_append, notices?,
        Performance.notices?_deliveries]
      rfl

end Lanes

/-- Whether an action is a move of a worker, or a listener returning to it. -/
def DispatchAction.isWork : DispatchAction → Bool
  | .take _ | .notice _ | .call _ | .finish _ => true
  | .finishCall _ panicked => !panicked
  | _ => false

theorem DispatchAction.isQuiet_of_isWork {action : DispatchAction}
    (isWork : action.isWork = true) : action.isQuiet = true := by
  cases action with
  | take | notice | call | finish => rfl
  | finishCall lane panicked => exact isWork
  | enter | look | send | deliver | advance | abandon | closeQueue | stop | addListener
  | removeListener | shutdown => cases isWork

namespace Dispatcher

section Units

variable {dispatcher : Dispatcher} {ticket : Ticket} {call : EnqueueCall}

theorem event?_of_becomes (found : dispatcher.calls[ticket]? = some call)
    {event : Option Event} (becomes : dispatcher.Becomes ticket event) :
    call.work.event? = event := by
  obtain ⟨other, otherFound, same⟩ := becomes
  rw [Option.some.inj (found.symm.trans otherFound)]
  exact same

theorem Sound.noticesOf_performed (sound : Sound dispatcher)
    (found : dispatcher.calls[ticket]? = some call)
    (performed : ticket ∈ performedTickets dispatcher.journal) :
    noticesOf ticket dispatcher.journal = call.work.notifications := by
  obtain ⟨lane, finished⟩ := mem_performedTickets.mp performed
  obtain ⟨performance, rfl, work, becomes⟩ := sound.performance finished
  rw [noticesOf, work, Performance.notices?_work, Work.notifications,
    event?_of_becomes found becomes]

/-- There is at most one notification about a unit, and it is of its event. -/
theorem Sound.noticesOf_eq (sound : Sound dispatcher)
    (found : dispatcher.calls[ticket]? = some call) :
    noticesOf ticket dispatcher.journal = [] ∨
      noticesOf ticket dispatcher.journal = call.work.notifications := by
  by_cases performed : ticket ∈ performedTickets dispatcher.journal
  · exact .inr (sound.noticesOf_performed found performed)
  obtain ⟨lane, laneFound⟩ := sound.lane_exists found
  obtain ⟨past, current, closed⟩ := sound.performed laneFound
  -- The unit is in no performance that is over, so all about it is under way.
  have absent : ticket ∉ past.map (·.ticket) := by
    intro done
    rw [← closed.finishedIn, finishedIn_eq] at done
    obtain ⟨⟨other, act⟩, worked, finishes⟩ := List.mem_filterMap.mp done
    cases act <;> cases finishes
    exact performed (mem_performedTickets.mpr ⟨_, mem_workIn.mp worked⟩)
  rw [noticesOf, workOn_eq (sound.lane_unique found), closed.work, List.filter_append,
    Performance.filter_work_of_not_mem absent, List.nil_append]
  by_cases inHand : ticket ∈ lane.hand.tickets
  · rw [closed.underway.filter_of_mem inHand]
    rcases closed.underway.notices inHand with silent | ⟨event, becomes, told⟩
    · exact .inl silent
    · rw [Work.notifications, event?_of_becomes found becomes]
      exact .inr told
  · rw [closed.underway.filter_of_not_mem inHand]
    exact .inl rfl

/-- Moves of workers bring all that is to be done nearer to its end. -/
theorem Move.cost_lt_of_isWork {before after : Dispatcher} {action : DispatchAction}
    (move : Move before action after) (isWork : action.isWork = true) :
    after.cost after.unitCost < before.cost before.unitCost := by
  have quiet := DispatchAction.isQuiet_of_isWork isWork
  have awake : before.Awake action := by
    cases action with
    | look => cases isWork
    | _ => trivial
  rw [unitCost, move.sameRegistry quiet]
  exact move.cost_lt quiet awake (Nat.le_refl _)

/-- A worker that has anything to do can go on. -/
theorem Sound.exists_work_on (sound : Sound dispatcher) {index : Nat} {lane : Lane}
    (found : dispatcher.lanes[index]? = some lane)
    (busy : ticket ∈ lane.queue ∨ ticket ∈ lane.hand.tickets) :
    ∃ action after, Move dispatcher action after ∧ action.isWork = true := by
  cases hand : lane.hand with
  | empty =>
      rw [hand] at busy
      have queued := busy.resolve_right List.not_mem_nil
      cases queue : lane.queue with
      | nil =>
          rw [queue] at queued
          cases queued
      | cons first more =>
          have active : lane.phase ≠ .stopped := by
            intro stopped
            rw [(sound.done index lane found stopped).1] at queued
            cases queued
          exact ⟨_, _, .take found hand queue active, rfl⟩
  | taken other =>
      -- What is in a worker's hands has been accepted, so that its call is known.
      have held : other ∈ dispatcher.inHand :=
        List.mem_flatMap.mpr ⟨lane, List.mem_of_getElem? found, by simp [hand, Hand.tickets]⟩
      have kept : other ∈ acceptedTickets dispatcher.journal :=
        sound.accepted_perm.mem_iff.mpr (by simp [held])
      obtain ⟨call, callFound, _⟩ := status?_eq_some.mp (sound.mem_accepted_iff.mp kept)
      cases becomes : call.work.event? with
      | none => exact ⟨_, _, .skip found hand callFound becomes, rfl⟩
      | some event => exact ⟨_, _, .notice found hand callFound becomes, rfl⟩
  | notifying other event next inCall =>
      cases inCall with
      | some id => exact ⟨_, _, .finishCall false found hand, rfl⟩
      | none =>
          cases next with
          | nil => exact ⟨_, _, .finish found hand, rfl⟩
          | cons id next => exact ⟨_, _, .call found hand, rfl⟩

/-- While an accepted unit is not performed, there is work to do. -/
theorem Sound.exists_work (sound : Sound dispatcher)
    (accepted : dispatcher.status? ticket = some .accepted)
    (unperformed : ticket ∉ performedTickets dispatcher.journal) :
    ∃ action after, Move dispatcher action after ∧ action.isWork = true := by
  have kept := sound.accepted_perm.mem_iff.mp (sound.mem_accepted_iff.mpr accepted)
  obtain ⟨lane, member, busy⟩ : ∃ lane ∈ dispatcher.lanes,
      ticket ∈ lane.queue ∨ ticket ∈ lane.hand.tickets := by
    rcases List.mem_append.mp kept with waiting | performed
    · rcases List.mem_append.mp waiting with queued | held
      · obtain ⟨lane, member, inside⟩ := List.mem_flatMap.mp queued
        exact ⟨lane, member, .inl inside⟩
      · obtain ⟨lane, member, inside⟩ := List.mem_flatMap.mp held
        exact ⟨lane, member, .inr inside⟩
    · exact absurd performed unperformed
  obtain ⟨index, found⟩ := List.getElem?_of_mem member
  exact sound.exists_work_on found busy

end Units

/-- What is to come of a unit: notifications of these events, not one more and none of them
twice.  They have been made when the unit is performed.  Workers can always bring that
about by themselves, and have done so when there is nothing left for them to do. -/
structure LeadsTo (dispatcher : Dispatcher) (ticket : Ticket) (events : List Event) : Prop where
  atMost : noticesOf ticket dispatcher.journal = [] ∨
    noticesOf ticket dispatcher.journal = events
  performed : ticket ∈ performedTickets dispatcher.journal →
    noticesOf ticket dispatcher.journal = events
  rest : (∀ action, action.isWork = true → dispatcher.step? action = none) →
    ticket ∈ performedTickets dispatcher.journal
  possible : ∃ late final, (∀ action ∈ late, action.isWork = true) ∧
    dispatcher.run? late = some final ∧ ticket ∈ performedTickets final.journal ∧
    noticesOf ticket final.journal = events

section Runs

variable {capacity workers : Nat} {routing : String → Nat} {actions : List DispatchAction}
  {dispatcher : Dispatcher} {ticket : Ticket} {call : EnqueueCall}

/-- Workers can perform an accepted unit without anybody else. -/
theorem exists_performing
    (run : (start capacity workers routing).run? actions = some dispatcher)
    (found : dispatcher.calls[ticket]? = some call) (accepted : call.status = .accepted) :
    ∃ late final, (∀ action ∈ late, action.isWork = true) ∧
      dispatcher.run? late = some final ∧ ticket ∈ performedTickets final.journal := by
  -- The induction is on what is left to do, which every move of a worker lowers.
  induction left : dispatcher.cost dispatcher.unitCost using Nat.strongRecOn
    generalizing dispatcher actions with
  | ind left induction =>
      by_cases performed : ticket ∈ performedTickets dispatcher.journal
      · exact ⟨[], dispatcher, by simp, rfl, performed⟩
      have status := status?_eq_some.mpr ⟨call, found, accepted⟩
      obtain ⟨action, after, move, isWork⟩ :=
        (sound_of_run run).exists_work status performed
      obtain ⟨later, kept, legal⟩ := move.keepsCall found
      rw [legal.of_isFinal (by rw [accepted]; rfl)] at kept
      obtain ⟨late, final, work, runLate, done⟩ :=
        induction _ (left ▸ move.cost_lt_of_isWork isWork) (run?_concat run move.step?) kept rfl
      exact ⟨action :: late, final, List.forall_mem_cons.mpr ⟨isWork, work⟩,
        run?_cons.mpr ⟨after, move.step?, runLate⟩, done⟩

theorem leadsTo_of_run
    (run : (start capacity workers routing).run? actions = some dispatcher)
    (found : dispatcher.calls[ticket]? = some call) (accepted : call.status = .accepted) :
    dispatcher.LeadsTo ticket call.work.notifications := by
  have sound := sound_of_run run
  refine ⟨sound.noticesOf_eq found, sound.noticesOf_performed found, ?_, ?_⟩
  · intro idle
    by_contra unperformed
    have status := status?_eq_some.mpr ⟨call, found, accepted⟩
    obtain ⟨action, after, move, isWork⟩ := sound.exists_work status unperformed
    cases (idle action isWork).symm.trans move.step?
  · obtain ⟨late, final, work, runLate, done⟩ := exists_performing run found accepted
    have soundLast := sound_of_run (run?_append.mpr ⟨dispatcher, run, runLate⟩)
    have kept := run?_keepsFinal found (by rw [accepted]; rfl) runLate
    exact ⟨late, final, work, runLate, done, soundLast.noticesOf_performed kept done⟩

/-- Nobody is notified about a unit that was not accepted. -/
theorem Sound.noticesOf_eq_nil (sound : Sound dispatcher)
    (notAccepted : dispatcher.status? ticket ≠ some .accepted) :
    noticesOf ticket dispatcher.journal = [] := by
  rw [noticesOf, sound.workOn_eq_nil notAccepted]
  rfl

end Runs

end Dispatcher

end ReviewFeed
