import Mathlib.Data.List.Perm.Basic
import ReviewFeed.Proofs.Dispatch.Performances

/-!
# Conservation of accepted units

In every reachable dispatcher the accepted units are the ones that wait in a queue,
the ones in a worker's hands and the ones performed, each once.  A unit that was
refused or given up is none of these, now and later.  After a complete shutdown
nothing waits and nothing is in a worker's hands.
-/

namespace ReviewFeed

/-- The units that some worker is through with, in the order in which they were
finished. -/
def performedTickets (journal : List Entry) : List Ticket :=
  journal.filterMap (fun
    | .worked _ ticket .finished => some ticket
    | _ => none)

private theorem flatMap_range_single {α : Type} (bound index : Nat) (items : List α) :
    (List.range bound).flatMap (fun other => if index = other then items else []) =
      if index < bound then items else [] := by
  induction bound with
  | zero => rfl
  | succ bound induction =>
      rw [List.range_succ, List.flatMap_append, induction, List.flatMap_singleton]
      by_cases last : index = bound
      · simp [last]
      · have same : index < bound + 1 ↔ index < bound := by omega
        simp [last, same]

private theorem flatMap_range_getElem {α β : Type} (items : List α) (function : α → List β) :
    items.flatMap function =
      (List.range items.length).flatMap
        (fun index => ((items[index]?).map function).getD []) := by
  induction items with
  | nil => rfl
  | cons item items induction =>
      rw [List.length_cons, List.range_succ_eq_map, List.flatMap_cons, List.flatMap_cons,
        List.flatMap_map, induction]
      rfl

/-- Whatever is selected from a journal about its lanes is selected from the
histories of the lanes, in some order. -/
theorem filterMap_perm_lanes {α : Type} (select : LaneEntry → Option α) (lanes : Nat)
    (journal : List Entry)
    (nowhere : ∀ index, lanes ≤ index → laneHistory index journal = []) :
    (journal.filterMap (fun entry => entry.lane?.bind (fun about => select about.2))).Perm
      ((List.range lanes).flatMap
        (fun index => (laneHistory index journal).filterMap select)) := by
  induction journal with
  | nil => simp [laneHistory]
  | cons entry journal induction =>
      have split (index : Nat) : laneHistory index (entry :: journal) =
          (entry.onLane? index).toList ++ laneHistory index journal := by
        simp only [laneHistory, List.filterMap_cons]
        cases entry.onLane? index <;> rfl
      have rest := induction (fun index outside => by
        have silent := nowhere index outside
        rw [split, List.append_eq_nil_iff] at silent
        exact silent.2)
      cases about : entry.lane? with
      | none =>
          simpa [split, Entry.onLane?, about] using rest
      | some details =>
          -- The entry stands in the history of its own lane and in no other.
          obtain ⟨lane, heard⟩ := details
          have inside : lane < lanes := by
            by_contra outside
            have silent := nowhere lane (Nat.le_of_not_lt outside)
            simp [split, Entry.onLane?, about] at silent
          have single (index : Nat) :
              ((entry.onLane? index).toList).filterMap select =
                if lane = index then (select heard).toList else [] := by
            rw [Entry.onLane?, about]
            by_cases same : lane = index
            · simp only [Option.bind_some, same, if_true, Option.toList_some]
              cases found : select heard <;> simp [found]
            · simp [same]
          have first : (entry :: journal).filterMap
              (fun entry => entry.lane?.bind (fun about => select about.2)) =
              (select heard).toList ++ journal.filterMap
                (fun entry => entry.lane?.bind (fun about => select about.2)) := by
            simp only [List.filterMap_cons, about, Option.bind_some]
            cases select heard <;> rfl
          rw [first]
          simp only [split, List.filterMap_append]
          refine List.Perm.trans ?_ (List.flatMap_append_perm _ _ _)
          simp only [single, flatMap_range_single, inside, if_true]
          exact rest.append_left _

theorem acceptedTickets_eq (journal : List Entry) :
    acceptedTickets journal = journal.filterMap
      (fun entry => entry.lane?.bind (fun about => about.2.accepted?)) := by
  apply List.filterMap_congr
  intro entry _
  cases entry <;> rfl

theorem performedTickets_eq (journal : List Entry) :
    performedTickets journal = journal.filterMap
      (fun entry => entry.lane?.bind (fun about => about.2.finished?)) := by
  apply List.filterMap_congr
  intro entry _
  cases entry with
  | worked lane ticket act => cases act <;> rfl
  | _ => rfl

theorem mem_performedTickets {journal : List Entry} {ticket : Ticket} :
    ticket ∈ performedTickets journal ↔ ∃ lane, .worked lane ticket .finished ∈ journal := by
  constructor
  · intro member
    obtain ⟨entry, entryMember, same⟩ := List.mem_filterMap.mp member
    cases entry with
    | worked lane other act =>
        cases act <;> cases same
        exact ⟨lane, entryMember⟩
    | _ => cases same
  · rintro ⟨lane, member⟩
    exact List.mem_filterMap.mpr ⟨_, member, rfl⟩

namespace Dispatcher

/-- The units that wait in a queue. -/
def queued (dispatcher : Dispatcher) : List Ticket :=
  dispatcher.lanes.flatMap (·.queue)

/-- The units that are in a worker's hands. -/
def inHand (dispatcher : Dispatcher) : List Ticket :=
  dispatcher.lanes.flatMap (·.hand.tickets)

/-- Nothing accepted is lost, doubled or in two places. -/
theorem Sound.accepted_perm {dispatcher : Dispatcher} (sound : Sound dispatcher) :
    (acceptedTickets dispatcher.journal).Perm
      (dispatcher.queued ++ dispatcher.inHand ++ performedTickets dispatcher.journal) := by
  let lanes := List.range dispatcher.lanes.length
  let history (index : Nat) := laneHistory index dispatcher.journal
  have accepted : (acceptedTickets dispatcher.journal).Perm
      (lanes.flatMap (fun index => acceptedIn (history index))) := by
    rw [acceptedTickets_eq]
    exact filterMap_perm_lanes LaneEntry.accepted? _ _ sound.nowhere
  have performed : (performedTickets dispatcher.journal).Perm
      (lanes.flatMap (fun index => finishedIn (history index))) := by
    rw [performedTickets_eq]
    exact filterMap_perm_lanes LaneEntry.finished? _ _ sound.nowhere
  have conserved : ∀ index ∈ lanes, acceptedIn (history index) =
      finishedIn (history index) ++
        (((dispatcher.lanes[index]?).map (·.hand.tickets)).getD [] ++
          ((dispatcher.lanes[index]?).map (·.queue)).getD []) := by
    intro index member
    have found := List.getElem?_eq_getElem (List.mem_range.mp member)
    obtain ⟨past, current, performed⟩ := sound.performed found
    rw [found]
    exact performed.conserved
  have held : (lanes.flatMap (fun index => acceptedIn (history index))).Perm
      (lanes.flatMap (fun index => finishedIn (history index)) ++
        (dispatcher.inHand ++ dispatcher.queued)) := by
    rw [List.flatMap_congr conserved, inHand, queued,
      flatMap_range_getElem dispatcher.lanes (·.hand.tickets),
      flatMap_range_getElem dispatcher.lanes (·.queue)]
    refine (List.flatMap_append_perm lanes _ _).symm.trans ?_
    exact (List.flatMap_append_perm lanes _ _).symm.append_left _
  refine accepted.trans (held.trans ?_)
  refine (performed.symm.append_right _).trans (List.perm_append_comm.trans ?_)
  exact List.perm_append_comm.append_right _

theorem Sound.workOn_eq_nil {dispatcher : Dispatcher} (sound : Sound dispatcher)
    {ticket : Ticket} (notAccepted : dispatcher.status? ticket ≠ some .accepted) :
    workOn ticket dispatcher.journal = [] := by
  rw [workOn, List.filterMap_eq_nil_iff]
  intro entry member
  cases entry with
  | worked index other act =>
      have different : other ≠ ticket := by
        rintro rfl
        obtain ⟨call, found, _, accepted⟩ := sound.accepted_of_worked member
        exact notAccepted (status?_eq_some.mpr ⟨call, found, accepted⟩)
      simp [different]
  | _ => rfl

/-- After a complete shutdown nothing waits and nothing is in a worker's hands. -/
theorem Sound.nothing_left {dispatcher : Dispatcher} (sound : Sound dispatcher)
    (complete : dispatcher.isOver = true) : dispatcher.queued = [] ∧ dispatcher.inHand = [] := by
  constructor
  · exact List.flatMap_eq_nil_iff.mpr
      (fun lane member => (sound.lane_over complete member).1)
  · exact List.flatMap_eq_nil_iff.mpr
      (fun lane member => by rw [(sound.lane_over complete member).2]; rfl)

/-- The accepted units wherever they are: in a queue, in a worker's hands, or
performed. -/
def kept (dispatcher : Dispatcher) : List Ticket :=
  dispatcher.queued ++ dispatcher.inHand ++ performedTickets dispatcher.journal

/-- In every reachable state the accepted units are in exactly one place, and a
performed unit went through exactly one performance.  What has become of a call is
final, and a refused or abandoned unit is never in any of these places.  After a
complete shutdown every accepted unit has been performed exactly once. -/
theorem exactly_once_or_never {capacity workers : Nat} {routing : String → Nat}
    {actions : List DispatchAction} {dispatcher : Dispatcher}
    (run : (start capacity workers routing).run? actions = some dispatcher) :
    dispatcher.kept.Nodup ∧
    (∀ ticket, ticket ∈ dispatcher.kept ↔ dispatcher.status? ticket = some .accepted) ∧
    (∀ ticket ∈ performedTickets dispatcher.journal, ∃ performance : Performance,
      performance.ticket = ticket ∧
      workOn ticket dispatcher.journal = performance.work ∧
      dispatcher.Becomes ticket performance.event?) ∧
    (∀ (ticket : Ticket) (status : CallStatus), dispatcher.status? ticket = some status →
      status.isFinal = true → ∀ (late : List DispatchAction) (final : Dispatcher),
      dispatcher.run? late = some final →
        final.status? ticket = some status ∧
        (status ≠ .accepted → ticket ∉ final.kept ∧ workOn ticket final.journal = [])) ∧
    (dispatcher.isOver = true → dispatcher.queued = [] ∧ dispatcher.inHand = [] ∧
      ∀ ticket, dispatcher.status? ticket = some .accepted →
        (performedTickets dispatcher.journal).count ticket = 1) := by
  have sound := sound_of_run run
  have keeps {state : Dispatcher} (sound : Sound state) (ticket : Ticket) :
      ticket ∈ state.kept ↔ state.status? ticket = some .accepted :=
    sound.accepted_perm.mem_iff.symm.trans sound.mem_accepted_iff
  have once : dispatcher.kept.Nodup := sound.accepted_perm.nodup_iff.mp sound.once
  refine ⟨once, keeps sound, ?_, ?_, ?_⟩
  · intro ticket member
    obtain ⟨lane, member⟩ := mem_performedTickets.mp member
    exact sound.performance member
  · intro ticket status now final late last runLate
    obtain ⟨call, found, rfl⟩ := status?_eq_some.mp now
    have later : last.status? ticket = some call.status :=
      status?_eq_some.mpr ⟨call, run?_keepsFinal found final runLate, rfl⟩
    have soundLast : Sound last := sound_of_run (run?_append.mpr ⟨dispatcher, run, runLate⟩)
    refine ⟨later, fun different => ?_⟩
    have notAccepted : last.status? ticket ≠ some .accepted := by
      rw [later]
      exact fun same => different (Option.some.inj same)
    exact ⟨fun member => notAccepted ((keeps soundLast ticket).mp member),
      soundLast.workOn_eq_nil notAccepted⟩
  · intro complete
    obtain ⟨queued, inHand⟩ := sound.nothing_left complete
    refine ⟨queued, inHand, fun ticket accepted => ?_⟩
    have member := (keeps sound ticket).mpr accepted
    rw [kept, queued, inHand] at member once
    exact List.count_eq_one_of_mem once member

/-- The unit of an event without a provider. -/
def sampleWork : Work :=
  .ofEvent { payload := .projectCreated none none none, provider := none, receivedOn := none }
    .epoch

/-- A run with a full queue, a call given up, a panic and a complete shutdown. -/
def sampleRun : List DispatchAction :=
  [.addListener,
    .enter sampleWork, .look 0, .send 0, .deliver 0, .take 0,
    .enter sampleWork, .look 1, .send 1, .deliver 1,
    .enter sampleWork, .look 2, .send 2, .abandon 2,
    .enter sampleWork, .look 3, .send 3,
    .notice 0, .call 0, .finishCall 0 true, .shutdown, .look 3, .finish 0, .closeQueue 0,
    .take 0, .notice 0, .call 0, .finishCall 0 false, .finish 0, .stop 0]

theorem exactly_once_or_never_sample :
    ∃ dispatcher, (start 1 1 (fun _ => 0)).run? sampleRun = some dispatcher ∧
      dispatcher.isOver = true ∧ dispatcher.kept = [0, 1] ∧ dispatcher.kept.Nodup ∧
      dispatcher.status? 2 = some .abandoned ∧ workOn 2 dispatcher.journal = [] ∧
      dispatcher.status? 3 = some .refused ∧ workOn 3 dispatcher.journal = [] ∧
      (performedTickets dispatcher.journal).count 1 = 1 := by
  have run : (start 1 1 (fun _ => 0)).run? sampleRun = some _ := rfl
  obtain ⟨once, _, _, outcomes, afterwards⟩ := exactly_once_or_never run
  refine ⟨_, run, rfl, rfl, once, rfl, ?_, rfl, ?_, ?_⟩
  · exact ((outcomes 2 .abandoned rfl rfl [] _ rfl).2 (by decide)).2
  · exact ((outcomes 3 .refused rfl rfl [] _ rfl).2 (by decide)).2
  · exact (afterwards rfl).2.2 1 rfl

end Dispatcher

end ReviewFeed
