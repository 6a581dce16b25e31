import Mathlib.Data.List.Nodup
import ReviewFeed.Proofs.Dispatch.Invariants

/-!
# What a journal says about one unit

Everything that a worker does about a unit stands in the history of one lane.  In a
sound dispatcher the unit of a `finished` entry has been performed exactly once,
and its entries are those of one complete performance.
-/

namespace ReviewFeed

/-- What workers did about one unit, in order. -/
def workOn (ticket : Ticket) (journal : List Entry) : List (Ticket × WorkerAct) :=
  journal.filterMap (fun
    | .worked _ other act => if other = ticket then some (other, act) else none
    | _ => none)

theorem workOn_append (ticket : Ticket) (early late : List Entry) :
    workOn ticket (early ++ late) = workOn ticket early ++ workOn ticket late :=
  List.filterMap_append

@[simp] def LaneEntry.finished? : LaneEntry → Option Ticket
  | .worked ticket .finished => some ticket
  | _ => none

/-- The units that the worker of a lane is through with, in order. -/
def finishedIn (history : List LaneEntry) : List Ticket :=
  history.filterMap LaneEntry.finished?

def finishes? : Ticket × WorkerAct → Option Ticket
  | (ticket, .finished) => some ticket
  | _ => none

theorem finishedIn_eq (history : List LaneEntry) :
    finishedIn history = (workIn history).filterMap finishes? := by
  rw [finishedIn, workIn, List.filterMap_filterMap]
  apply List.filterMap_congr
  intro entry _
  cases entry with
  | accepted ticket => rfl
  | worked ticket act => cases act <;> rfl

theorem Performance.finishes?_deliveries (ticket : Ticket) (event : Event)
    (outcomes : List (ListenerId × Bool)) :
    (deliveries ticket event outcomes).filterMap finishes? = [] := by
  rw [deliveries, List.filterMap_flatMap]
  exact List.flatMap_eq_nil_iff.mpr fun _ _ => rfl

theorem Performance.finishes?_work (performance : Performance) :
    performance.work.filterMap finishes? = [performance.ticket] := by
  unfold work
  split
  · rfl
  · simp only [List.filterMap_cons, List.filterMap_append, finishes?, finishes?_deliveries]
    rfl

theorem Underway.finishes? {Becomes : Ticket → Option Event → Prop} {hand : Hand}
    {current : List (Ticket × WorkerAct)} (underway : Underway Becomes hand current) :
    current.filterMap finishes? = [] := by
  cases underway with
  | empty => rfl
  | taken ticket => rfl
  | between outcomes next _ =>
      simp only [List.filterMap_cons, ReviewFeed.finishes?,
        Performance.finishes?_deliveries]
  | inCall outcomes id next _ =>
      simp only [List.filterMap_cons, List.filterMap_append, ReviewFeed.finishes?,
        Performance.finishes?_deliveries]
      rfl

/-- The snapshot of a performance is the listeners that it has called. -/
theorem Performance.report_of_noticed {performance : Performance} {ticket : Ticket}
    {event : Event} {ids : List ListenerId}
    (noticed : (ticket, .noticed event ids) ∈ performance.work) :
    ∃ outcomes, performance.report = some (event, outcomes) ∧ ids = outcomes.map (·.1) := by
  cases report : performance.report with
  | none => simp [work, report] at noticed
  | some details =>
      obtain ⟨told, outcomes⟩ := details
      have silent : (ticket, WorkerAct.noticed event ids) ∉
          deliveries performance.ticket told outcomes := by
        intro inside
        obtain ⟨outcome, _, inside⟩ := List.mem_flatMap.mp inside
        simp at inside
      obtain ⟨_, rfl, rfl⟩ : ticket = performance.ticket ∧ event = told ∧
          ids = outcomes.map (·.1) := by
        simpa [work, report, silent] using noticed
      exact ⟨outcomes, rfl, rfl⟩

/-- Performances of other units leave nothing about this one. -/
theorem Performance.filter_work_of_not_mem {past : List Performance} {ticket : Ticket}
    (absent : ticket ∉ past.map (·.ticket)) :
    (past.flatMap work).filter (fun worked => worked.1 = ticket) = [] := by
  rw [List.filter_eq_nil_iff]
  rintro ⟨other, act⟩ worked same
  exact absent (of_decide_eq_true same ▸ ticket_mem worked)

theorem Underway.filter_of_not_mem {Becomes : Ticket → Option Event → Prop} {hand : Hand}
    {current : List (Ticket × WorkerAct)} (underway : Underway Becomes hand current)
    {ticket : Ticket} (absent : ticket ∉ hand.tickets) :
    current.filter (fun worked => worked.1 = ticket) = [] := by
  rw [List.filter_eq_nil_iff]
  rintro ⟨other, act⟩ worked same
  exact absent (of_decide_eq_true same ▸ underway.ticket_mem worked)

namespace Performed

variable {Becomes : Ticket → Option Event → Prop} {history : List LaneEntry}
  {queue : List Ticket} {hand : Hand} {past : List Performance}
  {current : List (Ticket × WorkerAct)}

theorem finishedIn (performed : Performed Becomes history queue hand past current) :
    finishedIn history = past.map (·.ticket) := by
  rw [finishedIn_eq, performed.work, List.filterMap_append, performed.underway.finishes?,
    List.append_nil, List.filterMap_flatMap, List.map_eq_flatMap]
  exact List.flatMap_congr (fun performance _ => performance.finishes?_work)

theorem conserved (performed : Performed Becomes history queue hand past current) :
    acceptedIn history = ReviewFeed.finishedIn history ++ (hand.tickets ++ queue) := by
  rw [performed.finishedIn, performed.accepted, List.append_assoc]

theorem accepted_of_work (performed : Performed Becomes history queue hand past current)
    {ticket : Ticket} {act : WorkerAct} (member : (ticket, act) ∈ workIn history) :
    ticket ∈ acceptedIn history := by
  rw [performed.work, List.mem_append] at member
  rw [performed.accepted, List.mem_append, List.mem_append]
  rcases member with finished | underway
  · exact .inl (.inl (Performance.ticket_mem finished))
  · exact .inl (.inr (performed.underway.ticket_mem underway))

/-- All that its worker did about a unit that is performed. -/
theorem work_of_mem (performed : Performed Becomes history queue hand past current)
    (once : (acceptedIn history).Nodup) {performance : Performance}
    (member : performance ∈ past) :
    (workIn history).filter (fun worked => worked.1 = performance.ticket) =
      performance.work := by
  obtain ⟨before, after, rfl⟩ := List.append_of_mem member
  have alone : performance.ticket ∉
      before.map (·.ticket) ++ (after.map (·.ticket) ++ (hand.tickets ++ queue)) := by
    rw [performed.accepted] at once
    simp only [List.map_append, List.map_cons, List.append_assoc, List.cons_append] at once
    exact (List.nodup_cons.mp (List.nodup_middle.mp once)).1
  simp only [List.mem_append, not_or] at alone
  obtain ⟨notBefore, notAfter, notInHand, _⟩ := alone
  have mine : performance.work.filter (fun worked => worked.1 = performance.ticket) =
      performance.work := by
    rw [List.filter_eq_self]
    rintro ⟨ticket, act⟩ worked
    exact decide_eq_true (Performance.ticket_of_mem_work worked)
  rw [performed.work, List.flatMap_append, List.flatMap_cons, List.filter_append,
    List.filter_append, List.filter_append, Performance.filter_work_of_not_mem notBefore, mine,
    Performance.filter_work_of_not_mem notAfter, performed.underway.filter_of_not_mem notInHand]
  simp

end Performed

theorem mem_acceptedIn {index : Nat} {journal : List Entry} {ticket : Ticket} :
    ticket ∈ acceptedIn (laneHistory index journal) ↔ .accepted index ticket ∈ journal := by
  constructor
  · intro member
    obtain ⟨heard, heardMember, same⟩ := List.mem_filterMap.mp member
    cases heard <;> cases same
    obtain ⟨entry, entryMember, about⟩ := mem_laneHistory.mp heardMember
    cases entry <;> cases about
    exact entryMember
  · intro member
    exact List.mem_filterMap.mpr ⟨_, mem_laneHistory.mpr ⟨_, member, rfl⟩, rfl⟩

theorem mem_workIn {index : Nat} {journal : List Entry} {ticket : Ticket}
    {act : WorkerAct} :
    (ticket, act) ∈ workIn (laneHistory index journal) ↔
      .worked index ticket act ∈ journal := by
  constructor
  · intro member
    obtain ⟨heard, heardMember, same⟩ := List.mem_filterMap.mp member
    cases heard <;> cases same
    obtain ⟨entry, entryMember, about⟩ := mem_laneHistory.mp heardMember
    cases entry <;> cases about
    exact entryMember
  · intro member
    exact List.mem_filterMap.mpr ⟨_, mem_laneHistory.mpr ⟨_, member, rfl⟩, rfl⟩

/-- What workers did about a unit of one lane is what the worker of that lane did. -/
theorem workOn_eq {ticket : Ticket} {index : Nat} {journal : List Entry}
    (only : ∀ other act, .worked other ticket act ∈ journal → other = index) :
    workOn ticket journal =
      (workIn (laneHistory index journal)).filter (fun worked => worked.1 = ticket) := by
  rw [← List.filterMap_eq_filter, ← filterMap_workIn]
  · apply List.filterMap_congr
    intro entry _
    cases entry with
    | worked lane other act =>
        by_cases same : other = ticket
        · simp [Entry.worked?, Option.guard, same]
        · simp [Entry.worked?, Option.guard, same]
    | _ => rfl
  · intro lane other act value member selected
    obtain ⟨rfl, same⟩ := Option.guard_eq_some_iff.mp selected
    obtain rfl := of_decide_eq_true same
    exact only lane act member

namespace Dispatcher

theorem status?_eq_some {dispatcher : Dispatcher} {ticket : Ticket} {status : CallStatus} :
    dispatcher.status? ticket = some status ↔
      ∃ call, dispatcher.calls[ticket]? = some call ∧ call.status = status :=
  Option.map_eq_some_iff

theorem Sound.mem_accepted_iff {dispatcher : Dispatcher} (sound : Sound dispatcher)
    {ticket : Ticket} :
    ticket ∈ acceptedTickets dispatcher.journal ↔
      dispatcher.status? ticket = some .accepted := by
  rw [mem_acceptedTickets, status?_eq_some]
  constructor
  · rintro ⟨lane, member⟩
    obtain ⟨call, found, _, accepted⟩ := (sound.accepted lane ticket).mp member
    exact ⟨call, found, accepted⟩
  · rintro ⟨call, found, accepted⟩
    exact ⟨call.lane, (sound.accepted call.lane ticket).mpr ⟨call, found, rfl, accepted⟩⟩

/-- The closed form of the history of a lane. -/
theorem Sound.performed {dispatcher : Dispatcher} (sound : Sound dispatcher) {index : Nat}
    {lane : Lane} (found : dispatcher.lanes[index]? = some lane) :
    ∃ past current, Performed dispatcher.Becomes (laneHistory index dispatcher.journal)
      lane.queue lane.hand past current :=
  (sound.histories index lane found).performed

theorem Sound.lane_over {dispatcher : Dispatcher} (sound : Sound dispatcher)
    (complete : dispatcher.isOver = true) {lane : Lane} (member : lane ∈ dispatcher.lanes) :
    lane.queue = [] ∧ lane.hand = .empty := by
  simp only [isOver, Bool.and_eq_true, List.all_eq_true, decide_eq_true_eq] at complete
  obtain ⟨index, found⟩ := List.getElem?_of_mem member
  obtain ⟨queue, hand, _⟩ := sound.done index lane found (complete.2 lane member)
  exact ⟨queue, hand⟩

theorem Sound.lane_of_worked {dispatcher : Dispatcher} (sound : Sound dispatcher)
    {index : Nat} {ticket : Ticket} {act : WorkerAct}
    (member : .worked index ticket act ∈ dispatcher.journal) :
    ∃ lane, dispatcher.lanes[index]? = some lane := by
  have inside : index < dispatcher.lanes.length := by
    by_contra outside
    have worked := mem_workIn.mpr member
    rw [sound.nowhere index (Nat.le_of_not_lt outside)] at worked
    cases worked
  exact ⟨_, List.getElem?_eq_getElem inside⟩

/-- A worker has to do with accepted units only, and with those of its own lane. -/
theorem Sound.accepted_of_worked {dispatcher : Dispatcher} (sound : Sound dispatcher)
    {index : Nat} {ticket : Ticket} {act : WorkerAct}
    (member : .worked index ticket act ∈ dispatcher.journal) :
    ∃ call, dispatcher.calls[ticket]? = some call ∧ call.lane = index ∧
      call.status = .accepted := by
  obtain ⟨lane, found⟩ := sound.lane_of_worked member
  obtain ⟨past, current, performed⟩ := sound.performed found
  have accepted := performed.accepted_of_work (mem_workIn.mpr member)
  exact (sound.accepted index ticket).mp (mem_acceptedIn.mp accepted)

theorem Sound.lane_unique {dispatcher : Dispatcher} (sound : Sound dispatcher)
    {ticket : Ticket} {call : EnqueueCall}
    (found : dispatcher.calls[ticket]? = some call) (index : Nat) (act : WorkerAct)
    (member : .worked index ticket act ∈ dispatcher.journal) : index = call.lane := by
  obtain ⟨other, otherFound, lane, _⟩ := sound.accepted_of_worked member
  obtain rfl := Option.some.inj (found.symm.trans otherFound)
  exact lane.symm

def lane? (dispatcher : Dispatcher) (ticket : Ticket) : Option Nat :=
  (dispatcher.calls[ticket]?).map (·.lane)

/-- The units accepted on one lane, in the order in which they were accepted. -/
theorem Sound.acceptedIn_eq {dispatcher : Dispatcher} (sound : Sound dispatcher)
    (index : Nat) :
    acceptedIn (laneHistory index dispatcher.journal) =
      (acceptedTickets dispatcher.journal).filter
        (fun ticket => dispatcher.lane? ticket = some index) := by
  rw [acceptedIn, laneHistory, acceptedTickets, List.filterMap_filterMap,
    List.filter_filterMap]
  apply List.filterMap_congr
  intro entry member
  cases entry with
  | accepted lane ticket =>
      obtain ⟨call, found, rfl, _⟩ := (sound.accepted lane ticket).mp member
      by_cases here : call.lane = index
      · simp [Entry.onLane?, Entry.lane?, Option.filter, lane?, found, here]
      · simp [Entry.onLane?, Entry.lane?, Option.filter, lane?, found, here]
  | worked lane ticket act =>
      by_cases here : lane = index
      · simp [Entry.onLane?, Entry.lane?, here]
      · simp [Entry.onLane?, Entry.lane?, here]
  | refused | abandoned | added | removed | closing | stopped => rfl

theorem Sound.acceptedIn_nodup {dispatcher : Dispatcher} (sound : Sound dispatcher)
    (index : Nat) : (acceptedIn (laneHistory index dispatcher.journal)).Nodup := by
  rw [sound.acceptedIn_eq]
  exact sound.once.filter _

/-- A unit that some worker is through with was performed exactly once. -/
theorem Sound.performance {dispatcher : Dispatcher} (sound : Sound dispatcher)
    {index : Nat} {ticket : Ticket}
    (member : .worked index ticket .finished ∈ dispatcher.journal) :
    ∃ performance : Performance, performance.ticket = ticket ∧
      workOn ticket dispatcher.journal = performance.work ∧
      dispatcher.Becomes ticket performance.event? := by
  obtain ⟨lane, laneFound⟩ := sound.lane_of_worked member
  obtain ⟨call, found, rfl, _⟩ := sound.accepted_of_worked member
  obtain ⟨past, current, performed⟩ := sound.performed laneFound
  have finished : ticket ∈ finishedIn (laneHistory call.lane dispatcher.journal) := by
    rw [finishedIn_eq]
    exact List.mem_filterMap.mpr ⟨_, mem_workIn.mpr member, rfl⟩
  rw [performed.finishedIn] at finished
  obtain ⟨performance, inPast, rfl⟩ := List.mem_map.mp finished
  refine ⟨performance, rfl, ?_, performed.events performance inPast⟩
  rw [workOn_eq (sound.lane_unique found),
    performed.work_of_mem (sound.acceptedIn_nodup call.lane) inPast]

end Dispatcher

end ReviewFeed
