import Mathlib.Data.List.Basic
import ReviewFeed.Dispatch.Dispatcher

/-!
# The history of a lane

Seen alone, a lane is a small machine: accepted units go to the end of its queue,
and its worker takes the first one, reports it and is through with it before it
takes the next.  `LaneRun` describes the histories of this machine.  Every history
is a row of complete performances followed by the one under way, and the units are
performed in the order in which they were accepted.
-/

namespace ReviewFeed

/-- What happens on a lane to its queue or in its worker's hands. -/
inductive LaneEntry
  | accepted (ticket : Ticket)
  | worked (ticket : Ticket) (act : WorkerAct)

/-- The lane that an entry of the journal is about, and what it says of it. -/
def Entry.lane? : Entry → Option (Nat × LaneEntry)
  | .accepted lane ticket => some (lane, .accepted ticket)
  | .worked lane ticket act => some (lane, .worked ticket act)
  | _ => none

def Entry.onLane? (index : Nat) (entry : Entry) : Option LaneEntry :=
  entry.lane?.bind (fun about => if about.1 = index then some about.2 else none)

/-- The history of one lane. -/
def laneHistory (index : Nat) (journal : List Entry) : List LaneEntry :=
  journal.filterMap (Entry.onLane? index)

theorem mem_laneHistory {index : Nat} {journal : List Entry} {heard : LaneEntry} :
    heard ∈ laneHistory index journal ↔
      ∃ entry ∈ journal, entry.lane? = some (index, heard) := by
  have onLane (entry : Entry) :
      entry.onLane? index = some heard ↔ entry.lane? = some (index, heard) := by
    rw [Entry.onLane?]
    cases entry.lane? with
    | none => simp
    | some about => simp [Prod.ext_iff]
  simp only [laneHistory, List.mem_filterMap, onLane]

theorem laneHistory_append (index : Nat) (early late : List Entry) :
    laneHistory index (early ++ late) =
      laneHistory index early ++ laneHistory index late :=
  List.filterMap_append

theorem laneHistory_accepted (index : Nat) (ticket : Ticket) :
    laneHistory index [.accepted index ticket] = [.accepted ticket] := by
  simp [laneHistory, Entry.onLane?, Entry.lane?]

theorem laneHistory_accepted_elsewhere {index : Nat} {ticket : Ticket} (other : Nat)
    (different : other ≠ index) : laneHistory other [.accepted index ticket] = [] := by
  simp [laneHistory, Entry.onLane?, Entry.lane?, different.symm]

theorem laneHistory_worked (index : Nat) (ticket : Ticket) (act : WorkerAct) :
    laneHistory index [.worked index ticket act] = [.worked ticket act] := by
  simp [laneHistory, Entry.onLane?, Entry.lane?]

theorem laneHistory_worked_elsewhere {index : Nat} {ticket : Ticket} {act : WorkerAct}
    (other : Nat) (different : other ≠ index) :
    laneHistory other [.worked index ticket act] = [] := by
  simp [laneHistory, Entry.onLane?, Entry.lane?, different.symm]

@[simp] def LaneEntry.accepted? : LaneEntry → Option Ticket
  | .accepted ticket => some ticket
  | .worked _ _ => none

@[simp] def LaneEntry.worked? : LaneEntry → Option (Ticket × WorkerAct)
  | .accepted _ => none
  | .worked ticket act => some (ticket, act)

/-- The accepted units of a history, in order. -/
def acceptedIn (history : List LaneEntry) : List Ticket :=
  history.filterMap LaneEntry.accepted?

/-- What the worker did in a history, in order. -/
def workIn (history : List LaneEntry) : List (Ticket × WorkerAct) :=
  history.filterMap LaneEntry.worked?

@[simp] theorem acceptedIn_accepted (history : List LaneEntry) (ticket : Ticket) :
    acceptedIn (history ++ [.accepted ticket]) = acceptedIn history ++ [ticket] := by
  simp [acceptedIn]

@[simp] theorem acceptedIn_worked (history : List LaneEntry) (ticket : Ticket)
    (act : WorkerAct) :
    acceptedIn (history ++ [.worked ticket act]) = acceptedIn history := by
  simp [acceptedIn]

@[simp] theorem workIn_accepted (history : List LaneEntry) (ticket : Ticket) :
    workIn (history ++ [.accepted ticket]) = workIn history := by
  simp [workIn]

@[simp] theorem workIn_worked (history : List LaneEntry) (ticket : Ticket)
    (act : WorkerAct) :
    workIn (history ++ [.worked ticket act]) = workIn history ++ [(ticket, act)] := by
  simp [workIn]

/-- What a worker did, if an entry tells of that. -/
def Entry.worked? : Entry → Option (Ticket × WorkerAct)
  | .worked _ ticket act => some (ticket, act)
  | _ => none

/-- What is selected from the work in a journal is selected from the work on one lane, if
there is nothing to select on the others. -/
theorem filterMap_workIn {α : Type} {select : Ticket × WorkerAct → Option α} {index : Nat}
    {journal : List Entry}
    (only : ∀ lane ticket act value, .worked lane ticket act ∈ journal →
      select (ticket, act) = some value → lane = index) :
    journal.filterMap (fun entry => entry.worked?.bind select) =
      (workIn (laneHistory index journal)).filterMap select := by
  rw [workIn, laneHistory, List.filterMap_filterMap, List.filterMap_filterMap]
  apply List.filterMap_congr
  intro entry member
  cases entry with
  | worked lane ticket act =>
      by_cases here : lane = index
      · simp [Entry.worked?, Entry.onLane?, Entry.lane?, here]
      · cases selected : select (ticket, act) with
        | none => simp [Entry.worked?, Entry.onLane?, Entry.lane?, here, selected]
        | some value => exact absurd (only lane ticket act value member selected) here
  | accepted lane ticket =>
      by_cases here : lane = index
      · simp [Entry.worked?, Entry.onLane?, Entry.lane?, here]
      · simp [Entry.worked?, Entry.onLane?, Entry.lane?, here]
  | _ => rfl

/-- One step of a lane, from a queue and a hand to the next ones.  The relation
`Becomes` says which event a unit becomes. -/
inductive LaneStep (Becomes : Ticket → Option Event → Prop) :
    List Ticket → Hand → List LaneEntry → List Ticket → Hand → Prop
  | rest {queue : List Ticket} {hand : Hand} :
      LaneStep Becomes queue hand [] queue hand
  | accepted {queue : List Ticket} {hand : Hand} (ticket : Ticket) :
      LaneStep Becomes queue hand [.accepted ticket] (queue ++ [ticket]) hand
  | took {queue : List Ticket} {ticket : Ticket} :
      LaneStep Becomes (ticket :: queue) .empty [.worked ticket .took] queue (.taken ticket)
  | skipped {queue : List Ticket} {ticket : Ticket} :
      Becomes ticket none →
      LaneStep Becomes queue (.taken ticket) [.worked ticket .finished] queue .empty
  | noticed {queue : List Ticket} {ticket : Ticket} {event : Event} (ids : List ListenerId) :
      Becomes ticket (some event) →
      LaneStep Becomes queue (.taken ticket) [.worked ticket (.noticed event ids)] queue
        (.notifying ticket event ids none)
  | called {queue : List Ticket} {ticket : Ticket} {event : Event} {id : ListenerId}
      {next : List ListenerId} :
      LaneStep Becomes queue (.notifying ticket event (id :: next) none)
        [.worked ticket (.called event id)] queue (.notifying ticket event next (some id))
  | returned {queue : List Ticket} {ticket : Ticket} {event : Event} {id : ListenerId}
      {next : List ListenerId} (panicked : Bool) :
      LaneStep Becomes queue (.notifying ticket event next (some id))
        [.worked ticket (.returned event id panicked)] queue
        (.notifying ticket event next none)
  | finished {queue : List Ticket} {ticket : Ticket} {event : Event} :
      LaneStep Becomes queue (.notifying ticket event [] none) [.worked ticket .finished]
        queue .empty

/-- The histories that bring an idle lane to a queue and a hand. -/
inductive LaneRun (Becomes : Ticket → Option Event → Prop) :
    List LaneEntry → List Ticket → Hand → Prop
  | idle : LaneRun Becomes [] [] .empty
  | step {history entries : List LaneEntry} {queue queue' : List Ticket} {hand hand' : Hand} :
      LaneRun Becomes history queue hand →
      LaneStep Becomes queue hand entries queue' hand' →
      LaneRun Becomes (history ++ entries) queue' hand'

theorem LaneStep.mono {Becomes Becomes' : Ticket → Option Event → Prop}
    {entries : List LaneEntry} {queue queue' : List Ticket} {hand hand' : Hand}
    (weaker : ∀ ticket event, Becomes ticket event → Becomes' ticket event)
    (step : LaneStep Becomes queue hand entries queue' hand') :
    LaneStep Becomes' queue hand entries queue' hand' := by
  cases step with
  | rest => exact .rest
  | accepted ticket => exact .accepted ticket
  | took => exact .took
  | skipped useless => exact .skipped (weaker _ _ useless)
  | noticed ids useful => exact .noticed ids (weaker _ _ useful)
  | called => exact .called
  | returned panicked => exact .returned panicked
  | finished => exact .finished

theorem LaneRun.mono {Becomes Becomes' : Ticket → Option Event → Prop}
    {history : List LaneEntry} {queue : List Ticket} {hand : Hand}
    (weaker : ∀ ticket event, Becomes ticket event → Becomes' ticket event)
    (run : LaneRun Becomes history queue hand) : LaneRun Becomes' history queue hand := by
  induction run with
  | idle => exact .idle
  | step _ step induction => exact .step induction (step.mono weaker)

/-- A unit that its worker is through with: the event that it became, if it was one,
and for each listener of the snapshot whether its call panicked. -/
structure Performance where
  ticket : Ticket
  report : Option (Event × List (ListenerId × Bool))

namespace Performance

/-- The calls of an event's listeners.  Each returns before the next begins. -/
def deliveries (ticket : Ticket) (event : Event) (outcomes : List (ListenerId × Bool)) :
    List (Ticket × WorkerAct) :=
  outcomes.flatMap (fun (id, panicked) =>
    [(ticket, .called event id), (ticket, .returned event id panicked)])

/-- Everything that its worker did about the unit. -/
def work (performance : Performance) : List (Ticket × WorkerAct) :=
  match performance.report with
  | none => [(performance.ticket, .took), (performance.ticket, .finished)]
  | some (event, outcomes) =>
      (performance.ticket, .took) ::
        (performance.ticket, .noticed event (outcomes.map (·.1))) ::
          (deliveries performance.ticket event outcomes ++ [(performance.ticket, .finished)])

def event? (performance : Performance) : Option Event :=
  performance.report.map (·.1)

theorem ticket_of_mem_deliveries {ticket other : Ticket} {event : Event}
    {outcomes : List (ListenerId × Bool)} {act : WorkerAct}
    (member : (other, act) ∈ deliveries ticket event outcomes) : other = ticket := by
  obtain ⟨⟨id, panicked⟩, _, member⟩ := List.mem_flatMap.mp member
  simp only [List.mem_cons, Prod.mk.injEq, List.not_mem_nil, or_false] at member
  rcases member with ⟨same, _⟩ | ⟨same, _⟩ <;> exact same

theorem ticket_of_mem_work {performance : Performance} {ticket : Ticket} {act : WorkerAct}
    (member : (ticket, act) ∈ performance.work) : ticket = performance.ticket := by
  cases report : performance.report with
  | none =>
      simp only [work, report, List.mem_cons, Prod.mk.injEq, List.not_mem_nil,
        or_false] at member
      rcases member with ⟨same, _⟩ | ⟨same, _⟩ <;> exact same
  | some details =>
      obtain ⟨event, outcomes⟩ := details
      simp only [work, report, List.mem_cons, Prod.mk.injEq, List.mem_append,
        List.not_mem_nil, or_false] at member
      rcases member with ⟨same, _⟩ | ⟨same, _⟩ | delivery | ⟨same, _⟩
      · exact same
      · exact same
      · exact ticket_of_mem_deliveries delivery
      · exact same

theorem ticket_mem {past : List Performance} {ticket : Ticket} {act : WorkerAct}
    (member : (ticket, act) ∈ past.flatMap work) : ticket ∈ past.map (·.ticket) := by
  obtain ⟨performance, inPast, worked⟩ := List.mem_flatMap.mp member
  rw [ticket_of_mem_work worked]
  exact List.mem_map_of_mem inPast

end Performance

/-- What a worker has done about the unit in its hands. -/
inductive Underway (Becomes : Ticket → Option Event → Prop) :
    Hand → List (Ticket × WorkerAct) → Prop
  | empty : Underway Becomes .empty []
  | taken (ticket : Ticket) : Underway Becomes (.taken ticket) [(ticket, .took)]
  | between {ticket : Ticket} {event : Event} (outcomes : List (ListenerId × Bool))
      (next : List ListenerId) :
      Becomes ticket (some event) →
      Underway Becomes (.notifying ticket event next none)
        ((ticket, .took) :: (ticket, .noticed event (outcomes.map (·.1) ++ next)) ::
          Performance.deliveries ticket event outcomes)
  | inCall {ticket : Ticket} {event : Event} (outcomes : List (ListenerId × Bool))
      (id : ListenerId) (next : List ListenerId) :
      Becomes ticket (some event) →
      Underway Becomes (.notifying ticket event next (some id))
        ((ticket, .took) :: (ticket, .noticed event (outcomes.map (·.1) ++ id :: next)) ::
          (Performance.deliveries ticket event outcomes ++ [(ticket, .called event id)]))

theorem Underway.ticket_mem {Becomes : Ticket → Option Event → Prop} {hand : Hand}
    {current : List (Ticket × WorkerAct)} (underway : Underway Becomes hand current)
    {ticket : Ticket} {act : WorkerAct} (member : (ticket, act) ∈ current) :
    ticket ∈ hand.tickets := by
  cases underway with
  | empty => cases member
  | taken other =>
      simp only [List.mem_cons, Prod.mk.injEq, List.not_mem_nil, or_false] at member
      simp [Hand.tickets, member.1]
  | between outcomes next _ =>
      simp only [List.mem_cons, Prod.mk.injEq] at member
      rcases member with ⟨same, _⟩ | ⟨same, _⟩ | delivery
      · simp [Hand.tickets, same]
      · simp [Hand.tickets, same]
      · simp [Hand.tickets, Performance.ticket_of_mem_deliveries delivery]
  | inCall outcomes id next _ =>
      simp only [List.mem_cons, Prod.mk.injEq, List.mem_append, List.not_mem_nil,
        or_false] at member
      rcases member with ⟨same, _⟩ | ⟨same, _⟩ | delivery | ⟨same, _⟩
      · simp [Hand.tickets, same]
      · simp [Hand.tickets, same]
      · simp [Hand.tickets, Performance.ticket_of_mem_deliveries delivery]
      · simp [Hand.tickets, same]

/-- A history in closed form: the performances that are over, what has been done
about the unit in the worker's hands, and the accepted units in the order in which
they were or will be performed. -/
structure Performed (Becomes : Ticket → Option Event → Prop) (history : List LaneEntry)
    (queue : List Ticket) (hand : Hand) (past : List Performance)
    (current : List (Ticket × WorkerAct)) : Prop where
  work : workIn history = past.flatMap Performance.work ++ current
  underway : Underway Becomes hand current
  accepted : acceptedIn history = past.map (·.ticket) ++ hand.tickets ++ queue
  events : ∀ performance ∈ past, Becomes performance.ticket performance.event?

theorem LaneStep.performed {Becomes : Ticket → Option Event → Prop}
    {history entries : List LaneEntry} {queue queue' : List Ticket} {hand hand' : Hand}
    {past : List Performance} {current : List (Ticket × WorkerAct)}
    (performed : Performed Becomes history queue hand past current)
    (step : LaneStep Becomes queue hand entries queue' hand') :
    ∃ past' current',
      Performed Becomes (history ++ entries) queue' hand' past' current' := by
  obtain ⟨work, underway, accepted, events⟩ := performed
  -- What is under way grows act by act, until the last one makes it a performance.
  cases step with
  | rest =>
      exact ⟨past, current, by simpa using work, underway, by simpa using accepted, events⟩
  | accepted ticket =>
      refine ⟨past, current, ?_, underway, ?_, events⟩
      · simpa using work
      · simp [accepted]
  | @took queue ticket =>
      cases underway
      refine ⟨past, [(ticket, .took)], ?_, .taken ticket, ?_, events⟩
      · simp [work]
      · simp [accepted, Hand.tickets]
  | @skipped queue ticket useless =>
      cases underway
      refine ⟨past ++ [⟨ticket, none⟩], [], ?_, .empty, ?_, ?_⟩
      · simp [work, Performance.work]
      · simp [accepted, Hand.tickets]
      · intro performance member
        rcases List.mem_append.mp member with earlier | last
        · exact events performance earlier
        · simp only [List.mem_singleton] at last
          subst last
          exact useless
  | @noticed queue ticket event ids useful =>
      cases underway
      refine ⟨past, _, ?_, .between [] ids useful, ?_, events⟩
      · simp [work, Performance.deliveries]
      · simp [accepted, Hand.tickets]
  | @called queue ticket event id next =>
      cases underway with
      | between outcomes _ useful =>
          refine ⟨past, _, ?_, .inCall outcomes id next useful, ?_, events⟩
          · simp [work]
          · simp [accepted, Hand.tickets]
  | @returned queue ticket event id next panicked =>
      cases underway with
      | inCall outcomes _ _ useful =>
          refine ⟨past, _, ?_, .between (outcomes ++ [(id, panicked)]) next useful, ?_, events⟩
          · simp [work, Performance.deliveries]
          · simp [accepted, Hand.tickets]
  | @finished queue ticket event =>
      cases underway with
      | between outcomes _ useful =>
          refine ⟨past ++ [⟨ticket, some (event, outcomes)⟩], [], ?_, .empty, ?_, ?_⟩
          · simp [work, Performance.work]
          · simp [accepted, Hand.tickets]
          · intro performance member
            rcases List.mem_append.mp member with earlier | last
            · exact events performance earlier
            · simp only [List.mem_singleton] at last
              subst last
              exact useful

theorem LaneRun.performed {Becomes : Ticket → Option Event → Prop}
    {history : List LaneEntry} {queue : List Ticket} {hand : Hand}
    (run : LaneRun Becomes history queue hand) :
    ∃ past current, Performed Becomes history queue hand past current := by
  induction run with
  | idle => exact ⟨[], [], rfl, .empty, rfl, by simp⟩
  | step _ step induction =>
      obtain ⟨past, current, performed⟩ := induction
      exact step.performed performed

end ReviewFeed
