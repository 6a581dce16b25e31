import Mathlib.Data.List.Perm.Subperm
import ReviewFeed.Proofs.Dispatch.RunsWithout

/-!
# Calls that ask late

Whatever a dispatcher does, it can do as well with calls that ask for a place only when
they are about to fill it.  Nobody waits then, and who is given up has never asked, so
that a run in which a call is given up does the same as one in which the call was never
made.
-/

namespace ReviewFeed

/-- The status of a call that asks late: it does not sleep. -/
def CallStatus.askingLate : CallStatus → CallStatus
  | .waiting => .offering
  | status => status

def EnqueueCall.askingLate (call : EnqueueCall) : EnqueueCall :=
  { call with status := call.status.askingLate }

theorem CallStatus.isPending_askingLate (status : CallStatus) :
    status.askingLate.isPending = status.isPending := by
  cases status <;> rfl

theorem CallStatus.ne_holding_of_isPending {status : CallStatus}
    (pending : status.isPending = true) : status ≠ .holding := by
  rintro rfl
  cases pending

theorem EnqueueCall.status_askingLate {call : EnqueueCall} {status : CallStatus}
    (same : call.status = status) (awake : status ≠ .waiting) :
    call.askingLate.status = status := by
  subst same
  rw [EnqueueCall.askingLate, CallStatus.askingLate]
  exact awake

/-- A lane in which nobody waits and only those have places who are about to fill them. -/
structure Lane.AskedLate (holds : Ticket → Prop) (lane late : Lane) : Prop where
  queue : late.queue = lane.queue
  hand : late.hand = lane.hand
  phase : late.phase = lane.phase
  waiting : late.waiting = []
  distinct : late.places.Nodup
  places : ∀ ticket, ticket ∈ late.places ↔ ticket ∈ lane.places ∧ holds ticket

namespace Lane.AskedLate

variable {holds holds' : Ticket → Prop} {lane late new : Lane} {ticket : Ticket}

theorem congr (asked : lane.AskedLate holds late)
    (same : ∀ ticket ∈ lane.places, holds' ticket ↔ holds ticket) :
    lane.AskedLate holds' late :=
  { asked with
    places := fun ticket => (asked.places ticket).trans
      (and_congr_right (fun member => (same ticket member).symm)) }

theorem withHand (asked : lane.AskedLate holds late) (hand : Hand) :
    AskedLate holds { lane with hand } { late with hand } :=
  { asked with hand := rfl }

theorem withPhase (asked : lane.AskedLate holds late) (phase : Phase) :
    AskedLate holds { lane with phase } { late with phase } :=
  { asked with phase := rfl }

theorem without (asked : lane.AskedLate holds late) (ticket : Ticket) :
    (lane.without ticket).AskedLate holds (late.without ticket) where
  queue := asked.queue
  hand := asked.hand
  phase := asked.phase
  waiting := by rw [Lane.without, asked.waiting]; rfl
  distinct := asked.distinct.filter _
  places other := by
    rw [mem_places_without, mem_places_without, asked.places, and_right_comm]

/-- A call holds the place that it was given, or is given one that it holds at once. -/
theorem placed (asked : lane.AskedLate holds late) (free : ¬holds ticket)
    (same : ∀ other, holds' other ↔ holds other ∨ other = ticket)
    (queue : new.queue = lane.queue) (hand : new.hand = lane.hand)
    (phase : new.phase = lane.phase)
    (places : ∀ other, other ∈ new.places ↔ other ∈ lane.places ∨ other = ticket) :
    new.AskedLate holds' { late with places := late.places ++ [ticket] } where
  queue := asked.queue.trans queue.symm
  hand := asked.hand.trans hand.symm
  phase := asked.phase.trans phase.symm
  waiting := asked.waiting
  distinct := by
    rw [← List.concat_eq_append]
    exact asked.distinct.concat (fun member => free ((asked.places ticket).mp member).2)
  places other := by
    rw [List.mem_append, List.mem_singleton, asked.places, places, same, and_or_right]

/-- Fewer places are taken than by calls that ask early. -/
theorem taken_le (asked : lane.AskedLate holds late) : late.taken ≤ lane.taken := by
  have fewer : late.places.length ≤ lane.places.length :=
    (asked.distinct.subperm (fun ticket member => ((asked.places ticket).mp member).1)).length_le
  rw [taken, taken, asked.queue]
  exact Nat.add_le_add_left fewer _

/-- A place that was given and is not held yet is one more. -/
theorem taken_lt (asked : lane.AskedLate holds late) (given : ticket ∈ lane.places)
    (free : ¬holds ticket) : late.taken < lane.taken := by
  have fresh : ticket ∉ late.places := fun member => free ((asked.places ticket).mp member).2
  have fewer : (ticket :: late.places).length ≤ lane.places.length := by
    have distinct := List.nodup_cons.mpr ⟨fresh, asked.distinct⟩
    refine (distinct.subperm (fun other member => ?_)).length_le
    rcases List.mem_cons.mp member with rfl | old
    · exact given
    · exact ((asked.places other).mp old).1
  rw [taken, taken, asked.queue]
  exact Nat.add_lt_add_left fewer _

theorem forget {gone : Ticket} (asked : lane.AskedLate holds late)
    (same : ∀ other ≠ gone, holds' (renumber gone other) ↔ holds other) :
    (lane.forget gone).AskedLate holds' (late.forget gone) where
  queue := congrArg (leaveOut gone) asked.queue
  hand := congrArg (Hand.renumber gone) asked.hand
  phase := asked.phase
  waiting := congrArg (leaveOut gone) asked.waiting
  distinct := nodup_leaveOut asked.distinct
  places ticket := by
    simp only [Lane.forget, mem_leaveOut]
    constructor
    · rintro ⟨other, member, different, rfl⟩
      obtain ⟨given, held⟩ := (asked.places other).mp member
      exact ⟨⟨other, given, different, rfl⟩, (same other different).mpr held⟩
    · rintro ⟨⟨other, given, different, rfl⟩, held⟩
      have member := (asked.places other).mpr ⟨given, (same other different).mp held⟩
      exact ⟨other, member, different, rfl⟩

end Lane.AskedLate

namespace Dispatcher

/-- The call has a place and is about to fill it. -/
def Holds (dispatcher : Dispatcher) (ticket : Ticket) : Prop :=
  dispatcher.status? ticket = some .holding

section Holding

variable {dispatcher : Dispatcher} {ticket other : Ticket} {call : EnqueueCall}
  {status : CallStatus} {lane : Lane} {index : Nat}

theorem holds_iff (found : dispatcher.calls[ticket]? = some call) :
    dispatcher.Holds ticket ↔ call.status = .holding := by
  rw [Holds, status?, found, Option.map_some, Option.some_inj]

theorem holds_setStatus_of_ne (different : ticket ≠ other) :
    (dispatcher.setStatus ticket status).Holds other ↔ dispatcher.Holds other := by
  simp [Holds, status?, setStatus_getElem?, different]

/-- Whoever did not hold a place and does not hold one now makes no difference. -/
theorem holds_setStatus (found : dispatcher.calls[ticket]? = some call)
    (before : call.status ≠ .holding) (now : status ≠ .holding) (other : Ticket) :
    (dispatcher.setStatus ticket status).Holds other ↔ dispatcher.Holds other := by
  by_cases same : ticket = other
  · subst same
    rw [holds_iff (setStatus_self found status), holds_iff found]
    exact iff_of_false now before
  · exact holds_setStatus_of_ne same

theorem holds_setStatus_holding (found : dispatcher.calls[ticket]? = some call)
    (other : Ticket) :
    (dispatcher.setStatus ticket .holding).Holds other ↔
      dispatcher.Holds other ∨ other = ticket := by
  by_cases same : ticket = other
  · subst same
    simp [holds_iff (setStatus_self found .holding)]
  · rw [holds_setStatus_of_ne same]
    simp [Ne.symm same]

/-- A call stands in the line of its own lane only. -/
theorem InLine.ne_of_elsewhere (inLine : dispatcher.InLine)
    (mine : dispatcher.calls[ticket]? = some call) (found : dispatcher.lanes[index]? = some lane)
    (elsewhere : index ≠ call.lane) (stands : other ∈ lane.places) : ticket ≠ other := by
  rintro rfl
  obtain ⟨same, sameFound, here, _⟩ :=
    inLine.alive index ticket ⟨lane, found, List.mem_append_left _ stands⟩
  obtain rfl := Option.some.inj (mine.symm.trans sameFound)
  exact elsewhere here.symm

/-- Who waits holds no place. -/
theorem Orderly.not_holds_of_waiting {capacity : Nat} (orderly : Orderly capacity dispatcher)
    (found : dispatcher.lanes[index]? = some lane) (waits : ticket ∈ lane.waiting) :
    ¬dispatcher.Holds ticket := by
  intro holds
  obtain ⟨call, mine, here, _⟩ :=
    orderly.inLine.alive index ticket ⟨lane, found, List.mem_append_right _ waits⟩
  obtain ⟨same, sameFound, placed⟩ :=
    (orderly.inLine.placed ticket call mine).holding ((holds_iff mine).mp holds)
  rw [here] at sameFound
  obtain rfl := Option.some.inj (found.symm.trans sameFound)
  exact (orderly.once lane (List.mem_of_getElem? found)).disjoint placed waits

end Holding

theorem setLane_eq_self {dispatcher : Dispatcher} {index : Nat} {lane : Lane}
    (found : dispatcher.lanes[index]? = some lane) :
    dispatcher.setLane index lane = dispatcher := by
  obtain ⟨inside, rfl⟩ := List.getElem?_eq_some_iff.mp found
  rw [setLane, List.set_getElem_self]

theorem setStatus_eq_self {dispatcher : Dispatcher} {ticket : Ticket} {call : EnqueueCall}
    (found : dispatcher.calls[ticket]? = some call) :
    dispatcher.setStatus ticket call.status = dispatcher := by
  have calls : (dispatcher.setStatus ticket call.status).calls = dispatcher.calls := by
    apply List.ext_getElem?
    intro other
    rw [setStatus_getElem?]
    by_cases same : ticket = other
    · simp [← same, found]
    · simp [same]
  exact congrArg (fun calls => { dispatcher with calls }) calls

/-- The dispatcher stands where another one would with calls that ask late. -/
structure AsksLate (dispatcher late : Dispatcher) : Prop where
  capacity : late.capacity = dispatcher.capacity
  routing : late.routing = dispatcher.routing
  closing : late.closing = dispatcher.closing
  registry : late.registry = dispatcher.registry
  journal : late.journal = dispatcher.journal
  calls : late.calls = dispatcher.calls.map EnqueueCall.askingLate
  lanes : ∀ index : Nat, Option.Rel (Lane.AskedLate dispatcher.Holds)
    dispatcher.lanes[index]? late.lanes[index]?

theorem asksLate_start (capacity workers : Nat) (routing : String → Nat) :
    (start capacity workers routing).AsksLate (start capacity workers routing) where
  capacity := rfl
  routing := rfl
  closing := rfl
  registry := rfl
  journal := rfl
  calls := rfl
  lanes index := by
    cases found : (start capacity workers routing).lanes[index]? with
    | none => exact .none
    | some lane =>
        rw [List.eq_of_mem_replicate (List.mem_of_getElem? found)]
        exact .some ⟨rfl, rfl, rfl, rfl, List.nodup_nil, by simp [idleLane]⟩

namespace AsksLate

variable {dispatcher late : Dispatcher} {ticket : Ticket} {call : EnqueueCall} {index : Nat}
  {lane new lateNew : Lane} {status : CallStatus}

theorem found_call (asks : dispatcher.AsksLate late)
    (found : dispatcher.calls[ticket]? = some call) :
    late.calls[ticket]? = some call.askingLate := by
  rw [asks.calls, List.getElem?_map, found]
  rfl

theorem found_lane (asks : dispatcher.AsksLate late)
    (found : dispatcher.lanes[index]? = some lane) :
    ∃ lateLane, late.lanes[index]? = some lateLane ∧
      lane.AskedLate dispatcher.Holds lateLane := by
  have related := asks.lanes index
  rw [found] at related
  generalize late.lanes[index]? = other at related
  cases related with
  | some asked => exact ⟨_, rfl, asked⟩

theorem lane_of_late (asks : dispatcher.AsksLate late) {lateLane : Lane}
    (found : late.lanes[index]? = some lateLane) :
    ∃ lane, dispatcher.lanes[index]? = some lane ∧
      lane.AskedLate dispatcher.Holds lateLane := by
  have related := asks.lanes index
  rw [found] at related
  generalize dispatcher.lanes[index]? = other at related
  cases related with
  | some asked => exact ⟨_, rfl, asked⟩

/-- Every lane changes in its way. -/
theorem lanes_map {holds : Ticket → Prop} {change lateChange : Lane → Lane}
    (asks : dispatcher.AsksLate late)
    (kept : ∀ lane lateLane, dispatcher.lanes[index]? = some lane →
      lane.AskedLate dispatcher.Holds lateLane →
      (change lane).AskedLate holds (lateChange lateLane)) :
    Option.Rel (Lane.AskedLate holds) (dispatcher.lanes[index]?.map change)
      (late.lanes[index]?.map lateChange) := by
  have related := asks.lanes index
  generalize lateFound : late.lanes[index]? = other at related
  cases found : dispatcher.lanes[index]? with
  | none =>
      rw [found] at related
      cases related
      exact .none
  | some lane =>
      rw [found] at related
      cases related with
      | some asked => exact .some (kept lane _ found asked)

/-- The lanes are looked at with the statuses that a move leads to. -/
theorem lanes_congr {holds : Ticket → Prop} (asks : dispatcher.AsksLate late)
    (same : ∀ lane, dispatcher.lanes[index]? = some lane → ∀ ticket ∈ lane.places,
      holds ticket ↔ dispatcher.Holds ticket) :
    Option.Rel (Lane.AskedLate holds) dispatcher.lanes[index]? late.lanes[index]? := by
  simpa using asks.lanes_map (fun lane lateLane found asked => asked.congr (same lane found))

/-- One lane changes. -/
theorem lanes_set {holds : Ticket → Prop} (asks : dispatcher.AsksLate late)
    (found : dispatcher.lanes[index]? = some lane) (asked : new.AskedLate holds lateNew)
    (same : ∀ place ≠ index, ∀ lane, dispatcher.lanes[place]? = some lane →
      ∀ ticket ∈ lane.places, holds ticket ↔ dispatcher.Holds ticket) (place : Nat) :
    Option.Rel (Lane.AskedLate holds) (dispatcher.lanes.set index new)[place]?
      (late.lanes.set index lateNew)[place]? := by
  by_cases here : index = place
  · subst here
    obtain ⟨lateLane, lateFound, _⟩ := asks.found_lane found
    rw [List.getElem?_set_self (List.getElem?_eq_some_iff.mp found).1,
      List.getElem?_set_self (List.getElem?_eq_some_iff.mp lateFound).1]
    exact .some asked
  · rw [List.getElem?_set_ne here, List.getElem?_set_ne here]
    exact asks.lanes_congr (same place (Ne.symm here))

theorem note (asks : dispatcher.AsksLate late) (entry : Entry) :
    (dispatcher.note entry).AsksLate (late.note entry) :=
  { asks with journal := congrArg (· ++ [entry]) asks.journal }

theorem setLane (asks : dispatcher.AsksLate late)
    (found : dispatcher.lanes[index]? = some lane)
    (asked : new.AskedLate dispatcher.Holds lateNew) :
    (dispatcher.setLane index new).AsksLate (late.setLane index lateNew) :=
  { asks with lanes := asks.lanes_set found asked (fun _ _ _ _ _ _ => Iff.rfl) }

theorem worked (asks : dispatcher.AsksLate late)
    (found : dispatcher.lanes[index]? = some lane)
    (asked : new.AskedLate dispatcher.Holds lateNew) (entry : Entry) :
    ((dispatcher.setLane index new).note entry).AsksLate
      ((late.setLane index lateNew).note entry) :=
  (asks.setLane found asked).note entry

/-- A lane changes that looks the same to calls that ask late. -/
theorem setLane_of_late (asks : dispatcher.AsksLate late)
    (found : dispatcher.lanes[index]? = some lane)
    (asked : ∀ lateLane, lane.AskedLate dispatcher.Holds lateLane →
      new.AskedLate dispatcher.Holds lateLane) :
    (dispatcher.setLane index new).AsksLate late := by
  obtain ⟨lateLane, lateFound, askedBefore⟩ := asks.found_lane found
  have changed := asks.setLane found (asked lateLane askedBefore)
  rwa [setLane_eq_self lateFound] at changed

theorem calls_setStatus (asks : dispatcher.AsksLate late) (ticket : Ticket)
    (status : CallStatus) :
    (late.setStatus ticket status.askingLate).calls =
      (dispatcher.setStatus ticket status).calls.map EnqueueCall.askingLate := by
  let change (call : EnqueueCall) : EnqueueCall := { call with status }
  let lateChange (call : EnqueueCall) : EnqueueCall :=
    { call with status := status.askingLate }
  have commutes (call : EnqueueCall) :
      (change call).askingLate = lateChange call.askingLate := rfl
  rw [Dispatcher.setStatus, asks.calls]
  exact (map_modify commutes dispatcher.calls ticket).symm

theorem setStatus (asks : dispatcher.AsksLate late)
    (found : dispatcher.calls[ticket]? = some call) (before : call.status ≠ .holding)
    (now : status ≠ .holding) :
    (dispatcher.setStatus ticket status).AsksLate (late.setStatus ticket status.askingLate) :=
  { asks with
    calls := asks.calls_setStatus ticket status
    lanes := fun _ => asks.lanes_congr
      (fun _ _ other _ => holds_setStatus found before now other) }

/-- A call goes on sleeping or falls asleep. -/
theorem setStatus_waiting (asks : dispatcher.AsksLate late)
    (found : dispatcher.calls[ticket]? = some call) (offering : call.status = .offering) :
    (dispatcher.setStatus ticket .waiting).AsksLate late := by
  have unheld : CallStatus.waiting ≠ .holding := nofun
  have asleep := asks.setStatus found (by simp [offering]) unheld
  have same : late.setStatus ticket .offering = late := by
    simpa [EnqueueCall.askingLate, CallStatus.askingLate, offering] using
      setStatus_eq_self (asks.found_call found)
  rwa [CallStatus.askingLate, same] at asleep

theorem lanes_without (asks : dispatcher.AsksLate late) (index : Nat) (ticket : Ticket)
    (place : Nat) :
    Option.Rel (Lane.AskedLate dispatcher.Holds)
      (dispatcher.lanes.modify index (Lane.without ticket))[place]?
      (late.lanes.modify index (Lane.without ticket))[place]? := by
  rw [List.getElem?_modify, List.getElem?_modify]
  refine asks.lanes_map (fun lane lateLane _ asked => ?_)
  split
  · exact asked.without ticket
  · exact asked

theorem withdraw (asks : dispatcher.AsksLate late) (ticket : Ticket) (call : EnqueueCall) :
    (dispatcher.withdraw ticket call).AsksLate (late.withdraw ticket call.askingLate) :=
  { asks with lanes := asks.lanes_without call.lane ticket }

theorem length_lanes (asks : dispatcher.AsksLate late) :
    late.lanes.length = dispatcher.lanes.length := by
  apply Nat.le_antisymm
  · refine Nat.le_of_not_lt (fun inside => ?_)
    obtain ⟨_, found, _⟩ := asks.lane_of_late (List.getElem?_eq_getElem inside)
    exact Nat.lt_irrefl _ (List.getElem?_eq_some_iff.mp found).1
  · refine Nat.le_of_not_lt (fun inside => ?_)
    obtain ⟨_, lateFound, _⟩ := asks.found_lane (List.getElem?_eq_getElem inside)
    exact Nat.lt_irrefl _ (List.getElem?_eq_some_iff.mp lateFound).1

theorem laneOf (asks : dispatcher.AsksLate late) (provider : Option Provider) :
    late.laneOf provider = dispatcher.laneOf provider := by
  simp only [Dispatcher.laneOf, asks.routing, asks.length_lanes]

/-- A call leaves that holds no place. -/
theorem leave (asks : dispatcher.AsksLate late)
    (found : dispatcher.calls[ticket]? = some call) (pending : call.status.isPending = true)
    (now : status ≠ .holding) (entry : Entry) :
    (((dispatcher.withdraw ticket call).setStatus ticket status).note entry).AsksLate
      (((late.withdraw ticket call.askingLate).setStatus ticket status.askingLate).note
        entry) :=
  ((asks.withdraw ticket call).setStatus found (CallStatus.ne_holding_of_isPending pending)
    now).note entry

/-- A call takes the place that it was given, or one that is free. -/
theorem place (asks : dispatcher.AsksLate late) (inLine : dispatcher.InLine)
    (found : dispatcher.calls[ticket]? = some call)
    (laneFound : dispatcher.lanes[call.lane]? = some lane)
    (asked : new.AskedLate (dispatcher.setStatus ticket .holding).Holds lateNew) :
    ((dispatcher.setLane call.lane new).setStatus ticket .holding).AsksLate
      ((late.setLane call.lane lateNew).setStatus ticket .holding) :=
  { asks with
    calls := asks.calls_setStatus ticket .holding
    lanes := asks.lanes_set laneFound asked
      (fun _ elsewhere _ other _ stands => holds_setStatus_of_ne
        (inLine.ne_of_elsewhere found other elsewhere stands)) }

theorem accept (asks : dispatcher.AsksLate late) (inLine : dispatcher.InLine)
    (found : dispatcher.calls[ticket]? = some call)
    (laneFound : dispatcher.lanes[call.lane]? = some lane) {lateLane : Lane}
    (asked : lane.AskedLate dispatcher.Holds lateLane) :
    (dispatcher.accept ticket call.lane lane).AsksLate
      (late.accept ticket call.lane lateLane) := by
  have other {other : Ticket} (different : ticket ≠ other) :
      (dispatcher.setStatus ticket .accepted).Holds other ↔ dispatcher.Holds other :=
    holds_setStatus_of_ne different
  have left := (asked.without ticket).congr
    (fun member stands => other (Lane.mem_places_without.mp stands).2.symm)
  refine AsksLate.note ?_ (.accepted call.lane ticket)
  exact
    { asks with
      calls := asks.calls_setStatus ticket .accepted
      lanes := asks.lanes_set laneFound
        { left with queue := congrArg (· ++ [ticket]) asked.queue }
        (fun _ elsewhere _ laneFound _ stands =>
          other (inLine.ne_of_elsewhere found laneFound elsewhere stands)) }

/-- A new call neither waits nor has a place. -/
theorem enter (asks : dispatcher.AsksLate late) (inLine : dispatcher.InLine) (work : Work) :
    (dispatcher.enter work).AsksLate (late.enter work) where
  capacity := by rw [enter_capacity, enter_capacity, asks.capacity]
  routing := by rw [enter_routing, enter_routing, asks.routing]
  closing := by rw [enter_closing, enter_closing, asks.closing]
  registry := by rw [enter_registry, enter_registry, asks.registry]
  journal := by
    rw [enter_journal, enter_journal, asks.journal, asks.closing, asks.calls, List.length_map]
  calls := by
    rw [enter_calls, enter_calls, asks.calls, asks.laneOf, asks.closing, List.map_append]
    cases dispatcher.closing <;> rfl
  lanes := by
    rw [enter_lanes, enter_lanes]
    refine fun index => asks.lanes_congr (fun lane found ticket stands => ?_)
    obtain ⟨call, mine, _⟩ :=
      inLine.alive index ticket ⟨lane, found, List.mem_append_left _ stands⟩
    have still : (dispatcher.enter work).calls[ticket]? = some call := by
      rw [enter_calls, List.getElem?_append_left (List.getElem?_eq_some_iff.mp mine).1, mine]
    rw [holds_iff still, holds_iff mine]

theorem withRegistry (asks : dispatcher.AsksLate late) (registry : Registry) :
    AsksLate { dispatcher with registry } { late with registry } :=
  { asks with registry := rfl }

theorem addListener (asks : dispatcher.AsksLate late) :
    dispatcher.addListener.AsksLate late.addListener := by
  rw [Dispatcher.addListener, Dispatcher.addListener, asks.registry]
  exact (asks.withRegistry _).note _

theorem removeListener (asks : dispatcher.AsksLate late) (id : ListenerId) :
    (dispatcher.removeListener id).AsksLate (late.removeListener id) := by
  rw [Dispatcher.removeListener, Dispatcher.removeListener, asks.registry]
  exact (asks.withRegistry _).note _

theorem close (asks : dispatcher.AsksLate late) :
    AsksLate { dispatcher with closing := true } { late with closing := true } :=
  { asks with closing := rfl }

end AsksLate

/-- What a dispatcher does, it does with calls that ask late: a move is made there as
well, or it is one of a call that waits or is given a place, and nothing is to be done. -/
theorem Move.askingLate {capacity : Nat} {before after late : Dispatcher}
    {action : DispatchAction} (orderly : Orderly capacity before) (asks : before.AsksLate late)
    (move : Move before action after) :
    after.AsksLate late ∨ ∃ next, Move late action next ∧ after.AsksLate next := by
  have inLine := orderly.inLine
  have room {lateLane : Lane} (free : lateLane.taken < before.capacity) :
      late.hasRoom lateLane = true := hasRoom_iff.mpr (asks.capacity ▸ free)
  have refused : CallStatus.refused ≠ .holding := nofun
  have abandoned : CallStatus.abandoned ≠ .holding := nofun
  cases move with
  | enter work => exact .inr ⟨_, .enter work, asks.enter inLine work⟩
  | @lookClosed ticket call found pending closing =>
      have still := (CallStatus.isPending_askingLate call.status).trans pending
      exact .inr ⟨_, .lookClosed (asks.found_call found) still (asks.closing.trans closing),
        asks.leave found pending refused _⟩
  | @lookOpen ticket call found pending opened =>
      have still := (CallStatus.isPending_askingLate call.status).trans pending
      have offering : CallStatus.offering ≠ .holding := nofun
      exact .inr ⟨_, .lookOpen (asks.found_call found) still (asks.closing.trans opened),
        asks.setStatus found (CallStatus.ne_holding_of_isPending pending) offering⟩
  | @sendClosed ticket call lane found laneFound offering closed =>
      obtain ⟨lateLane, lateFound, asked⟩ := asks.found_lane laneFound
      have still := EnqueueCall.status_askingLate offering nofun
      have pending : call.status.isPending = true := by rw [offering]; rfl
      exact .inr ⟨_, .sendClosed (asks.found_call found) lateFound still (asked.phase ▸ closed),
        asks.leave found pending refused _⟩
  | @sendGiven ticket call lane found laneFound offering running given =>
      -- The place was given before, and is asked for and given only now.
      obtain ⟨lateLane, lateFound, asked⟩ := asks.found_lane laneFound
      have still := EnqueueCall.status_askingLate offering nofun
      have free : ¬before.Holds ticket := by simp [holds_iff found, offering]
      have fresh : ticket ∉ lateLane.places := fun member =>
        free ((asked.places ticket).mp member).2
      have unfilled := Nat.lt_of_lt_of_le (asked.taken_lt given free)
        (orderly.bounded lane (List.mem_of_getElem? laneFound))
      have move := Move.sendPlaced (asks.found_call found) lateFound still
        (asked.phase.trans running) fresh (by simp [asked.waiting]) asked.waiting (room unfilled)
      refine .inr ⟨_, move, ?_⟩
      have placed := asks.place inLine found laneFound
        (asked.placed free (holds_setStatus_holding found) rfl rfl rfl
          (fun other => (or_iff_left_of_imp (fun same => same ▸ given)).symm))
      rwa [setLane_eq_self laneFound] at placed
  | sendAsleep found laneFound offering =>
      exact .inl (asks.setStatus_waiting found offering)
  | @sendPlaced ticket call lane found laneFound offering running notGiven fresh nobody free =>
      obtain ⟨lateLane, lateFound, asked⟩ := asks.found_lane laneFound
      have still := EnqueueCall.status_askingLate offering nofun
      have unheld : ¬before.Holds ticket := by simp [holds_iff found, offering]
      have unfilled := Nat.lt_of_le_of_lt asked.taken_le (hasRoom_iff.mp free)
      have move := Move.sendPlaced (asks.found_call found) lateFound still
        (asked.phase.trans running) (fun member => notGiven ((asked.places ticket).mp member).1)
        (by simp [asked.waiting]) asked.waiting (room unfilled)
      exact .inr ⟨_, move, asks.place inLine found laneFound
        (asked.placed unheld (holds_setStatus_holding found) rfl rfl rfl (by simp))⟩
  | @sendQueued ticket call lane found laneFound offering =>
      have queued : AsksLate (before.setLane call.lane
          { lane with waiting := lane.waiting ++ [ticket] }) late :=
        asks.setLane_of_late laneFound (fun _ asked => { asked with })
      exact .inl (queued.setStatus_waiting found offering)
  | @deliver ticket call lane found laneFound holding placed =>
      obtain ⟨lateLane, lateFound, asked⟩ := asks.found_lane laneFound
      have placed := (asked.places ticket).mpr ⟨placed, (holds_iff found).mpr holding⟩
      have still := EnqueueCall.status_askingLate holding nofun
      exact .inr ⟨_, .deliver (asks.found_call found) lateFound still placed,
        asks.accept inLine found laneFound asked⟩
  | @advance index lane ticket waiting laneFound line running free =>
      have unheld : ¬before.Holds ticket :=
        orderly.not_holds_of_waiting laneFound (line ▸ List.mem_cons_self)
      refine .inl (asks.setLane_of_late laneFound (fun _ asked =>
        { asked with places := fun other => ?_ }))
      rw [asked.places, List.mem_append, List.mem_singleton, or_and_right]
      exact (or_iff_left_of_imp (fun same => absurd (same.1 ▸ same.2) unheld)).symm
  | abandon found pending =>
      have still := (CallStatus.isPending_askingLate _).trans pending
      exact .inr ⟨_, .abandon (asks.found_call found) still,
        asks.leave found pending abandoned _⟩
  | take laneFound free first active =>
      obtain ⟨lateLane, lateFound, asked⟩ := asks.found_lane laneFound
      have move := Move.take lateFound (asked.hand.trans free) (asked.queue.trans first)
        (asked.phase ▸ active)
      refine .inr ⟨_, move, asks.worked laneFound ?_ _⟩
      exact { asked with queue := rfl, hand := rfl }
  | skip laneFound inHand found useless =>
      obtain ⟨lateLane, lateFound, asked⟩ := asks.found_lane laneFound
      have move := Move.skip lateFound (asked.hand.trans inHand) (asks.found_call found) useless
      exact .inr ⟨_, move, asks.worked laneFound (asked.withHand _) _⟩
  | notice laneFound inHand found useful =>
      obtain ⟨lateLane, lateFound, asked⟩ := asks.found_lane laneFound
      have move := Move.notice lateFound (asked.hand.trans inHand) (asks.found_call found) useful
      rw [asks.registry] at move
      exact .inr ⟨_, move, asks.worked laneFound (asked.withHand _) _⟩
  | call laneFound inHand =>
      obtain ⟨lateLane, lateFound, asked⟩ := asks.found_lane laneFound
      have move := Move.call lateFound (asked.hand.trans inHand)
      exact .inr ⟨_, move, asks.worked laneFound (asked.withHand _) _⟩
  | finishCall panicked laneFound inHand =>
      obtain ⟨lateLane, lateFound, asked⟩ := asks.found_lane laneFound
      have move := Move.finishCall panicked lateFound (asked.hand.trans inHand)
      exact .inr ⟨_, move, asks.worked laneFound (asked.withHand _) _⟩
  | finish laneFound inHand =>
      obtain ⟨lateLane, lateFound, asked⟩ := asks.found_lane laneFound
      have move := Move.finish lateFound (asked.hand.trans inHand)
      exact .inr ⟨_, move, asks.worked laneFound (asked.withHand _) _⟩
  | closeQueue laneFound free running closing =>
      obtain ⟨lateLane, lateFound, asked⟩ := asks.found_lane laneFound
      have move := Move.closeQueue lateFound (asked.hand.trans free)
        (asked.phase.trans running) (asks.closing.trans closing)
      exact .inr ⟨_, move, asks.setLane laneFound (asked.withPhase _)⟩
  | stop laneFound free empty back draining =>
      obtain ⟨lateLane, lateFound, asked⟩ := asks.found_lane laneFound
      have lateBack : lateLane.places = [] := List.eq_nil_iff_forall_not_mem.mpr
        (fun ticket member => by simpa [back] using (asked.places ticket).mp member)
      have move := Move.stop lateFound (asked.hand.trans free) (asked.queue.trans empty)
        lateBack (asked.phase.trans draining)
      exact .inr ⟨_, move, asks.worked laneFound (asked.withPhase _) _⟩
  | addListener => exact .inr ⟨_, .addListener, asks.addListener⟩
  | removeListener id => exact .inr ⟨_, .removeListener id, asks.removeListener id⟩
  | shutdown opened =>
      exact .inr ⟨_, .shutdown (asks.closing.trans opened), asks.close.note .closing⟩

/-- A dispatcher with calls that ask late stands where a run from one dispatcher to another
stands at some moment. -/
def OnTheWay (first final late : Dispatcher) : Prop :=
  ∃ early rest state, first.run? early = some state ∧ state.run? rest = some final ∧
    state.AsksLate late

theorem OnTheWay.cons {first next final late : Dispatcher} {action : DispatchAction}
    (stepped : first.step? action = some next) (stands : OnTheWay next final late) :
    OnTheWay first final late := by
  obtain ⟨early, rest, state, before, after, asks⟩ := stands
  exact ⟨action :: early, rest, state, run?_cons.mpr ⟨next, stepped, before⟩, after, asks⟩

/-- To every run there is one with calls that ask late, of which only the actions are left
out in which calls fall asleep or are given places. -/
theorem run?_askingLate {capacity : Nat} {first final late : Dispatcher}
    {actions : List DispatchAction} (orderly : Orderly capacity first)
    (asks : first.AsksLate late) (run : first.run? actions = some final) :
    ∃ others lateFinal, others.Sublist actions ∧ late.run? others = some lateFinal ∧
      final.AsksLate lateFinal ∧
      ∀ moment ∈ late.course others, OnTheWay first final moment.1 := by
  induction actions generalizing first late with
  | nil =>
      cases run
      exact ⟨[], late, .slnil, rfl, asks, by simp [course]⟩
  | cons action rest induction =>
      have whole := run
      obtain ⟨next, stepped, run⟩ := run?_cons.mp run
      have move := Move.ofStep? stepped
      rcases move.askingLate orderly asks with stands | ⟨lateNext, lateMove, stands⟩
      · obtain ⟨others, lateFinal, fewer, lateRun, reached, moments⟩ :=
          induction (move.keepsOrderly orderly) stands run
        exact ⟨others, lateFinal, fewer.cons action, lateRun, reached,
          fun moment member => (moments moment member).cons stepped⟩
      · obtain ⟨others, lateFinal, fewer, lateRun, reached, moments⟩ :=
          induction (move.keepsOrderly orderly) stands run
        have lateStepped := lateMove.step?
        refine ⟨action :: others, lateFinal, fewer.cons_cons action,
          run?_cons.mpr ⟨lateNext, lateStepped, lateRun⟩, reached, ?_⟩
        rw [course, lateStepped, List.forall_mem_cons]
        exact ⟨⟨[], action :: rest, first, rfl, whole, asks⟩,
          fun moment member => (moments moment member).cons stepped⟩

/-- With calls that ask late nobody waits, however long places are not given. -/
theorem AsksLate.prompt {dispatcher late : Dispatcher} (asks : dispatcher.AsksLate late)
    (action : DispatchAction) : late.Prompt action := by
  intro lateLane asked _
  obtain ⟨index, found⟩ := List.getElem?_of_mem (asked?_mem asked)
  obtain ⟨lane, _, asked⟩ := asks.lane_of_late found
  exact .inl asked.waiting

theorem AsksLate.placeless {dispatcher late : Dispatcher} {ticket : Ticket}
    (asks : dispatcher.AsksLate late) (free : ¬dispatcher.Holds ticket)
    (action : DispatchAction) : late.Placeless ticket action := by
  intro lateLane asked given
  obtain ⟨index, found⟩ := List.getElem?_of_mem (asked?_mem asked)
  obtain ⟨lane, _, asked⟩ := asks.lane_of_late found
  exact free ((asked.places ticket).mp given).2

/-- A call that is given up in the end never holds a place. -/
theorem not_holds_of_abandoned {dispatcher final : Dispatcher} {ticket : Ticket}
    {actions : List DispatchAction} (run : dispatcher.run? actions = some final)
    (abandoned : final.status? ticket = some .abandoned) : ¬dispatcher.Holds ticket := by
  intro holds
  obtain ⟨call, found, holding⟩ := status?_eq_some.mp holds
  have may := run?_mayEndAbandoned found run abandoned
  rw [holding] at may
  cases may

theorem forget_holds {gone ticket : Ticket} (different : ticket ≠ gone)
    (dispatcher : Dispatcher) :
    (dispatcher.forget gone).Holds (renumber gone ticket) ↔ dispatcher.Holds ticket := by
  rw [Holds, status?, forget_calls _ different, Holds, status?]

theorem AsksLate.forget {dispatcher late : Dispatcher} (asks : dispatcher.AsksLate late)
    (gone : Ticket) : (dispatcher.forget gone).AsksLate (late.forget gone) where
  capacity := asks.capacity
  routing := asks.routing
  closing := asks.closing
  registry := asks.registry
  journal := congrArg (List.filterMap (Entry.forget? gone)) asks.journal
  calls := by
    rw [Dispatcher.forget, Dispatcher.forget, asks.calls, List.eraseIdx_map]
  lanes index := by
    rw [Dispatcher.forget, Dispatcher.forget, List.getElem?_map, List.getElem?_map]
    exact asks.lanes_map (fun lane lateLane _ asked =>
      asked.forget (fun _ different => forget_holds different dispatcher))

/-- A call that is given up might as well never have been made: a run without it does the
same, in which the others ask late. -/
theorem run?_unmade_askingLate {capacity workers : Nat} {routing : String → Nat}
    {early late : List DispatchAction} {first final : Dispatcher} {work : Work}
    (run : (start capacity workers routing).run? early = some first)
    (runLate : first.run? (.enter work :: late) = some final)
    (abandoned : final.status? first.calls.length = some .abandoned) :
    ∃ before after calm never, before.Sublist early ∧ after.Sublist late ∧
      (start capacity workers routing).run? before = some calm ∧
      (start capacity workers routing).run?
        (before ++ (calm.enter work).remaining first.calls.length after) = some never ∧
      (final.forget first.calls.length).AsksLate never := by
  obtain ⟨before, calm, fewerBefore, runBefore, asks, _⟩ := run?_askingLate
    (orderly_start capacity workers routing) (asksLate_start capacity workers routing) run
  obtain ⟨begun, stepped, runRest⟩ := run?_cons.mp runLate
  obtain rfl : first.enter work = begun := Option.some.inj stepped
  obtain ⟨after, lateFinal, fewerAfter, runAfter, reached, moments⟩ := run?_askingLate
    (orderly_of_run (run?_concat run stepped)) (asks.enter (orderly_of_run run).inLine work)
    runRest
  have same : calm.calls.length = first.calls.length := by
    rw [asks.calls, List.length_map]
  have lateAbandoned : lateFinal.status? calm.calls.length = some .abandoned := by
    obtain ⟨call, found, status⟩ := status?_eq_some.mp abandoned
    rw [same]
    exact status?_eq_some.mpr ⟨_, reached.found_call found,
      EnqueueCall.status_askingLate status nofun⟩
  have runLateRest : calm.run? (.enter work :: after) = some lateFinal :=
    run?_cons.mpr ⟨_, rfl, runAfter⟩
  have unmade := run?_unmade runBefore runLateRest lateAbandoned (fun moment member => ?_)
  · rw [same] at unmade
    exact ⟨before, after, calm, _, fewerBefore, fewerAfter, runBefore,
      run?_append.mpr ⟨calm, runBefore, unmade⟩, reached.forget _⟩
  · obtain ⟨_, _, state, _, runState, stands⟩ := moments moment member
    have free := not_holds_of_abandoned runState abandoned
    exact ⟨stands.prompt moment.2, same ▸ stands.placeless free moment.2⟩

end Dispatcher

end ReviewFeed
