import Mathlib.Algebra.GroupWithZero.Nat
import Mathlib.Algebra.Order.BigOperators.Group.Finset
import ReviewFeed.Dispatch.Rehearsal
import ReviewFeed.Proofs.Dispatch.Places
import ReviewFeed.Proofs.Dispatch.Readers

/-!
# What is left to do

Everything that a feed has still to do costs a number of moves: a line that nobody has
read, a call on its way to its queue, a unit in a queue or in the hands of a worker, and
a queue that is not closed.  Every move of readers, calls and workers lowers the sum, if
calls look only when there is something new to see.
-/

namespace ReviewFeed

/-- Whether an action is a move of a call or a worker, and no listener panics in it. -/
def DispatchAction.isQuiet : DispatchAction → Bool
  | .look _ | .send _ | .deliver _ | .advance _ | .take _ | .notice _ | .call _ | .finish _
  | .closeQueue _ | .stop _ => true
  | .finishCall _ panicked => !panicked
  | .enter _ | .abandon _ | .addListener | .removeListener _ | .shutdown => false

/-- Whether an action is a move of a reader, a call or a worker, and no listener panics
in it. -/
def FeedAction.isQuiet : FeedAction → Bool
  | .dispatch action => action.isQuiet
  | .openStream _ | .readNext _ _ | .giveUp _ | .resume _ => true
  | .addReader _ _ _ | .cancel _ => false

/-- What a call costs, with the cost of its unit in the queue and whether it has been
given a place. -/
def CallStatus.cost (unit : Nat) (placed : Bool) : CallStatus → Nat
  | .entered => unit + 6
  | .offering => if placed then unit + 2 else unit + 5
  | .waiting => unit + 3
  | .holding => unit + 1
  | .accepted | .refused | .abandoned => 0

/-- What the unit in a worker's hands costs; each listener costs two moves. -/
def Hand.cost (unit : Nat) : Hand → Nat
  | .empty => 0
  | .taken _ => unit - 1
  | .notifying _ _ next inCall => 2 * next.length + inCall.toList.length + 1

def Phase.cost : Phase → Nat
  | .running => 2
  | .draining => 1
  | .stopped => 0

def Lane.cost (unit : Nat) (lane : Lane) : Nat :=
  lane.waiting.length + lane.queue.length * unit + lane.hand.cost unit + lane.phase.cost

section Sums

/-- A sum of which one summand changes and the others do not grow. -/
theorem sum_range_change {f g : Nat → Nat} {count index : Nat} (inside : index < count)
    (others : ∀ other < count, other ≠ index → g other ≤ f other) :
    (∑ other ∈ Finset.range count, g other) + f index ≤
      (∑ other ∈ Finset.range count, f other) + g index := by
  have member := Finset.mem_range.mpr inside
  rw [← Finset.add_sum_erase _ g member, ← Finset.add_sum_erase _ f member]
  have rest : ∑ other ∈ (Finset.range count).erase index, g other ≤
      ∑ other ∈ (Finset.range count).erase index, f other := by
    refine Finset.sum_le_sum fun other among => ?_
    exact others other (Finset.mem_range.mp (Finset.mem_of_mem_erase among))
      (Finset.ne_of_mem_erase among)
  omega

theorem sum_map_set {α : Type} (cost : α → Nat) {items : List α} {index : Nat} {old : α}
    (found : items[index]? = some old) (new : α) :
    ((items.set index new).map cost).sum + cost old = (items.map cost).sum + cost new := by
  induction items generalizing index with
  | nil => cases found
  | cons item items ih =>
      cases index with
      | zero =>
          obtain rfl : item = old := Option.some.inj found
          simp only [List.set_cons_zero, List.map_cons, List.sum_cons]
          omega
      | succ index =>
          have rest := ih found
          simp only [List.set_cons_succ, List.map_cons, List.sum_cons]
          omega

theorem sum_map_modify_le {α : Type} {cost : α → Nat} {change : α → α}
    (less : ∀ item, cost (change item) ≤ cost item) (items : List α) (index : Nat) :
    ((items.modify index change).map cost).sum ≤ (items.map cost).sum := by
  induction items generalizing index with
  | nil => simp
  | cons item items ih =>
      cases index with
      | zero => simp [less item]
      | succ index => simpa using ih index

end Sums

namespace Dispatcher

/-- What a unit costs in the queue. -/
def unitCost (dispatcher : Dispatcher) : Nat :=
  2 * dispatcher.registry.ids.length + 3

/-- Whether a call has been given a place on its lane. -/
def isPlaced (dispatcher : Dispatcher) (ticket : Ticket) (index : Nat) : Bool :=
  (dispatcher.lanes[index]?).any (fun lane => lane.places.contains ticket)

theorem isPlaced_iff {dispatcher : Dispatcher} {ticket : Ticket} {index : Nat} :
    dispatcher.isPlaced ticket index = true ↔
      StandsIn Lane.places dispatcher.lanes index ticket := by
  simp [isPlaced, StandsIn, Option.any_eq_true]

theorem not_isPlaced {dispatcher : Dispatcher} {ticket : Ticket} {index : Nat} {lane : Lane}
    (found : dispatcher.lanes[index]? = some lane) (absent : ticket ∉ lane.places) :
    dispatcher.isPlaced ticket index = false := by
  simpa [isPlaced, found] using absent

def callCost (unit : Nat) (dispatcher : Dispatcher) (ticket : Ticket) : Nat :=
  match dispatcher.calls[ticket]? with
  | some call => call.status.cost unit (dispatcher.isPlaced ticket call.lane)
  | none => 0

def callsCost (unit : Nat) (dispatcher : Dispatcher) : Nat :=
  ∑ ticket ∈ Finset.range dispatcher.calls.length, dispatcher.callCost unit ticket

def lanesCost (unit : Nat) (dispatcher : Dispatcher) : Nat :=
  (dispatcher.lanes.map (Lane.cost unit)).sum

def cost (unit : Nat) (dispatcher : Dispatcher) : Nat :=
  dispatcher.callsCost unit + dispatcher.lanesCost unit

/-- A call that looks has something new to see: it has just begun, or it was woken. -/
def Awake (dispatcher : Dispatcher) : DispatchAction → Prop
  | .look ticket => ∃ call, dispatcher.calls[ticket]? = some call ∧
      (call.status = .entered ∨
        call.status = .waiting ∧ Rehearsal.isWoken dispatcher ticket call = true)
  | _ => True

end Dispatcher

theorem CallStatus.cost_placed_le (unit : Nat) (status : CallStatus) :
    status.cost unit true ≤ status.cost unit false := by
  cases status with
  | offering => simp [cost]
  | entered | waiting | holding | accepted | refused | abandoned => exact Nat.le_refl _

theorem Lane.cost_without_le (unit : Nat) (ticket : Ticket) (lane : Lane) :
    (lane.without ticket).cost unit ≤ lane.cost unit := by
  have fewer := List.length_filter_le (fun other => other != ticket) lane.waiting
  simp only [cost, without]
  omega

namespace Dispatcher

variable {before after : Dispatcher} {unit : Nat}

section Parts

/-- A call costs no more where it has kept its status and not lost its place. -/
theorem callCost_le {ticket : Ticket} (same : after.calls[ticket]? = before.calls[ticket]?)
    (kept : ∀ index, StandsIn Lane.places before.lanes index ticket →
      StandsIn Lane.places after.lanes index ticket) :
    after.callCost unit ticket ≤ before.callCost unit ticket := by
  rw [callCost, callCost, same]
  cases before.calls[ticket]? with
  | none => exact Nat.le_refl _
  | some call =>
      dsimp only
      cases placed : before.isPlaced ticket call.lane with
      | true =>
          have still := isPlaced_iff.mpr (kept call.lane (isPlaced_iff.mp placed))
          rw [still]
      | false =>
          cases after.isPlaced ticket call.lane with
          | true => exact call.status.cost_placed_le unit
          | false => exact Nat.le_refl _

theorem callsCost_le (unit : Nat) (calls : after.calls = before.calls)
    (kept : ∀ index ticket, StandsIn Lane.places before.lanes index ticket →
      StandsIn Lane.places after.lanes index ticket) :
    after.callsCost unit ≤ before.callsCost unit := by
  rw [callsCost, callsCost, calls]
  exact Finset.sum_le_sum fun ticket _ => callCost_le (by rw [calls]) (kept · ticket)

/-- One call changes its status, and no other one loses its place. -/
theorem callsCost_setStatus (unit : Nat) {ticket : Ticket} {call : EnqueueCall}
    {status : CallStatus} (found : before.calls[ticket]? = some call)
    (calls : after.calls = (before.setStatus ticket status).calls)
    (kept : ∀ index other, other ≠ ticket → StandsIn Lane.places before.lanes index other →
      StandsIn Lane.places after.lanes index other) :
    after.callsCost unit + call.status.cost unit (before.isPlaced ticket call.lane) ≤
      before.callsCost unit + status.cost unit (after.isPlaced ticket call.lane) := by
  have inside := (List.getElem?_eq_some_iff.mp found).1
  have length : after.calls.length = before.calls.length := by
    rw [calls, setStatus, List.length_modify]
  have others : ∀ other < before.calls.length, other ≠ ticket →
      after.callCost unit other ≤ before.callCost unit other := by
    intro other _ different
    refine callCost_le ?_ (kept · other different)
    rw [calls, setStatus_getElem?]
    simp [Ne.symm different]
  have changed := sum_range_change inside others
  have old : before.callCost unit ticket =
      call.status.cost unit (before.isPlaced ticket call.lane) := by
    rw [callCost, found]
  have new : after.callCost unit ticket =
      status.cost unit (after.isPlaced ticket call.lane) := by
    rw [callCost, calls, setStatus_getElem?, found]
    simp
  rw [callsCost, callsCost, length]
  omega

theorem lanesCost_set (unit : Nat) (after : Dispatcher) {index : Nat} {old new : Lane}
    (found : before.lanes[index]? = some old) (lanes : after.lanes = before.lanes.set index new) :
    after.lanesCost unit + old.cost unit = before.lanesCost unit + new.cost unit := by
  rw [lanesCost, lanesCost, lanes]
  exact sum_map_set (Lane.cost unit) found new

theorem lanesCost_withdraw {ticket : Ticket} {touched : Nat}
    (lanes : after.lanes = before.lanes.modify touched (Lane.without ticket)) :
    after.lanesCost unit ≤ before.lanesCost unit := by
  rw [lanesCost, lanesCost, lanes]
  exact sum_map_modify_le (Lane.cost_without_le unit ticket) _ _

end Parts

/-- A call takes a step on its way, by which its lane may grow less than the call
becomes cheaper. -/
theorem cost_setStatus_lt {ticket : Ticket} {call : EnqueueCall} {status : CallStatus}
    (spent grown : Nat) (found : before.calls[ticket]? = some call)
    (calls : after.calls = (before.setStatus ticket status).calls)
    (kept : ∀ index other, other ≠ ticket → StandsIn Lane.places before.lanes index other →
      StandsIn Lane.places after.lanes index other)
    (lanes : after.lanesCost unit + spent ≤ before.lanesCost unit + grown)
    (less : status.cost unit (after.isPlaced ticket call.lane) + grown <
      call.status.cost unit (before.isPlaced ticket call.lane) + spent) :
    after.cost unit < before.cost unit := by
  have change := callsCost_setStatus unit found calls kept
  simp only [cost]
  omega

theorem cost_withdraw_lt {ticket : Ticket} {call : EnqueueCall}
    (found : before.calls[ticket]? = some call) (pending : call.status.isPending = true) :
    ((before.withdraw ticket call).refusal ticket).cost unit < before.cost unit := by
  have positive : 0 < call.status.cost unit (before.isPlaced ticket call.lane) := by
    cases status : call.status with
    | entered | waiting => exact Nat.succ_pos _
    | offering =>
        rw [CallStatus.cost]
        split <;> exact Nat.succ_pos _
    | holding | accepted | refused | abandoned => simp [status, CallStatus.isPending] at pending
  have calls : ((before.withdraw ticket call).refusal ticket).calls =
      (before.setStatus ticket .refused).calls := rfl
  exact cost_setStatus_lt 0 0 found calls
    (fun index other different stands =>
      (standsIn_without (fun _ => Lane.mem_places_without)).mpr ⟨stands, fun _ => different⟩)
    (lanesCost_withdraw rfl) positive

/-- A move of a worker lowers the cost of its lane, and gives nobody's place away. -/
theorem cost_set_lt {index : Nat} {old new : Lane} (found : before.lanes[index]? = some old)
    (lanes : after.lanes = before.lanes.set index new) (calls : after.calls = before.calls)
    (places : old.places ⊆ new.places) (less : new.cost unit < old.cost unit) :
    after.cost unit < before.cost unit := by
  have sameCalls := callsCost_le unit calls (fun place ticket stands => by
    rw [lanes]
    exact stands.set found (fun member => places member))
  have change := lanesCost_set unit after found lanes
  simp only [cost]
  omega

theorem Move.cost_lt {action : DispatchAction} (move : Move before action after)
    (quiet : action.isQuiet = true) (awake : before.Awake action)
    (enough : before.unitCost ≤ unit) : after.cost unit < before.cost unit := by
  cases move with
  | enter | abandon | addListener | removeListener | shutdown => cases quiet
  | lookClosed found pending => exact cost_withdraw_lt found pending
  | sendClosed found _ offering => exact cost_withdraw_lt found (by rw [offering]; rfl)
  | @lookOpen ticket call found _ opened =>
      refine cost_setStatus_lt 0 0 found rfl (fun _ _ _ stands => stands)
        (Nat.le_refl _) ?_
      obtain ⟨same, sameFound, news⟩ := awake
      obtain rfl := Option.some.inj (found.symm.trans sameFound)
      change CallStatus.cost unit (before.isPlaced ticket call.lane) .offering + 0 < _
      rcases news with entered | ⟨waiting, woken⟩
      · rw [entered, CallStatus.cost, CallStatus.cost]
        split <;> omega
      · have placed : before.isPlaced ticket call.lane = true := by
          rwa [Rehearsal.isWoken, opened, Bool.false_or] at woken
        simp only [waiting, placed, CallStatus.cost, if_true]
        omega
  | @sendGiven ticket call lane found laneFound offering _ given =>
      have placed : before.isPlaced ticket call.lane = true :=
        isPlaced_iff.mpr ⟨lane, laneFound, given⟩
      refine cost_setStatus_lt 0 0 found rfl (fun _ _ _ stands => stands)
        (Nat.le_refl _) ?_
      simp only [offering, placed, CallStatus.cost, if_true]
      omega
  | @sendAsleep ticket call lane found laneFound offering _ notGiven =>
      have notPlaced := not_isPlaced laneFound notGiven
      refine cost_setStatus_lt 0 0 found rfl (fun _ _ _ stands => stands)
        (Nat.le_refl _) ?_
      simp only [offering, notPlaced, CallStatus.cost, Bool.false_eq_true, if_false]
      omega
  | @sendPlaced ticket call lane found laneFound offering _ notGiven =>
      have notPlaced := not_isPlaced laneFound notGiven
      have lanes := lanesCost_set unit
        ((before.setLane call.lane
          { lane with places := lane.places ++ [ticket] }).setStatus ticket .holding)
        laneFound rfl
      refine cost_setStatus_lt 0 0 found rfl
        (fun _ _ _ stands => stands.set laneFound (List.mem_append_left _))
        (Nat.le_of_add_le_add_right lanes.le) ?_
      simp only [offering, notPlaced, CallStatus.cost, Bool.false_eq_true, if_false]
      omega
  | @sendQueued ticket call lane found laneFound offering _ notGiven =>
      have notPlaced := not_isPlaced laneFound notGiven
      have lanes := lanesCost_set unit
        ((before.setLane call.lane
          { lane with waiting := lane.waiting ++ [ticket] }).setStatus ticket .waiting)
        laneFound rfl
      refine cost_setStatus_lt 0 1 found rfl
        (fun _ _ _ stands => stands.set laneFound (fun member => member)) ?_ ?_
      · simp only [Lane.cost, List.length_append, List.length_singleton] at lanes
        omega
      · simp only [offering, notPlaced, CallStatus.cost, Bool.false_eq_true, if_false]
        omega
  | @deliver ticket call lane found laneFound holding =>
      have lanes := lanesCost_set unit
        (before.accept ticket call.lane lane) laneFound rfl
      have fewer := Lane.cost_without_le unit ticket lane
      refine cost_setStatus_lt 0 unit found rfl
        (fun _ other different stands => stands.set laneFound (fun member =>
          Lane.mem_places_without.mpr ⟨member, different⟩)) ?_ ?_
      · simp only [Lane.cost, Lane.without, List.length_append, List.length_singleton,
          Nat.add_mul, Nat.one_mul] at lanes fewer
        omega
      · simp only [holding, CallStatus.cost]
        omega
  | @advance index lane ticket waiting laneFound line =>
      refine cost_set_lt laneFound rfl rfl (List.subset_append_left _ _) ?_
      simp only [Lane.cost, line, List.length_cons]
      omega
  | @take index lane ticket queue laneFound free first =>
      refine cost_set_lt laneFound rfl rfl (List.Subset.refl _) ?_
      simp only [Lane.cost, first, free, Hand.cost, List.length_cons, unitCost,
        Nat.succ_mul] at enough ⊢
      omega
  | skip laneFound inHand =>
      refine cost_set_lt laneFound rfl rfl (List.Subset.refl _) ?_
      simp only [Lane.cost, inHand, Hand.cost, unitCost] at enough ⊢
      omega
  | notice laneFound inHand =>
      refine cost_set_lt laneFound rfl rfl (List.Subset.refl _) ?_
      simp only [Lane.cost, inHand, Hand.cost, unitCost, Option.toList_none,
        List.length_nil] at enough ⊢
      omega
  | call laneFound inHand | finishCall _ laneFound inHand | finish laneFound inHand =>
      refine cost_set_lt laneFound rfl rfl (List.Subset.refl _) ?_
      simp only [Lane.cost, inHand, Hand.cost, Option.toList_none, Option.toList_some,
        List.length_nil, List.length_cons]
      omega
  | closeQueue laneFound _ running =>
      refine cost_set_lt laneFound rfl rfl (List.Subset.refl _) ?_
      simp only [Lane.cost, running, Phase.cost]
      omega
  | stop laneFound _ _ _ draining =>
      refine cost_set_lt laneFound rfl rfl (List.Subset.refl _) ?_
      simp only [Lane.cost, draining, Phase.cost]
      omega

/-- A new call costs its whole way. -/
theorem cost_enter_le (unit : Nat) (dispatcher : Dispatcher) (work : Work) :
    (dispatcher.enter work).cost unit ≤ dispatcher.cost unit + unit + 6 := by
  have lanes : (dispatcher.enter work).lanesCost unit = dispatcher.lanesCost unit := by
    rw [lanesCost, lanesCost, enter_lanes]
  have old : ∀ ticket ∈ Finset.range dispatcher.calls.length,
      (dispatcher.enter work).callCost unit ticket ≤ dispatcher.callCost unit ticket := by
    intro ticket inside
    refine callCost_le ?_ (fun index stands => by rwa [enter_lanes])
    rw [enter_calls, List.getElem?_append_left (Finset.mem_range.mp inside)]
  have new : (dispatcher.enter work).callCost unit dispatcher.calls.length ≤ unit + 6 := by
    rw [callCost, enter_getElem?]
    cases dispatcher.closing <;> simp [CallStatus.cost]
  have sum := Finset.sum_le_sum old
  have length : (dispatcher.enter work).calls.length = dispatcher.calls.length + 1 := by
    rw [enter_calls, List.length_append, List.length_singleton]
  simp only [cost, lanes, callsCost, length, Finset.sum_range_succ]
  omega

end Dispatcher

/-- What a reader costs: a line costs its own read and the whole way of its call. -/
def Reader.cost (unit : Nat) (reader : Reader) : Nat :=
  match reader.phase with
  | .unopened => reader.available.length * (unit + 8) + 2
  | .between | .reading => reader.session.length * (unit + 8) + 1
  | .enqueuing _ => reader.session.length * (unit + 8) + 2
  | .ended _ => 0

theorem Reader.Move.cost_lt {dispatcher : Dispatcher} {index : Nat} {before after : Reader}
    {action : FeedAction} (unit : Nat) (move : before.Move dispatcher index action after)
    (quiet : action.isQuiet = true) : after.cost unit < before.cost unit := by
  cases move with
  | openFailed unopened => simp [cost, unopened]
  | opened unopened works => simp [cost, unopened, available, works]
  | stopped _ between | exhausted _ between | sourceEnded _ between | sourceFailed _ between =>
      simp [cost, close, between]
  | skipped _ between _ next | paused _ between _ next =>
      simp only [cost, between, next, List.length_cons, Nat.succ_mul]
      omega
  | gaveUp reading => simp [cost, close, reading]
  | resumed enqueuing => simp [cost, enqueuing]
  | turnedAway enqueuing => simp [cost, close, enqueuing]
  | cancelled => cases quiet

namespace Feed

def cost (unit : Nat) (feed : Feed) : Nat :=
  feed.dispatcher.cost unit + (feed.readers.map (Reader.cost unit)).sum

/-- A call that looks has something new to see. -/
def Awake (feed : Feed) : FeedAction → Prop
  | .dispatch action => feed.dispatcher.Awake action
  | _ => True

/-- Every move of a reader, a call or a worker lowers the cost. -/
theorem Move.cost_lt {before after : Feed} {action : FeedAction} {unit : Nat}
    (move : Move before action after) (quiet : action.isQuiet = true)
    (awake : before.Awake action) (enough : before.dispatcher.unitCost ≤ unit) :
    after.cost unit < before.cost unit := by
  cases move with
  | dispatch move => exact Nat.add_lt_add_right (move.cost_lt quiet awake enough) _
  | addReader => cases quiet
  | @reader index old new action found move =>
      have less := move.cost_lt unit quiet
      have change := sum_map_set (Reader.cost unit) found new
      simp only [cost, setReader]
      omega
  | @enqueue index reader now read session line found between _ next =>
      have call := before.dispatcher.cost_enter_le unit
        (.ofLine (Text.trim line) reader.provider now)
      let waiting : Reader :=
        { reader with
          acts := reader.acts ++ [.read] ++
            [.enqueued (Text.trim line) before.dispatcher.calls.length]
          session, cancelled := read.cancels
          phase := .enqueuing before.dispatcher.calls.length }
      have change := sum_map_set (Reader.cost unit) found waiting
      have old : reader.cost unit = session.length * (unit + 8) + (unit + 8) + 1 := by
        simp only [Reader.cost, between, next, List.length_cons, Nat.succ_mul]
      have new : waiting.cost unit = session.length * (unit + 8) + 2 := rfl
      rw [old, new] at change
      change (before.dispatcher.enter (.ofLine (Text.trim line) reader.provider now)).cost unit +
          ((before.readers.set index waiting).map (Reader.cost unit)).sum <
        before.dispatcher.cost unit + (before.readers.map (Reader.cost unit)).sum
      omega

end Feed

end ReviewFeed
