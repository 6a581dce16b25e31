import ReviewFeed.Proofs.Dispatch.Conservation

/-!
# Places in a queue

A queue has as many places as the dispatcher's capacity says.  A place is taken from
the moment at which it is given to a call until a worker takes the unit out of the
queue, and it is free again if the call does not come to its end.  So the units in a
queue and the places that wait to be filled are never more than the capacity, and
whoever waits or has a place is a call that is not over, and stands there once.
-/

namespace ReviewFeed

/-- The places of a queue that are taken: by the units in it, and by the calls that
have been given one and have not filled it yet. -/
def Lane.taken (lane : Lane) : Nat :=
  lane.queue.length + lane.places.length

/-- The calls that wait for a place of a lane or have one. -/
def Lane.line (lane : Lane) : List Ticket :=
  lane.places ++ lane.waiting

theorem filter_ne_eq_self {ticket : Ticket} {tickets : List Ticket}
    (absent : ticket ∉ tickets) : tickets.filter (fun other => other != ticket) = tickets := by
  rw [List.filter_eq_self]
  intro other member
  exact bne_iff_ne.mpr (fun same => absent (same ▸ member))

theorem Lane.without_eq_self {ticket : Ticket} {lane : Lane} (absent : ticket ∉ lane.line) :
    lane.without ticket = lane := by
  simp only [line, List.mem_append, not_or] at absent
  rw [without, filter_ne_eq_self absent.1, filter_ne_eq_self absent.2]

theorem Lane.taken_without_le (ticket : Ticket) (lane : Lane) :
    (lane.without ticket).taken ≤ lane.taken :=
  Nat.add_le_add_left (List.length_filter_le _ _) _

theorem Lane.mem_places_without {ticket other : Ticket} {lane : Lane} :
    other ∈ (lane.without ticket).places ↔ other ∈ lane.places ∧ other ≠ ticket := by
  simp only [without, List.mem_filter, bne_iff_ne]

theorem Lane.mem_line_without {ticket other : Ticket} {lane : Lane} :
    other ∈ (lane.without ticket).line ↔ other ∈ lane.line ∧ other ≠ ticket := by
  simp only [line, without, List.mem_append, List.mem_filter, bne_iff_ne]
  exact or_and_right.symm

theorem Lane.line_without_sublist (ticket : Ticket) (lane : Lane) :
    (lane.without ticket).line.Sublist lane.line :=
  List.filter_sublist.append List.filter_sublist

theorem Lane.mem_line_placed {ticket other : Ticket} {lane : Lane} :
    other ∈ Lane.line { lane with places := lane.places ++ [ticket] } ↔
      other ∈ lane.line ∨ other = ticket := by
  simp only [line, List.mem_append, List.mem_singleton]
  exact or_right_comm

theorem Lane.mem_line_queued {ticket other : Ticket} {lane : Lane} :
    other ∈ Lane.line { lane with waiting := lane.waiting ++ [ticket] } ↔
      other ∈ lane.line ∨ other = ticket := by
  simp only [line, List.mem_append, List.mem_singleton]
  exact or_assoc.symm

section Lanes

variable {Property : Lane → Prop} {lanes : List Lane} {index : Nat}

private theorem forall_set {old new : Lane} (all : ∀ lane ∈ lanes, Property lane)
    (found : lanes[index]? = some old) (kept : Property old → Property new) :
    ∀ lane ∈ lanes.set index new, Property lane := by
  intro lane member
  rcases List.mem_or_eq_of_mem_set member with before | rfl
  · exact all lane before
  · exact kept (all old (List.mem_of_getElem? found))

private theorem forall_without {ticket : Ticket} (all : ∀ lane ∈ lanes, Property lane)
    (kept : ∀ lane, Property lane → Property (lane.without ticket)) :
    ∀ lane ∈ lanes.modify index (Lane.without ticket), Property lane := by
  intro lane member
  obtain ⟨place, found⟩ := List.getElem?_of_mem member
  rw [List.getElem?_modify] at found
  obtain ⟨old, oldFound, changed⟩ := Option.map_eq_some_iff.mp found
  have before := all old (List.mem_of_getElem? oldFound)
  split at changed
  · exact changed ▸ kept old before
  · exact changed ▸ before

end Lanes

/-- A call stands in some part of a lane. -/
def StandsIn (part : Lane → List Ticket) (lanes : List Lane) (index : Nat)
    (ticket : Ticket) : Prop :=
  ∃ lane, lanes[index]? = some lane ∧ ticket ∈ part lane

/-- A call that waits stands in the line of its lane, and one that holds a place has
been given it. -/
structure Placed (lanes : List Lane) (status : CallStatus) (index : Nat)
    (ticket : Ticket) : Prop where
  waiting : status = .waiting → StandsIn Lane.line lanes index ticket
  holding : status = .holding → StandsIn Lane.places lanes index ticket

section Standing

variable {part : Lane → List Ticket} {lanes : List Lane} {index place touched : Nat}
  {ticket other : Ticket} {status : CallStatus} {old new : Lane}

theorem StandsIn.set (found : lanes[place]? = some old)
    (kept : other ∈ part old → other ∈ part new) (stands : StandsIn part lanes index other) :
    StandsIn part (lanes.set place new) index other := by
  obtain ⟨lane, laneFound, member⟩ := stands
  have inside := (List.getElem?_eq_some_iff.mp found).1
  rw [StandsIn, List.getElem?_set]
  by_cases same : place = index
  · subst same
    obtain rfl := Option.some.inj (found.symm.trans laneFound)
    exact ⟨new, by simp [inside], kept member⟩
  · exact ⟨lane, by simpa [same] using laneFound, member⟩

theorem standsIn_set_self (found : lanes[place]? = some old) (member : other ∈ part new) :
    StandsIn part (lanes.set place new) place other :=
  ⟨new, List.getElem?_set_self (List.getElem?_eq_some_iff.mp found).1, member⟩

theorem StandsIn.of_set (found : lanes[place]? = some old)
    (stands : StandsIn part (lanes.set place new) index other) :
    place = index ∧ other ∈ part new ∨ place ≠ index ∧ StandsIn part lanes index other := by
  obtain ⟨lane, laneFound, member⟩ := stands
  have inside := (List.getElem?_eq_some_iff.mp found).1
  rw [List.getElem?_set] at laneFound
  by_cases same : place = index
  · simp only [same, if_true, same ▸ inside, Option.some.injEq] at laneFound
    exact .inl ⟨same, laneFound ▸ member⟩
  · simp only [same, if_false] at laneFound
    exact .inr ⟨same, lane, laneFound, member⟩

theorem standsIn_without
    (rest : ∀ lane, other ∈ part (lane.without ticket) ↔ other ∈ part lane ∧ other ≠ ticket) :
    StandsIn part (lanes.modify touched (Lane.without ticket)) index other ↔
      StandsIn part lanes index other ∧ (touched = index → other ≠ ticket) := by
  simp only [StandsIn, List.getElem?_modify, Option.map_eq_map, Option.map_eq_some_iff]
  by_cases same : touched = index
  · simp only [same, if_true]
    constructor
    · rintro ⟨lane, ⟨old, found, rfl⟩, member⟩
      obtain ⟨inOld, different⟩ := (rest old).mp member
      exact ⟨⟨old, found, inOld⟩, fun _ => different⟩
    · rintro ⟨⟨old, found, member⟩, different⟩
      exact ⟨_, ⟨old, found, rfl⟩, (rest old).mpr ⟨member, different trivial⟩⟩
  · simp [same]

theorem Placed.set (placed : Placed lanes status index other)
    (found : lanes[place]? = some old) (line : other ∈ old.line → other ∈ new.line)
    (places : other ∈ old.places → other ∈ new.places) :
    Placed (lanes.set place new) status index other :=
  ⟨fun waits => (placed.waiting waits).set found line,
    fun holds => (placed.holding holds).set found places⟩

theorem Placed.without (placed : Placed lanes status index other)
    (different : other ≠ ticket) :
    Placed (lanes.modify touched (Lane.without ticket)) status index other where
  waiting waits := (standsIn_without (fun _ => Lane.mem_line_without)).mpr
    ⟨placed.waiting waits, fun _ => different⟩
  holding holds := (standsIn_without (fun _ => Lane.mem_places_without)).mpr
    ⟨placed.holding holds, fun _ => different⟩

end Standing

namespace Dispatcher

theorem hasRoom_iff {dispatcher : Dispatcher} {lane : Lane} :
    dispatcher.hasRoom lane = true ↔ lane.taken < dispatcher.capacity :=
  decide_eq_true_iff

theorem enter_capacity (dispatcher : Dispatcher) (work : Work) :
    (dispatcher.enter work).capacity = dispatcher.capacity := by
  unfold enter
  split <;> rfl

theorem enter_closing (dispatcher : Dispatcher) (work : Work) :
    (dispatcher.enter work).closing = dispatcher.closing := by
  unfold enter
  split <;> rfl

theorem Move.keepsCapacity {before after : Dispatcher} {action : DispatchAction}
    (move : Move before action after) : after.capacity = before.capacity := by
  cases move with
  | enter work => exact enter_capacity before work
  | _ => rfl

theorem Move.keepsClosing {before after : Dispatcher} {action : DispatchAction}
    (move : Move before action after) (opened : after.closing = false) :
    before.closing = false := by
  cases move with
  | enter work => rwa [enter_closing] at opened
  | shutdown => cases opened
  | _ => exact opened

/-- No queue has more places taken than it has. -/
def Bounded (dispatcher : Dispatcher) : Prop :=
  ∀ lane ∈ dispatcher.lanes, lane.taken ≤ dispatcher.capacity

theorem bounded_start (capacity workers : Nat) (routing : String → Nat) :
    Bounded (start capacity workers routing) := by
  intro lane member
  rw [List.eq_of_mem_replicate member]
  exact Nat.zero_le _

theorem Move.keepsBounded {before after : Dispatcher} {action : DispatchAction}
    (bounded : Bounded before) (move : Move before action after) : Bounded after := by
  rw [Bounded, move.keepsCapacity]
  cases move with
  | enter work =>
      rw [enter_lanes]
      exact bounded
  | lookClosed | sendClosed | abandon =>
      exact forall_without bounded
        (fun lane less => Nat.le_trans (lane.taken_without_le _) less)
  | lookOpen | sendGiven | sendAsleep | addListener | removeListener | shutdown =>
      exact bounded
  | sendPlaced _ laneFound _ _ _ _ _ room | advance laneFound _ _ room =>
      refine forall_set bounded laneFound (fun _ => ?_)
      have free := hasRoom_iff.mp room
      simp only [Lane.taken, List.length_append, List.length_singleton] at free ⊢
      omega
  | @deliver ticket call old _ laneFound _ placed =>
      -- The unit goes into the place that was kept for it.
      have shorter : (old.places.filter (fun other => other != ticket)).length <
          old.places.length :=
        List.length_filter_lt_length_iff_exists.mpr ⟨ticket, placed, by simp⟩
      refine forall_set bounded laneFound (fun less => ?_)
      simp only [Lane.taken, Lane.without, List.length_append, List.length_singleton] at less ⊢
      omega
  | take laneFound _ first =>
      refine forall_set bounded laneFound (fun less => ?_)
      simp only [Lane.taken, first, List.length_cons] at less ⊢
      omega
  | sendQueued _ laneFound | skip laneFound | notice laneFound | call laneFound
  | finishCall _ laneFound | finish laneFound | closeQueue laneFound | stop laneFound =>
      exact forall_set bounded laneFound (fun less => less)

/-- Every queue of an open dispatcher is open. -/
def Running (dispatcher : Dispatcher) : Prop :=
  dispatcher.closing = false → ∀ lane ∈ dispatcher.lanes, lane.phase = .running

theorem running_start (capacity workers : Nat) (routing : String → Nat) :
    Running (start capacity workers routing) := by
  intro _ lane member
  rw [List.eq_of_mem_replicate member]
  rfl

theorem Move.keepsRunning {before after : Dispatcher} {action : DispatchAction}
    (running : Running before) (move : Move before action after) : Running after := by
  intro stillOpen
  have opened := move.keepsClosing stillOpen
  have running := running opened
  cases move with
  | enter work =>
      rw [enter_lanes]
      exact running
  | lookClosed | sendClosed | abandon =>
      exact forall_without running (fun _ same => same)
  | lookOpen | sendGiven | sendAsleep | addListener | removeListener | shutdown =>
      exact running
  | sendPlaced _ laneFound | sendQueued _ laneFound | deliver _ laneFound
  | advance laneFound | take laneFound | skip laneFound | notice laneFound | call laneFound
  | finishCall _ laneFound | finish laneFound =>
      exact forall_set running laneFound (fun same => same)
  | closeQueue _ _ _ closing =>
      rw [opened] at closing
      cases closing
  | stop laneFound _ _ _ draining =>
      rw [running _ (List.mem_of_getElem? laneFound)] at draining
      cases draining

/-- A call of a lane that is not over. -/
def Alive (dispatcher : Dispatcher) (index : Nat) (ticket : Ticket) : Prop :=
  ∃ call, dispatcher.calls[ticket]? = some call ∧ call.lane = index ∧
    call.status.isFinal = false

theorem Alive.setStatus {dispatcher : Dispatcher} {index : Nat} {ticket other : Ticket}
    {status : CallStatus} (alive : dispatcher.Alive index other)
    (keeps : ticket = other → status.isFinal = false) :
    (dispatcher.setStatus ticket status).Alive index other := by
  obtain ⟨call, found, lane, notOver⟩ := alive
  rw [Alive, setStatus_getElem?, found]
  by_cases same : ticket = other
  · exact ⟨_, rfl, by simp [same, lane], by simp [same, keeps same]⟩
  · exact ⟨_, rfl, by simp [same, lane], by simp [same, notOver]⟩

/-- Who stands in the line of a lane, and who must. -/
structure InLine (dispatcher : Dispatcher) : Prop where
  /-- Only calls of the lane that are not over stand in its line. -/
  alive : ∀ (index : Nat) (ticket : Ticket), StandsIn Lane.line dispatcher.lanes index ticket →
    dispatcher.Alive index ticket
  placed : ∀ (ticket : Ticket) (call : EnqueueCall), dispatcher.calls[ticket]? = some call →
    Placed dispatcher.lanes call.status call.lane ticket

theorem inLine_start (capacity workers : Nat) (routing : String → Nat) :
    InLine (start capacity workers routing) where
  alive := by
    rintro index ticket ⟨lane, found, member⟩
    rw [List.eq_of_mem_replicate (List.mem_of_getElem? found)] at member
    cases member
  placed := by simp [start]

/-- Whoever stands in a line after a call has left its lane is another call. -/
theorem InLine.alive_elsewhere {dispatcher : Dispatcher} (inLine : InLine dispatcher)
    {ticket other : Ticket} {call : EnqueueCall} {index : Nat} {status : CallStatus}
    (mine : dispatcher.calls[ticket]? = some call)
    (stands : StandsIn Lane.line dispatcher.lanes index other)
    (different : call.lane = index → other ≠ ticket) :
    (dispatcher.setStatus ticket status).Alive index other := by
  have alive := inLine.alive index other stands
  refine alive.setStatus ?_
  rintro rfl
  obtain ⟨otherCall, found, lane, _⟩ := alive
  obtain rfl := Option.some.inj (mine.symm.trans found)
  exact absurd rfl (different lane)

/-- To take a call out of its lane is to take it out of every lane. -/
theorem InLine.withdraw_lanes {dispatcher : Dispatcher} (inLine : InLine dispatcher)
    {ticket : Ticket} {call : EnqueueCall} (found : dispatcher.calls[ticket]? = some call) :
    (dispatcher.withdraw ticket call).lanes = dispatcher.lanes.map (Lane.without ticket) := by
  apply List.ext_getElem?
  intro place
  rw [withdraw, List.getElem?_modify, List.getElem?_map]
  cases laneFound : dispatcher.lanes[place]? with
  | none => rfl
  | some lane =>
      by_cases here : call.lane = place
      · simp [here]
      · have absent : ticket ∉ lane.line := by
          intro member
          obtain ⟨other, otherFound, same, _⟩ :=
            inLine.alive place ticket ⟨lane, laneFound, member⟩
          obtain rfl := Option.some.inj (found.symm.trans otherFound)
          exact here same
        simp [here, Lane.without_eq_self absent]

theorem Move.keepsAlive {before after : Dispatcher} {action : DispatchAction}
    (inLine : InLine before) (move : Move before action after) (index : Nat)
    (other : Ticket) (stands : StandsIn Lane.line after.lanes index other) :
    after.Alive index other := by
  have set {place : Nat} {old new : Lane} (found : before.lanes[place]? = some old)
      (stands : StandsIn Lane.line (before.lanes.set place new) index other)
      (less : other ∈ new.line → before.Alive place other) :
      before.Alive index other := by
    rcases StandsIn.of_set found stands with ⟨rfl, member⟩ | ⟨_, stood⟩
    · exact less member
    · exact inLine.alive index other stood
  have stood {place : Nat} {old : Lane} (found : before.lanes[place]? = some old)
      (member : other ∈ old.line) : before.Alive place other :=
    inLine.alive place other ⟨old, found, member⟩
  cases move with
  | enter work =>
      rw [enter_lanes] at stands
      obtain ⟨call, found, mine⟩ := inLine.alive index other stands
      refine ⟨call, ?_, mine⟩
      rw [enter_calls, List.getElem?_append_left (List.getElem?_eq_some_iff.mp found).1]
      exact found
  | lookClosed mine | sendClosed mine | abandon mine =>
      obtain ⟨stood, different⟩ := (standsIn_without (fun _ => Lane.mem_line_without)).mp stands
      exact inLine.alive_elsewhere mine stood different
  | lookOpen | sendGiven | sendAsleep =>
      exact (inLine.alive index other stands).setStatus (fun _ => rfl)
  | @sendPlaced ticket call lane mine laneFound offering =>
      refine Alive.setStatus (set laneFound stands (fun member => ?_)) (fun _ => rfl)
      rcases Lane.mem_line_placed.mp member with old | rfl
      · exact stood laneFound old
      · exact ⟨call, mine, rfl, by rw [offering]; rfl⟩
  | @sendQueued ticket call lane mine laneFound offering =>
      refine Alive.setStatus (set laneFound stands (fun member => ?_)) (fun _ => rfl)
      rcases Lane.mem_line_queued.mp member with old | rfl
      · exact stood laneFound old
      · exact ⟨call, mine, rfl, by rw [offering]; rfl⟩
  | @deliver ticket call lane mine laneFound =>
      rcases StandsIn.of_set laneFound stands with ⟨rfl, member⟩ | ⟨elsewhere, stood⟩
      · obtain ⟨stood, different⟩ := Lane.mem_line_without.mp member
        exact inLine.alive_elsewhere mine ⟨lane, laneFound, stood⟩ (fun _ => different)
      · exact inLine.alive_elsewhere mine stood (fun here => absurd here elsewhere)
  | @advance place lane ticket waiting laneFound line =>
      refine set laneFound stands (fun member => stood laneFound ?_)
      simpa [Lane.line, line] using member
  | take laneFound | skip laneFound | notice laneFound | call laneFound
  | finishCall _ laneFound | finish laneFound | closeQueue laneFound | stop laneFound =>
      exact set laneFound stands (fun member => stood laneFound member)
  | addListener | removeListener | shutdown => exact inLine.alive index other stands

theorem setStatus_cases {dispatcher : Dispatcher} {ticket other : Ticket}
    {status : CallStatus} {old call : EnqueueCall}
    (mine : dispatcher.calls[ticket]? = some old)
    (found : (dispatcher.setStatus ticket status).calls[other]? = some call) :
    (ticket = other ∧ call.status = status ∧ call.lane = old.lane) ∨
    (ticket ≠ other ∧ dispatcher.calls[other]? = some call) := by
  rw [setStatus_getElem?] at found
  obtain ⟨before, beforeFound, changed⟩ := Option.map_eq_some_iff.mp found
  split at changed
  · rename_i same
    subst same changed
    obtain rfl := Option.some.inj (mine.symm.trans beforeFound)
    exact .inl ⟨rfl, rfl, rfl⟩
  · rename_i different
    exact .inr ⟨different, changed ▸ beforeFound⟩

theorem Move.keepsPlaced {before after : Dispatcher} {action : DispatchAction}
    (inLine : InLine before) (move : Move before action after) (other : Ticket)
    (call : EnqueueCall) (found : after.calls[other]? = some call) :
    Placed after.lanes call.status call.lane other := by
  -- A call with any other status need not stand anywhere.
  have neither {lanes : List Lane} (waits : call.status ≠ .waiting)
      (holds : call.status ≠ .holding) : Placed lanes call.status call.lane other :=
    ⟨fun same => absurd same waits, fun same => absurd same holds⟩
  cases move with
  | enter work =>
      rw [enter_lanes]
      rw [enter_calls, List.getElem?_append] at found
      split at found
      · exact inLine.placed other call found
      · obtain rfl := List.mem_singleton.mp (List.mem_of_getElem? found)
        apply neither <;> (simp only; split <;> simp)
  | lookClosed mine | sendClosed mine | abandon mine =>
      rcases setStatus_cases mine found with ⟨_, status, _⟩ | ⟨different, found⟩
      · exact neither (by simp [status]) (by simp [status])
      · exact (inLine.placed other call found).without different.symm
  | lookOpen mine =>
      rcases setStatus_cases mine found with ⟨_, status, _⟩ | ⟨different, found⟩
      · exact neither (by simp [status]) (by simp [status])
      · exact inLine.placed other call found
  | sendGiven mine laneFound _ _ given =>
      rcases setStatus_cases mine found with ⟨rfl, status, lane⟩ | ⟨different, found⟩
      · rw [status, lane]
        exact ⟨nofun, fun _ => ⟨_, laneFound, given⟩⟩
      · exact inLine.placed other call found
  | sendAsleep mine laneFound _ _ _ asleep =>
      rcases setStatus_cases mine found with ⟨rfl, status, lane⟩ | ⟨different, found⟩
      · rw [status, lane]
        exact ⟨fun _ => ⟨_, laneFound, List.mem_append_right _ asleep⟩, nofun⟩
      · exact inLine.placed other call found
  | sendPlaced mine laneFound =>
      rcases setStatus_cases mine found with ⟨rfl, status, lane⟩ | ⟨different, found⟩
      · rw [status, lane]
        exact ⟨nofun, fun _ => standsIn_set_self laneFound (by simp)⟩
      · exact (inLine.placed other call found).set laneFound
          (fun member => Lane.mem_line_placed.mpr (.inl member))
          (fun member => List.mem_append_left _ member)
  | sendQueued mine laneFound =>
      rcases setStatus_cases mine found with ⟨rfl, status, lane⟩ | ⟨different, found⟩
      · rw [status, lane]
        exact ⟨fun _ => standsIn_set_self laneFound (Lane.mem_line_queued.mpr (.inr rfl)), nofun⟩
      · exact (inLine.placed other call found).set laneFound
          (fun member => Lane.mem_line_queued.mpr (.inl member)) (fun member => member)
  | deliver mine laneFound =>
      rcases setStatus_cases mine found with ⟨_, status, _⟩ | ⟨different, found⟩
      · exact neither (by simp [status]) (by simp [status])
      · exact (inLine.placed other call found).set laneFound
          (fun member => Lane.mem_line_without.mpr ⟨member, different.symm⟩)
          (fun member => Lane.mem_places_without.mpr ⟨member, different.symm⟩)
  | advance laneFound line =>
      refine (inLine.placed other call found).set laneFound (fun member => ?_)
        (fun member => List.mem_append_left _ member)
      simpa [Lane.line, line] using member
  | take laneFound | skip laneFound | notice laneFound | call laneFound
  | finishCall _ laneFound | finish laneFound | closeQueue laneFound | stop laneFound =>
      exact (inLine.placed other call found).set laneFound (fun member => member)
        (fun member => member)
  | addListener | removeListener | shutdown => exact inLine.placed other call found

theorem Move.keepsInLine {before after : Dispatcher} {action : DispatchAction}
    (inLine : InLine before) (move : Move before action after) : InLine after :=
  ⟨move.keepsAlive inLine, move.keepsPlaced inLine⟩

/-- Nobody stands in the line of a lane twice. -/
def LinedUpOnce (dispatcher : Dispatcher) : Prop :=
  ∀ lane ∈ dispatcher.lanes, lane.line.Nodup

theorem Move.keepsLinedUpOnce {before after : Dispatcher} {action : DispatchAction}
    (once : LinedUpOnce before) (move : Move before action after) : LinedUpOnce after := by
  cases move with
  | enter work =>
      rw [LinedUpOnce, enter_lanes]
      exact once
  | lookClosed | sendClosed | abandon =>
      exact forall_without once (fun lane => (lane.line_without_sublist _).nodup)
  | lookOpen | sendGiven | sendAsleep | addListener | removeListener | shutdown =>
      exact once
  | sendPlaced _ laneFound _ _ notGiven _ nobody =>
      refine forall_set once laneFound (fun distinct => ?_)
      simp only [Lane.line, nobody, List.append_nil, ← List.concat_eq_append] at distinct ⊢
      exact distinct.concat notGiven
  | sendQueued _ laneFound _ _ notGiven fresh =>
      refine forall_set once laneFound (fun distinct => ?_)
      rw [Lane.line, ← List.append_assoc, ← List.concat_eq_append]
      exact distinct.concat (by simp [notGiven, fresh])
  | deliver _ laneFound =>
      exact forall_set once laneFound ((Lane.line_without_sublist _ _).nodup)
  | advance laneFound line =>
      refine forall_set once laneFound (fun distinct => ?_)
      simpa [Lane.line, line] using distinct
  | take laneFound | skip laneFound | notice laneFound | call laneFound
  | finishCall _ laneFound | finish laneFound | closeQueue laneFound | stop laneFound =>
      exact forall_set once laneFound (fun distinct => distinct)

/-- What the queues of every reachable dispatcher satisfy. -/
structure Orderly (capacity : Nat) (dispatcher : Dispatcher) : Prop where
  capacity : dispatcher.capacity = max 1 capacity
  bounded : dispatcher.Bounded
  running : dispatcher.Running
  inLine : dispatcher.InLine
  once : dispatcher.LinedUpOnce

theorem orderly_start (capacity workers : Nat) (routing : String → Nat) :
    Orderly capacity (start capacity workers routing) where
  capacity := rfl
  bounded := bounded_start capacity workers routing
  running := running_start capacity workers routing
  inLine := inLine_start capacity workers routing
  once := by
    intro lane member
    rw [List.eq_of_mem_replicate member]
    exact List.nodup_nil

theorem Move.keepsOrderly {before after : Dispatcher} {action : DispatchAction}
    {capacity : Nat} (orderly : Orderly capacity before) (move : Move before action after) :
    Orderly capacity after where
  capacity := move.keepsCapacity.trans orderly.capacity
  bounded := move.keepsBounded orderly.bounded
  running := move.keepsRunning orderly.running
  inLine := move.keepsInLine orderly.inLine
  once := move.keepsLinedUpOnce orderly.once

theorem orderly_of_run {capacity workers : Nat} {routing : String → Nat}
    {actions : List DispatchAction} {dispatcher : Dispatcher}
    (run : (start capacity workers routing).run? actions = some dispatcher) :
    Orderly capacity dispatcher :=
  run?_preserves (Orderly capacity) (fun orderly move => move.keepsOrderly orderly)
    (orderly_start capacity workers routing) run

end Dispatcher

end ReviewFeed
