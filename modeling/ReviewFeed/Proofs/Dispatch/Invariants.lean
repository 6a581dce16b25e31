import ReviewFeed.Proofs.Dispatch.LaneHistory
import ReviewFeed.Proofs.Dispatch.Moves

/-!
# Invariants of a dispatcher

`Sound` collects what every reachable dispatcher satisfies: calls keep their work
and their lane, the journal's acceptances are exactly the calls that returned
successfully, and every lane has a history in the sense of `LaneRun`.
-/

namespace ReviewFeed

section Runs

variable {State Action : Type} {step : State → Action → Option State}

theorem foldlM_append_eq_some {early late : List Action} {first final : State} :
    (early ++ late).foldlM step first = some final ↔
      ∃ middle, early.foldlM step first = some middle ∧
        late.foldlM step middle = some final := by
  rw [List.foldlM_append, Option.bind_eq_bind, Option.bind_eq_some_iff]

/-- What every step with one of the actions of a run preserves, the run preserves. -/
theorem foldlM_preserves (Property : State → Prop) {actions : List Action}
    (kept : ∀ {before after : State} {action : Action}, action ∈ actions →
      Property before → step before action = some after → Property after)
    {first final : State} (holds : Property first)
    (run : actions.foldlM step first = some final) : Property final := by
  induction actions generalizing first with
  | nil =>
      cases run
      exact holds
  | cons action actions induction =>
      rw [List.foldlM_cons, Option.bind_eq_bind, Option.bind_eq_some_iff] at run
      obtain ⟨next, stepped, rest⟩ := run
      apply induction (fun member => kept (List.mem_cons_of_mem _ member)) _ rest
      exact kept List.mem_cons_self holds stepped

end Runs

/-- The accepted units, in the order of their acceptance. -/
def acceptedTickets (journal : List Entry) : List Ticket :=
  journal.filterMap (fun
    | .accepted _ ticket => some ticket
    | _ => none)

theorem acceptedTickets_append (early late : List Entry) :
    acceptedTickets (early ++ late) = acceptedTickets early ++ acceptedTickets late :=
  List.filterMap_append

theorem mem_acceptedTickets {journal : List Entry} {ticket : Ticket} :
    ticket ∈ acceptedTickets journal ↔ ∃ lane, .accepted lane ticket ∈ journal := by
  constructor
  · intro member
    obtain ⟨entry, entryMember, accepted⟩ := List.mem_filterMap.mp member
    cases entry <;> simp at accepted
    subst accepted
    exact ⟨_, entryMember⟩
  · rintro ⟨lane, member⟩
    exact List.mem_filterMap.mpr ⟨_, member, rfl⟩

/-- How the status of a call can change. -/
inductive StatusStep : CallStatus → CallStatus → Prop
  | same (status : CallStatus) : StatusStep status status
  | offered {status : CallStatus} : status.isPending = true → StatusStep status .offering
  | refused {status : CallStatus} : status.isPending = true → StatusStep status .refused
  | abandoned {status : CallStatus} : status.isPending = true → StatusStep status .abandoned
  | slept : StatusStep .offering .waiting
  | placed : StatusStep .offering .holding
  | delivered : StatusStep .holding .accepted

/-- Whether a call is over. -/
def CallStatus.isFinal : CallStatus → Bool
  | .accepted | .refused | .abandoned => true
  | _ => false

theorem StatusStep.of_isFinal {status later : CallStatus}
    (step : StatusStep status later) (final : status.isFinal = true) : later = status := by
  cases step with
  | same => rfl
  | offered pending | refused pending | abandoned pending =>
      cases status <;> cases pending <;> cases final
  | slept | placed | delivered => cases final

namespace Dispatcher

/-- The unit of a ticket becomes this event, or none. -/
def Becomes (dispatcher : Dispatcher) (ticket : Ticket) (event : Option Event) : Prop :=
  ∃ call, dispatcher.calls[ticket]? = some call ∧ call.work.event? = event

theorem setStatus_getElem? (dispatcher : Dispatcher) (ticket other : Ticket)
    (status : CallStatus) :
    (dispatcher.setStatus ticket status).calls[other]? =
      (dispatcher.calls[other]?).map
        (fun call => if ticket = other then { call with status } else call) := by
  simp only [setStatus, List.getElem?_modify]
  rfl

theorem setStatus_keeps {dispatcher : Dispatcher} {ticket other : Ticket}
    {status : CallStatus} {call otherCall : EnqueueCall}
    (found : dispatcher.calls[ticket]? = some call)
    (legal : StatusStep call.status status)
    (otherFound : dispatcher.calls[other]? = some otherCall) :
    ∃ later, (dispatcher.setStatus ticket status).calls[other]? =
        some { otherCall with status := later } ∧
      StatusStep otherCall.status later := by
  rw [setStatus_getElem?, otherFound]
  by_cases same : ticket = other
  · subst same
    obtain rfl : call = otherCall := by simpa [found] using otherFound
    exact ⟨status, by simp, legal⟩
  · exact ⟨otherCall.status, by simp [same], .same _⟩

/-- A new call goes to the end of the calls, and is refused at once by a closed
dispatcher. -/
theorem enter_calls (dispatcher : Dispatcher) (work : Work) :
    (dispatcher.enter work).calls = dispatcher.calls ++
      [{ work
         lane := dispatcher.laneOf work.provider
         status := if dispatcher.closing then .refused else .entered }] := by
  cases closing : dispatcher.closing with
  | false => simp [enter, closing]
  | true =>
      simp only [enter, closing, if_true, refusal, note, setStatus]
      rw [List.modify_eq_take_cons_drop (by simp)]
      simp

theorem enter_getElem? (dispatcher : Dispatcher) (work : Work) :
    (dispatcher.enter work).calls[dispatcher.calls.length]? =
      some
        { work
          lane := dispatcher.laneOf work.provider
          status := if dispatcher.closing then .refused else .entered } := by
  rw [enter_calls, List.getElem?_concat_length]

theorem enter_lanes (dispatcher : Dispatcher) (work : Work) :
    (dispatcher.enter work).lanes = dispatcher.lanes := by
  unfold enter
  split <;> rfl

theorem enter_routing (dispatcher : Dispatcher) (work : Work) :
    (dispatcher.enter work).routing = dispatcher.routing := by
  unfold Dispatcher.enter
  split <;> rfl

theorem enter_registry (dispatcher : Dispatcher) (work : Work) :
    (dispatcher.enter work).registry = dispatcher.registry := by
  unfold enter
  split <;> rfl

theorem enter_journal (dispatcher : Dispatcher) (work : Work) :
    (dispatcher.enter work).journal = dispatcher.journal ++
      if dispatcher.closing then [.refused dispatcher.calls.length] else [] := by
  unfold enter
  split
  · rfl
  · exact (List.append_nil _).symm

theorem Move.keepsCall {before after : Dispatcher} {action : DispatchAction}
    (move : Move before action after) {ticket : Ticket} {call : EnqueueCall}
    (found : before.calls[ticket]? = some call) :
    ∃ status, after.calls[ticket]? = some { call with status } ∧
      StatusStep call.status status := by
  have unchanged : ∃ status, before.calls[ticket]? = some { call with status } ∧
      StatusStep call.status status := ⟨call.status, found, .same _⟩
  cases move with
  | enter work =>
      have inside := (List.getElem?_eq_some_iff.mp found).1
      rw [enter_calls, List.getElem?_append_left inside]
      exact unchanged
  | lookClosed mine pending => exact setStatus_keeps mine (.refused pending) found
  | lookOpen mine pending => exact setStatus_keeps mine (.offered pending) found
  | sendClosed mine _ offering =>
      exact setStatus_keeps mine (.refused (by rw [offering]; rfl)) found
  | sendGiven mine _ offering =>
      exact setStatus_keeps mine (by rw [offering]; exact .placed) found
  | sendAsleep mine _ offering =>
      exact setStatus_keeps mine (by rw [offering]; exact .slept) found
  | sendPlaced mine _ offering =>
      exact setStatus_keeps mine (by rw [offering]; exact .placed) found
  | sendQueued mine _ offering =>
      exact setStatus_keeps mine (by rw [offering]; exact .slept) found
  | deliver mine _ holding =>
      exact setStatus_keeps mine (by rw [holding]; exact .delivered) found
  | abandon mine pending => exact setStatus_keeps mine (.abandoned pending) found
  | advance | take | skip | notice | call | finishCall | finish | closeQueue | stop
  | addListener | removeListener | shutdown => exact unchanged

theorem Move.keepsBecomes {before after : Dispatcher} {action : DispatchAction}
    (move : Move before action after) (ticket : Ticket) (event : Option Event)
    (becomes : before.Becomes ticket event) : after.Becomes ticket event := by
  obtain ⟨call, found, same⟩ := becomes
  obtain ⟨status, kept, _⟩ := move.keepsCall found
  exact ⟨_, kept, same⟩

/-- A move about one lane: its new state, and what the journal says of it. -/
private theorem laneStep_set {before after : Dispatcher} {index other : Nat}
    {lane new otherNew : Lane} {entries : List Entry}
    (found : before.lanes[index]? = some lane)
    (lanes : after.lanes = before.lanes.set index new)
    (journal : after.journal = before.journal ++ entries)
    (elsewhere : ∀ other, other ≠ index → laneHistory other entries = [])
    (step : LaneStep before.Becomes lane.queue lane.hand (laneHistory index entries)
      new.queue new.hand)
    (foundAfter : after.lanes[other]? = some otherNew) :
    ∃ old heard, before.lanes[other]? = some old ∧
      laneHistory other after.journal = laneHistory other before.journal ++ heard ∧
      LaneStep before.Becomes old.queue old.hand heard otherNew.queue otherNew.hand := by
  have inside := (List.getElem?_eq_some_iff.mp found).1
  rw [lanes, List.getElem?_set] at foundAfter
  rw [journal, laneHistory_append]
  by_cases same : index = other
  · subst same
    obtain rfl : new = otherNew := by simpa [inside] using foundAfter
    exact ⟨lane, _, found, rfl, step⟩
  · simp only [same, if_false] at foundAfter
    refine ⟨otherNew, [], foundAfter, ?_, .rest⟩
    rw [elsewhere other (fun equal => same equal.symm)]

/-- A move that changes no queue and nothing in a worker's hands. -/
private theorem laneStep_rest {before after : Dispatcher} {other : Nat} {otherNew : Lane}
    {entries : List Entry} (touched : Nat) (change : Lane → Lane)
    (queues : ∀ lane, (change lane).queue = lane.queue)
    (hands : ∀ lane, (change lane).hand = lane.hand)
    (lanes : after.lanes = before.lanes.modify touched change)
    (journal : after.journal = before.journal ++ entries)
    (silent : laneHistory other entries = [])
    (foundAfter : after.lanes[other]? = some otherNew) :
    ∃ old heard, before.lanes[other]? = some old ∧
      laneHistory other after.journal = laneHistory other before.journal ++ heard ∧
      LaneStep before.Becomes old.queue old.hand heard otherNew.queue otherNew.hand := by
  rw [lanes, List.getElem?_modify] at foundAfter
  obtain ⟨old, found, changed⟩ := Option.map_eq_some_iff.mp foundAfter
  refine ⟨old, [], found, by rw [journal, laneHistory_append, silent], ?_⟩
  split at changed
  · subst changed
    rw [queues, hands]
    exact .rest
  · subst changed
    exact .rest

private theorem laneStep_same {before after : Dispatcher} {other : Nat} {otherNew : Lane}
    {entries : List Entry} (lanes : after.lanes = before.lanes)
    (journal : after.journal = before.journal ++ entries)
    (silent : laneHistory other entries = [])
    (foundAfter : after.lanes[other]? = some otherNew) :
    ∃ old heard, before.lanes[other]? = some old ∧
      laneHistory other after.journal = laneHistory other before.journal ++ heard ∧
      LaneStep before.Becomes old.queue old.hand heard otherNew.queue otherNew.hand :=
  laneStep_rest 0 id (fun _ => rfl) (fun _ => rfl)
    (lanes.trans (List.modify_id 0 _).symm) journal silent foundAfter

/-- Every move is a step of each lane. -/
theorem Move.laneStep {before after : Dispatcher} {action : DispatchAction}
    (move : Move before action after) {other : Nat} {otherNew : Lane}
    (found : after.lanes[other]? = some otherNew) :
    ∃ old heard, before.lanes[other]? = some old ∧
      laneHistory other after.journal = laneHistory other before.journal ++ heard ∧
      LaneStep before.Becomes old.queue old.hand heard otherNew.queue otherNew.hand := by
  cases move with
  | enter work =>
      refine laneStep_same (enter_lanes _ _) (enter_journal _ _) ?_ found
      split <;> rfl
  | @lookClosed ticket call =>
      exact laneStep_rest call.lane (Lane.without ticket) (fun _ => rfl) (fun _ => rfl)
        rfl rfl rfl found
  | lookOpen => exact laneStep_same rfl (List.append_nil _).symm rfl found
  | @sendClosed ticket call =>
      exact laneStep_rest call.lane (Lane.without ticket) (fun _ => rfl) (fun _ => rfl)
        rfl rfl rfl found
  | sendGiven => exact laneStep_same rfl (List.append_nil _).symm rfl found
  | sendAsleep => exact laneStep_same rfl (List.append_nil _).symm rfl found
  | sendPlaced _ laneFound =>
      exact laneStep_set laneFound rfl (List.append_nil _).symm (fun _ _ => rfl) .rest found
  | sendQueued _ laneFound =>
      exact laneStep_set laneFound rfl (List.append_nil _).symm (fun _ _ => rfl) .rest found
  | deliver _ laneFound =>
      refine laneStep_set laneFound rfl rfl laneHistory_accepted_elsewhere ?_ found
      rw [laneHistory_accepted]
      exact .accepted _
  | advance laneFound =>
      exact laneStep_set laneFound rfl (List.append_nil _).symm (fun _ _ => rfl) .rest found
  | @abandon ticket call =>
      exact laneStep_rest call.lane (Lane.without ticket) (fun _ => rfl) (fun _ => rfl)
        rfl rfl rfl found
  | take laneFound free first =>
      refine laneStep_set laneFound rfl rfl laneHistory_worked_elsewhere ?_ found
      rw [laneHistory_worked, free, first]
      exact .took
  | skip laneFound inHand mine useless =>
      refine laneStep_set laneFound rfl rfl laneHistory_worked_elsewhere ?_ found
      rw [laneHistory_worked, inHand]
      exact .skipped ⟨_, mine, useless⟩
  | notice laneFound inHand mine useful =>
      refine laneStep_set laneFound rfl rfl laneHistory_worked_elsewhere ?_ found
      rw [laneHistory_worked, inHand]
      exact .noticed _ ⟨_, mine, useful⟩
  | call laneFound inHand =>
      refine laneStep_set laneFound rfl rfl laneHistory_worked_elsewhere ?_ found
      rw [laneHistory_worked, inHand]
      exact .called
  | finishCall panicked laneFound inHand =>
      refine laneStep_set laneFound rfl rfl laneHistory_worked_elsewhere ?_ found
      rw [laneHistory_worked, inHand]
      exact .returned panicked
  | finish laneFound inHand =>
      refine laneStep_set laneFound rfl rfl laneHistory_worked_elsewhere ?_ found
      rw [laneHistory_worked, inHand]
      exact .finished
  | closeQueue laneFound =>
      exact laneStep_set laneFound rfl (List.append_nil _).symm (fun _ _ => rfl) .rest found
  | stop laneFound =>
      exact laneStep_set laneFound rfl rfl (fun _ _ => rfl) .rest found
  | addListener => exact laneStep_same rfl rfl rfl found
  | removeListener => exact laneStep_same rfl rfl rfl found
  | shutdown => exact laneStep_same rfl rfl rfl found

theorem Move.keepsSizes {before after : Dispatcher} {action : DispatchAction}
    (move : Move before action after) :
    after.routing = before.routing ∧ after.lanes.length = before.lanes.length := by
  cases move with
  | enter work => exact ⟨enter_routing before work, by rw [enter_lanes]⟩
  | lookOpen | sendGiven | sendAsleep | addListener | removeListener | shutdown =>
      exact ⟨rfl, rfl⟩
  | lookClosed | sendClosed | abandon => exact ⟨rfl, List.length_modify ..⟩
  | _ => exact ⟨rfl, List.length_set⟩

theorem Move.calls_length {before after : Dispatcher} {action : DispatchAction}
    (move : Move before action after) :
    (∃ work, action = .enter work ∧ after = before.enter work) ∨
      after.calls.length = before.calls.length := by
  cases move with
  | enter work => exact .inl ⟨work, rfl, rfl⟩
  | lookClosed | lookOpen | sendClosed | sendGiven | sendAsleep | sendPlaced
  | sendQueued | deliver | abandon => exact .inr (List.length_modify ..)
  | advance | take | skip | notice | call | finishCall | finish | closeQueue | stop
  | addListener | removeListener | shutdown => exact .inr rfl

theorem Move.calls_le {before after : Dispatcher} {action : DispatchAction}
    (move : Move before action after) : before.calls.length ≤ after.calls.length := by
  rcases move.calls_length with ⟨work, _, rfl⟩ | same
  · rw [enter_calls, List.length_append]
    exact Nat.le_add_right _ _
  · exact Nat.le_of_eq same.symm

theorem Move.laneOf_eq {before after : Dispatcher} {action : DispatchAction}
    (move : Move before action after) (provider : Option Provider) :
    after.laneOf provider = before.laneOf provider := by
  obtain ⟨routing, lanes⟩ := move.keepsSizes
  simp only [laneOf, routing, lanes]

/-- A move adds entries to the journal, and none about a lane that is not there. -/
theorem Move.journal {before after : Dispatcher} {action : DispatchAction}
    (move : Move before action after) :
    ∃ entries, after.journal = before.journal ++ entries ∧
      ∀ index, before.lanes.length ≤ index → laneHistory index entries = [] := by
  have inside {index : Nat} {lane : Lane} (found : before.lanes[index]? = some lane)
      (other : Nat) (outside : before.lanes.length ≤ other) : other ≠ index := by
    have := (List.getElem?_eq_some_iff.mp found).1
    omega
  cases move with
  | enter work =>
      refine ⟨_, enter_journal before work, fun index _ => ?_⟩
      split <;> rfl
  | lookClosed | sendClosed | abandon | stop | addListener | removeListener | shutdown =>
      exact ⟨_, rfl, fun _ _ => rfl⟩
  | lookOpen | sendGiven | sendAsleep | sendPlaced | sendQueued | advance | closeQueue =>
      exact ⟨[], (List.append_nil _).symm, fun _ _ => rfl⟩
  | deliver _ laneFound =>
      exact ⟨_, rfl, fun other outside =>
        laneHistory_accepted_elsewhere other (inside laneFound other outside)⟩
  | take laneFound | skip laneFound | notice laneFound | call laneFound
  | finishCall _ laneFound | finish laneFound =>
      exact ⟨_, rfl, fun other outside =>
        laneHistory_worked_elsewhere other (inside laneFound other outside)⟩

private theorem accepted_of_setStatus {dispatcher : Dispatcher} {ticket other : Ticket}
    {status : CallStatus} {call : EnqueueCall} (different : status ≠ .accepted)
    (found : (dispatcher.setStatus ticket status).calls[other]? = some call)
    (accepted : call.status = .accepted) : dispatcher.calls[other]? = some call := by
  rw [setStatus_getElem?] at found
  obtain ⟨old, oldFound, changed⟩ := Option.map_eq_some_iff.mp found
  split at changed
  · subst changed
    exact absurd accepted different
  · rw [oldFound, changed]

/-- A move either delivers a unit or leaves the accepted units as they are. -/
theorem Move.accepts {before after : Dispatcher} {action : DispatchAction}
    (move : Move before action after) :
    (∃ ticket call lane, before.calls[ticket]? = some call ∧
      before.lanes[call.lane]? = some lane ∧ call.status = .holding ∧
      after = before.accept ticket call.lane lane) ∨
    ((∃ entries, after.journal = before.journal ++ entries ∧
        ∀ lane ticket, .accepted lane ticket ∉ entries) ∧
      ∀ (ticket : Ticket) (call : EnqueueCall), after.calls[ticket]? = some call →
        call.status = .accepted → before.calls[ticket]? = some call) := by
  cases move with
  | deliver found laneFound holding =>
      exact .inl ⟨_, _, _, found, laneFound, holding, rfl⟩
  | enter work =>
      refine .inr ⟨⟨_, enter_journal before work, ?_⟩, ?_⟩
      · intro lane ticket
        split <;> simp
      · intro ticket call found accepted
        rw [enter_calls, List.getElem?_append] at found
        split at found
        · exact found
        · obtain rfl := List.mem_singleton.mp (List.mem_of_getElem? found)
          simp only at accepted
          split at accepted <;> cases accepted
  | lookClosed | sendClosed | abandon =>
      exact .inr ⟨⟨_, rfl, by simp⟩, fun _ _ => accepted_of_setStatus (by simp)⟩
  | lookOpen | sendGiven | sendAsleep | sendPlaced | sendQueued =>
      exact .inr ⟨⟨[], (List.append_nil _).symm, by simp⟩,
        fun _ _ => accepted_of_setStatus (by simp)⟩
  | advance | closeQueue =>
      exact .inr ⟨⟨[], (List.append_nil _).symm, by simp⟩, fun _ _ found _ => found⟩
  | take | skip | notice | call | finishCall | finish | stop | addListener
  | removeListener | shutdown =>
      exact .inr ⟨⟨_, rfl, by simp⟩, fun _ _ found _ => found⟩

/-- A lane whose worker has stopped has nothing left to do. -/
def LaneDone (lane : Lane) : Prop :=
  lane.phase = .stopped → lane.queue = [] ∧ lane.hand = .empty ∧ lane.places = []

private theorem laneDone_set {lanes : List Lane} {index other : Nat} {new lane : Lane}
    (done : ∀ (index : Nat) (lane : Lane), lanes[index]? = some lane → LaneDone lane)
    (newDone : LaneDone new) (found : (lanes.set index new)[other]? = some lane) :
    LaneDone lane := by
  rw [List.getElem?_set] at found
  split at found
  · split at found
    · obtain rfl := Option.some.inj found
      exact newDone
    · cases found
  · exact done other lane found

private theorem laneDone_withdraw {lanes : List Lane} {touched other : Nat}
    {ticket : Ticket} {lane : Lane}
    (done : ∀ (index : Nat) (lane : Lane), lanes[index]? = some lane → LaneDone lane)
    (found : (lanes.modify touched (Lane.without ticket))[other]? = some lane) :
    LaneDone lane := by
  rw [List.getElem?_modify] at found
  obtain ⟨old, oldFound, changed⟩ := Option.map_eq_some_iff.mp found
  have oldDone := done other old oldFound
  split at changed
  · subst changed
    intro stopped
    obtain ⟨queue, hand, places⟩ := oldDone stopped
    exact ⟨queue, hand, by simp [Lane.without, places]⟩
  · subst changed
    exact oldDone

theorem Move.keepsDone {before after : Dispatcher} {action : DispatchAction}
    (move : Move before action after)
    (done : ∀ (index : Nat) (lane : Lane), before.lanes[index]? = some lane → LaneDone lane)
    (other : Nat) (new : Lane) (found : after.lanes[other]? = some new) : LaneDone new := by
  cases move with
  | enter work =>
      rw [enter_lanes] at found
      exact done other new found
  | lookClosed | sendClosed | abandon => exact laneDone_withdraw done found
  | lookOpen | sendGiven | sendAsleep | addListener | removeListener | shutdown =>
      exact done other new found
  | sendPlaced _ _ _ running | sendQueued _ _ _ running =>
      exact laneDone_set done (fun stopped => by simp [running] at stopped) found
  | deliver _ laneFound _ placed =>
      refine laneDone_set done (fun stopped => ?_) found
      obtain ⟨_, _, places⟩ := done _ _ laneFound stopped
      simp [places] at placed
  | advance _ _ running =>
      exact laneDone_set done (fun stopped => by simp [running] at stopped) found
  | take _ _ _ active =>
      refine laneDone_set done (fun stopped => ?_) found
      exact absurd stopped active
  | skip laneFound inHand | notice laneFound inHand | call laneFound inHand
  | finishCall _ laneFound inHand | finish laneFound inHand =>
      refine laneDone_set done (fun stopped => ?_) found
      obtain ⟨_, hand, _⟩ := done _ _ laneFound stopped
      rw [hand] at inHand
      cases inHand
  | closeQueue => exact laneDone_set done (fun stopped => by cases stopped) found
  | stop _ free empty back =>
      refine laneDone_set done (fun _ => ?_) found
      exact ⟨empty, free, back⟩

/-- What every reachable dispatcher satisfies. -/
structure Sound (dispatcher : Dispatcher) : Prop where
  inhabited : 0 < dispatcher.lanes.length
  routed : ∀ (ticket : Ticket) (call : EnqueueCall),
    dispatcher.calls[ticket]? = some call →
      call.lane = dispatcher.laneOf call.work.provider
  accepted : ∀ lane ticket, .accepted lane ticket ∈ dispatcher.journal ↔
    ∃ call, dispatcher.calls[ticket]? = some call ∧ call.lane = lane ∧
      call.status = .accepted
  once : (acceptedTickets dispatcher.journal).Nodup
  histories : ∀ (index : Nat) (lane : Lane), dispatcher.lanes[index]? = some lane →
    LaneRun dispatcher.Becomes (laneHistory index dispatcher.journal) lane.queue lane.hand
  nowhere : ∀ index, dispatcher.lanes.length ≤ index →
    laneHistory index dispatcher.journal = []
  done : ∀ (index : Nat) (lane : Lane), dispatcher.lanes[index]? = some lane →
    LaneDone lane

theorem sound_start (capacity workers : Nat) (routing : String → Nat) :
    Sound (start capacity workers routing) where
  inhabited := by
    simp only [start, List.length_replicate]
    omega
  routed := by simp [start]
  accepted := by simp [start]
  once := List.nodup_nil
  histories := by
    intro index lane found
    obtain ⟨_, rfl⟩ := List.mem_replicate.mp (List.mem_of_getElem? found)
    exact .idle
  nowhere := fun _ _ => rfl
  done := by
    intro index lane found stopped
    obtain ⟨_, rfl⟩ := List.mem_replicate.mp (List.mem_of_getElem? found)
    cases stopped

/-- The calls after a move are those before it, and perhaps a new one. -/
theorem Move.call_cases {before after : Dispatcher} {action : DispatchAction}
    (move : Move before action after) {ticket : Ticket} {call : EnqueueCall}
    (found : after.calls[ticket]? = some call) :
    (∃ old, before.calls[ticket]? = some old ∧ call.work = old.work ∧
        call.lane = old.lane) ∨
      action = .enter call.work ∧ ticket = before.calls.length ∧
        call.lane = before.laneOf call.work.provider := by
  have inside := (List.getElem?_eq_some_iff.mp found).1
  by_cases old : ticket < before.calls.length
  · left
    obtain ⟨status, kept, _⟩ := move.keepsCall (List.getElem?_eq_getElem old)
    obtain rfl := Option.some.inj (kept.symm.trans found)
    exact ⟨_, List.getElem?_eq_getElem old, rfl, rfl⟩
  · right
    rcases move.calls_length with ⟨work, rfl, rfl⟩ | same
    · have last : ticket = before.calls.length := by
        rw [enter_calls, List.length_append, List.length_singleton] at inside
        exact Nat.le_antisymm (Nat.le_of_lt_succ inside) (Nat.le_of_not_lt old)
      rw [last, enter_getElem?] at found
      obtain rfl := Option.some.inj found
      exact ⟨rfl, last, rfl⟩
    · exact absurd (same ▸ inside) old

theorem Move.keepsRouted {before after : Dispatcher} {action : DispatchAction}
    (sound : Sound before) (move : Move before action after) (ticket : Ticket)
    (call : EnqueueCall) (found : after.calls[ticket]? = some call) :
    call.lane = after.laneOf call.work.provider := by
  rw [move.laneOf_eq]
  rcases move.call_cases found with ⟨old, oldFound, work, lane⟩ | ⟨_, _, lane⟩
  · rw [lane, work]
    exact sound.routed ticket old oldFound
  · exact lane

private theorem accepted_iff_of_deliver {before : Dispatcher} {ticket : Ticket}
    {call : EnqueueCall} {lane : Lane}
    (found : before.calls[ticket]? = some call)
    (accepted : ∀ index other, .accepted index other ∈ before.journal ↔
      ∃ otherCall, before.calls[other]? = some otherCall ∧ otherCall.lane = index ∧
        otherCall.status = .accepted)
    (index : Nat) (other : Ticket) :
    .accepted index other ∈ (before.accept ticket call.lane lane).journal ↔
      ∃ otherCall, (before.accept ticket call.lane lane).calls[other]? = some otherCall ∧
        otherCall.lane = index ∧ otherCall.status = .accepted := by
  change _ ∈ before.journal ++ [Entry.accepted call.lane ticket] ↔
    ∃ otherCall, (before.setStatus ticket .accepted).calls[other]? = some otherCall ∧ _
  rw [List.mem_append, List.mem_singleton, accepted, setStatus_getElem?]
  by_cases same : ticket = other
  · subst same
    simp only [found, Option.some.injEq, Entry.accepted.injEq, and_true, if_true,
      Option.map_some, exists_eq_left']
    constructor
    · rintro (⟨rfl, _⟩ | rfl) <;> rfl
    · rintro rfl
      exact .inr rfl
  · simp [same, Ne.symm same]

theorem Move.keepsSound {before after : Dispatcher} {action : DispatchAction}
    (sound : Sound before) (move : Move before action after) : Sound after := by
  obtain ⟨_, lanes⟩ := move.keepsSizes
  refine ⟨lanes ▸ sound.inhabited, move.keepsRouted sound, ?_, ?_, ?_, ?_, ?_⟩
  · intro index ticket
    rcases move.accepts with ⟨other, call, lane, found, _, _, rfl⟩ |
      ⟨⟨entries, journal, silent⟩, onlyOld⟩
    · exact accepted_iff_of_deliver found sound.accepted index ticket
    · rw [journal, List.mem_append, or_iff_left (silent index ticket), sound.accepted]
      constructor
      · rintro ⟨call, found, lane, accepted⟩
        obtain ⟨status, kept, legal⟩ := move.keepsCall found
        have same := legal.of_isFinal (by rw [accepted]; rfl)
        exact ⟨_, kept, lane, same.trans accepted⟩
      · rintro ⟨call, found, lane, accepted⟩
        exact ⟨call, onlyOld ticket call found accepted, lane, accepted⟩
  · rcases move.accepts with ⟨ticket, call, lane, found, _, holding, rfl⟩ |
      ⟨⟨entries, journal, silent⟩, _⟩
    · change (acceptedTickets (before.journal ++ [.accepted call.lane ticket])).Nodup
      rw [acceptedTickets_append, List.nodup_append]
      refine ⟨sound.once, List.pairwise_singleton _ ticket, ?_⟩
      intro earlier member last lastMember same
      obtain rfl : last = ticket := by simpa [acceptedTickets] using lastMember
      obtain rfl := same
      -- A call that holds a place has not been accepted before.
      obtain ⟨index, entry⟩ := mem_acceptedTickets.mp member
      obtain ⟨acceptedCall, acceptedFound, _, accepted⟩ := (sound.accepted index _).mp entry
      obtain rfl := Option.some.inj (found.symm.trans acceptedFound)
      rw [holding] at accepted
      cases accepted
    · rw [journal, acceptedTickets_append]
      suffices none : acceptedTickets entries = [] by
        rw [none, List.append_nil]
        exact sound.once
      rw [List.eq_nil_iff_forall_not_mem]
      intro ticket member
      obtain ⟨index, member⟩ := mem_acceptedTickets.mp member
      exact silent index ticket member
  · intro index lane found
    obtain ⟨old, heard, oldFound, journal, step⟩ := move.laneStep found
    rw [journal]
    exact ((sound.histories index old oldFound).step step).mono move.keepsBecomes
  · intro index outside
    obtain ⟨entries, journal, silent⟩ := move.journal
    rw [lanes] at outside
    rw [journal, laneHistory_append, sound.nowhere index outside, silent index outside,
      List.append_nil]
  · exact move.keepsDone sound.done

theorem run?_append {dispatcher final : Dispatcher} {early late : List DispatchAction} :
    dispatcher.run? (early ++ late) = some final ↔
      ∃ middle, dispatcher.run? early = some middle ∧ middle.run? late = some final :=
  foldlM_append_eq_some

/-- What every move preserves, every run preserves. -/
theorem run?_preserves (Property : Dispatcher → Prop)
    (kept : ∀ {before after : Dispatcher} {action : DispatchAction},
      Property before → Move before action after → Property after)
    {dispatcher final : Dispatcher} {actions : List DispatchAction}
    (holds : Property dispatcher) (run : dispatcher.run? actions = some final) :
    Property final :=
  foldlM_preserves Property (fun _ holds step => kept holds (.ofStep? step)) holds run

theorem sound_of_run {capacity workers : Nat} {routing : String → Nat}
    {actions : List DispatchAction} {dispatcher : Dispatcher}
    (run : (start capacity workers routing).run? actions = some dispatcher) :
    Sound dispatcher :=
  run?_preserves Sound (fun sound move => move.keepsSound sound)
    (sound_start capacity workers routing) run

/-- A run adds to the journal, and takes nothing back. -/
theorem run?_journal {dispatcher final : Dispatcher} {actions : List DispatchAction}
    (run : dispatcher.run? actions = some final) :
    ∃ entries, final.journal = dispatcher.journal ++ entries := by
  refine run?_preserves
    (fun state => ∃ entries, state.journal = dispatcher.journal ++ entries)
    (fun {before after action} grown move => ?_) ⟨[], (List.append_nil _).symm⟩ run
  obtain ⟨early, grown⟩ := grown
  obtain ⟨late, journal, _⟩ := move.journal
  exact ⟨early ++ late, by rw [journal, grown, List.append_assoc]⟩

theorem run?_keepsFinal {dispatcher final : Dispatcher} {actions : List DispatchAction}
    {ticket : Ticket} {call : EnqueueCall}
    (found : dispatcher.calls[ticket]? = some call) (settled : call.status.isFinal = true)
    (run : dispatcher.run? actions = some final) :
    final.calls[ticket]? = some call := by
  refine run?_preserves (fun state => state.calls[ticket]? = some call)
    (fun {before after action} found move => ?_) found run
  obtain ⟨status, kept, legal⟩ := move.keepsCall found
  rw [kept, legal.of_isFinal settled]

end Dispatcher

end ReviewFeed
