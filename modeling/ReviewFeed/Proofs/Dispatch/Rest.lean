import ReviewFeed.Proofs.Dispatch.BackPressure
import ReviewFeed.Proofs.Dispatch.Delivery
import ReviewFeed.Proofs.Dispatch.Settling

/-!
# At rest

When none of its moves is possible any more, a feed has no unit in a queue or in a
worker's hands, and no call that has not returned.  A reader is then over, or waits in
a read for a token that has not fired, and a dispatcher that was told to shut down has
done so.
-/

namespace ReviewFeed

namespace Feed

/-- In a feed the dispatcher makes a run of its own. -/
theorem dispatcher_run {capacity workers : Nat} {routing : String → Nat}
    {actions : List FeedAction} {feed : Feed}
    (run : (start capacity workers routing).run? actions = some feed) :
    ∃ moves, (Dispatcher.start capacity workers routing).run? moves = some feed.dispatcher := by
  refine run?_preserves
    (fun state => ∃ moves,
      (Dispatcher.start capacity workers routing).run? moves = some state.dispatcher)
    (fun _ so move => ?_) ⟨[], rfl⟩ run
  obtain ⟨moves, before⟩ := so
  rcases move.dispatcher with same | ⟨action, moved, _⟩
  · exact ⟨moves, same ▸ before⟩
  · exact ⟨moves ++ [action], Dispatcher.run?_concat before moved.step?⟩

end Feed

namespace Dispatcher

/-- What is true of the status of every call stays so, if it is true of each status that
the move can give to a call. -/
theorem Move.forall_status {before after : Dispatcher} {action : DispatchAction}
    (Property : CallStatus → Prop) (move : Move before action after)
    (all : ∀ call ∈ before.calls, Property call.status)
    (underway : ∀ status, status.isFinal = false → Property status)
    (accepted : Property .accepted)
    (refused : before.closing = true ∨ (∃ lane ∈ before.lanes, lane.phase ≠ .running) →
      Property .refused)
    (abandoned : ∀ ticket, action = .abandon ticket → Property .abandoned) :
    ∀ call ∈ after.calls, Property call.status := by
  have set {ticket : Ticket} {call : EnqueueCall} {status : CallStatus}
      (mine : before.calls[ticket]? = some call) (holds : Property status) :
      ∀ call ∈ (before.setStatus ticket status).calls, Property call.status := by
    intro other member
    obtain ⟨place, found⟩ := List.getElem?_of_mem member
    rcases setStatus_cases mine found with ⟨_, same, _⟩ | ⟨_, old⟩
    · rw [same]
      exact holds
    · exact all other (List.mem_of_getElem? old)
  cases move with
  | enter work =>
      rw [enter_calls]
      intro call member
      rcases List.mem_append.mp member with old | new
      · exact all call old
      · rw [List.mem_singleton.mp new]
        cases closing : before.closing with
        | true => exact refused (.inl closing)
        | false => exact underway .entered rfl
  | lookClosed mine _ closing => exact set mine (refused (.inl closing))
  | sendClosed mine laneFound _ closed =>
      exact set mine (refused (.inr ⟨_, List.mem_of_getElem? laneFound, closed⟩))
  | lookOpen mine => exact set mine (underway .offering rfl)
  | sendGiven mine | sendPlaced mine => exact set mine (underway .holding rfl)
  | sendAsleep mine | sendQueued mine => exact set mine (underway .waiting rfl)
  | deliver mine => exact set mine accepted
  | abandon mine => exact set mine (abandoned _ rfl)
  | advance | take | skip | notice | call | finishCall | finish | closeQueue | stop
  | addListener | removeListener | shutdown => exact all

/-- A call that has looked can ask for a place. -/
theorem exists_send {dispatcher : Dispatcher} {ticket : Ticket} {call : EnqueueCall} {lane : Lane}
    (found : dispatcher.calls[ticket]? = some call)
    (laneFound : dispatcher.lanes[call.lane]? = some lane) (offering : call.status = .offering) :
    ∃ after, dispatcher.Move (.send ticket) after := by
  by_cases running : lane.phase = .running
  · by_cases given : ticket ∈ lane.places
    · exact ⟨_, .sendGiven found laneFound offering running given⟩
    · by_cases asleep : ticket ∈ lane.waiting
      · exact ⟨_, .sendAsleep found laneFound offering running given asleep⟩
      · by_cases free : lane.waiting = [] ∧ dispatcher.hasRoom lane = true
        · exact ⟨_, .sendPlaced found laneFound offering running given asleep free.1 free.2⟩
        · exact ⟨_, .sendQueued found laneFound offering running given asleep free⟩
  · exact ⟨_, .sendClosed found laneFound offering running⟩

end Dispatcher

/-- A feed in which nothing is under way any more, but for readers that wait for lines. -/
structure Feed.AtRest (feed : Feed) : Prop where
  hands : ∀ lane ∈ feed.dispatcher.lanes, lane.hand = .empty
  queues : ∀ lane ∈ feed.dispatcher.lanes, lane.queue = []
  lines : ∀ lane ∈ feed.dispatcher.lanes, lane.line = []
  calls : ∀ call ∈ feed.dispatcher.calls, call.status.isFinal = true
  complete : feed.dispatcher.closing = true → feed.dispatcher.isOver = true
  readers : ∀ reader ∈ feed.readers, (∃ outcome, reader.phase = .ended outcome) ∨
    reader.phase = .reading ∧ reader.cancelled = false

namespace Rehearsal

variable {rehearsal : Rehearsal} {capacity : Nat}

section Stuck

/-- The action is tried when it is the turn of one who may make it. -/
def IsTried (rehearsal : Rehearsal) (action : FeedAction) : Prop :=
  ∃ mover ∈ rehearsal.movers, action ∈ rehearsal.movesOf mover

/-- When there is no next move, nobody has one, whoever has the turn. -/
theorem moveOf?_eq_none (stuck : rehearsal.next? = none) {mover : Mover}
    (comes : mover ∈ rehearsal.movers) : rehearsal.moveOf? mover = none := by
  obtain ⟨turn, found⟩ := List.getElem?_of_mem comes
  have inCircle : (mover, turn) ∈ rehearsal.movers.zipIdx :=
    List.mem_zipIdx_iff_getElem?.mpr found
  rw [← List.take_append_drop rehearsal.turn rehearsal.movers.zipIdx, List.mem_append,
    or_comm, ← List.mem_append] at inCircle
  exact Option.map_eq_none_iff.mp (List.findSome?_eq_none_iff.mp stuck _ inCircle)

theorem step?_eq_none (stuck : rehearsal.next? = none) {action : FeedAction}
    (tried : rehearsal.IsTried action) : rehearsal.feed.step? action = none := by
  obtain ⟨mover, comes, among⟩ := tried
  have nothing := moveOf?_eq_none stuck comes
  unfold moveOf? at nothing
  split at nothing
  · cases nothing
  all_goals
    rename_i none
    exact act?_eq_none (List.findSome?_eq_none_iff.mp none action among)

theorem mem_movers_of_lane {lane : Lane} {index : Nat}
    (found : rehearsal.feed.dispatcher.lanes[index]? = some lane) :
    .worker index ∈ rehearsal.movers := by
  have inside := List.mem_range.mpr (List.getElem?_eq_some_iff.mp found).1
  exact List.mem_append_left _ (List.mem_append_left _ (List.mem_map_of_mem inside))

theorem return?_eq_none (stuck : rehearsal.next? = none) {lane : Lane} {index : Nat}
    (found : rehearsal.feed.dispatcher.lanes[index]? = some lane) :
    rehearsal.return? index = none := by
  have nothing := moveOf?_eq_none stuck (mem_movers_of_lane found)
  unfold moveOf? at nothing
  split at nothing
  · cases nothing
  · rename_i same
    cases same
    exact nothing
  · rename_i other
    exact absurd rfl (other index)

theorem step?_dispatch {feed : Feed} {action : DispatchAction} {dispatcher : Dispatcher}
    (move : feed.dispatcher.Move action dispatcher) (quiet : action.isQuiet = true) :
    feed.step? (.dispatch action) = some { feed with dispatcher } := by
  have step := move.step?
  cases action with
  | abandon => cases quiet
  | _ => simp only [Feed.step?, Feed.dispatch?, step, Option.bind_eq_bind, Option.bind_some]

/-- The dispatcher of a rehearsal that is stuck has none of the moves that are tried. -/
theorem no_move (stuck : rehearsal.next? = none) {action : DispatchAction}
    {dispatcher : Dispatcher} (tried : rehearsal.IsTried (.dispatch action))
    (move : rehearsal.feed.dispatcher.Move action dispatcher) : False := by
  obtain ⟨mover, comes, among⟩ := tried
  have step := step?_dispatch move (quiet_of_movesOf among).1
  rw [step?_eq_none stuck ⟨mover, comes, among⟩] at step
  cases step

theorem isTried_of_lane {lane : Lane} {index : Nat} {action : FeedAction}
    (found : rehearsal.feed.dispatcher.lanes[index]? = some lane)
    (among : action ∈ laneMoves index) : rehearsal.IsTried action :=
  ⟨.worker index, mem_movers_of_lane found, among⟩

theorem isTried_of_call {ticket : Ticket} {call : EnqueueCall} {action : FeedAction}
    (found : rehearsal.feed.dispatcher.calls[ticket]? = some call)
    (move : callMove? rehearsal.feed.dispatcher ticket call = some action) :
    rehearsal.IsTried action := by
  refine ⟨.callers, List.mem_append_right _ (List.mem_singleton_self _), ?_⟩
  exact List.mem_filterMap.mpr ⟨(call, ticket), List.mem_zipIdx_iff_getElem?.mpr found, move⟩

theorem isTried_of_reader {reader : Reader} {index : Nat} {action : FeedAction}
    (found : rehearsal.feed.readers[index]? = some reader)
    (among : action ∈ readerMoves rehearsal.now index) : rehearsal.IsTried action := by
  have inside := List.mem_range.mpr (List.getElem?_eq_some_iff.mp found).1
  refine ⟨.reader index, ?_, List.mem_append_right _ among⟩
  exact List.mem_append_left _ (List.mem_append_right _ (List.mem_map_of_mem inside))

end Stuck

section Resting

variable (stuck : rehearsal.next? = none)

include stuck

/-- No worker has anything in its hands: it could go on with it. -/
theorem hand_of_stuck (gentle : rehearsal.cast.Gentle)
    (known : rehearsal.feed.dispatcher.Known) {index : Nat} {lane : Lane}
    (found : rehearsal.feed.dispatcher.lanes[index]? = some lane) : lane.hand = .empty := by
  have tried {action : DispatchAction} (among : .dispatch action ∈ laneMoves index) :
      rehearsal.IsTried (.dispatch action) := isTried_of_lane found among
  cases hand : lane.hand with
  | empty => rfl
  | taken ticket =>
      have inside := known.lanes lane (List.mem_of_getElem? found) ticket
        (by simp [Lane.tickets, Hand.tickets, hand])
      have callFound := List.getElem?_eq_getElem inside
      cases becomes : rehearsal.feed.dispatcher.calls[ticket].work.event? with
      | none =>
          exact (no_move stuck (tried (by simp [laneMoves]))
            (.skip found hand callFound becomes)).elim
      | some event =>
          exact (no_move stuck (tried (by simp [laneMoves]))
            (.notice found hand callFound becomes)).elim
  | notifying ticket event next inCall =>
      cases inCall with
      | none =>
          cases next with
          | nil => exact (no_move stuck (tried (by simp [laneMoves])) (.finish found hand)).elim
          | cons id next =>
              exact (no_move stuck (tried (by simp [laneMoves])) (.call found hand)).elim
      | some id =>
          have returned := return?_eq_none stuck found
          have step := step?_dispatch
            (.finishCall (rehearsal.cast.script id).panics found hand) (by
              simp [DispatchAction.isQuiet, (gentle id).2])
          simp [return?, listenerIn?, found, hand, (gentle id).1, act?, step] at returned

theorem queue_of_stuck (gentle : rehearsal.cast.Gentle)
    (known : rehearsal.feed.dispatcher.Known) (sound : rehearsal.feed.dispatcher.Sound)
    {index : Nat} {lane : Lane} (found : rehearsal.feed.dispatcher.lanes[index]? = some lane) :
    lane.queue = [] := by
  by_cases stopped : lane.phase = .stopped
  · exact (sound.done index lane found stopped).1
  · have free := hand_of_stuck stuck gentle known found
    cases queue : lane.queue with
    | nil => rfl
    | cons ticket more =>
        exact (no_move stuck (isTried_of_lane found (by simp [laneMoves]))
          (.take found free queue stopped)).elim

/-- A call that is not over sleeps, and nobody has woken it. -/
theorem asleep_of_stuck (sound : rehearsal.feed.dispatcher.Sound)
    (inLine : rehearsal.feed.dispatcher.InLine) {ticket : Ticket} {call : EnqueueCall}
    (found : rehearsal.feed.dispatcher.calls[ticket]? = some call)
    (underway : call.status.isFinal = false) :
    call.status = .waiting ∧ isWoken rehearsal.feed.dispatcher ticket call = false := by
  have looks (tried : rehearsal.IsTried (.dispatch (.look ticket)))
      (pending : call.status.isPending = true) : False := by
    cases closing : rehearsal.feed.dispatcher.closing with
    | true => exact no_move stuck tried (.lookClosed found pending closing)
    | false => exact no_move stuck tried (.lookOpen found pending closing)
  obtain ⟨lane, laneFound⟩ := sound.lane_exists found
  cases status : call.status with
  | entered =>
      exact (looks (isTried_of_call found (by simp [callMove?, status]))
        (by rw [status]; rfl)).elim
  | offering =>
      obtain ⟨after, move⟩ := Dispatcher.exists_send found laneFound status
      exact (no_move stuck (isTried_of_call found (by simp [callMove?, status])) move).elim
  | holding =>
      obtain ⟨given, givenFound, placed⟩ := (inLine.placed ticket call found).holding status
      exact (no_move stuck (isTried_of_call found (by simp [callMove?, status]))
        (.deliver found givenFound status placed)).elim
  | waiting =>
      refine ⟨rfl, ?_⟩
      cases woken : isWoken rehearsal.feed.dispatcher ticket call with
      | false => rfl
      | true =>
          exact (looks (isTried_of_call found (by simp [callMove?, status, woken]))
            (by rw [status]; rfl)).elim
  | accepted | refused | abandoned => simp [status, CallStatus.isFinal] at underway

/-- Every call has returned: one that sleeps would wait for a place, but a lane whose
queue is empty has only places to give or places that somebody is about to fill. -/
theorem call_of_stuck (gentle : rehearsal.cast.Gentle)
    (known : rehearsal.feed.dispatcher.Known) (sound : rehearsal.feed.dispatcher.Sound)
    (orderly : rehearsal.feed.dispatcher.Orderly capacity) {ticket : Ticket} {call : EnqueueCall}
    (found : rehearsal.feed.dispatcher.calls[ticket]? = some call) :
    call.status.isFinal = true := by
  by_contra notFinal
  rw [Bool.not_eq_true] at notFinal
  obtain ⟨waiting, asleep⟩ := asleep_of_stuck stuck sound orderly.inLine found notFinal
  simp only [isWoken, Bool.or_eq_false_iff] at asleep
  obtain ⟨opened, notPlaced⟩ := asleep
  obtain ⟨lane, laneFound, inLine⟩ := (orderly.inLine.placed ticket call found).waiting waiting
  have running := orderly.running opened lane (List.mem_of_getElem? laneFound)
  have queue := queue_of_stuck stuck gentle known sound laneFound
  -- Nobody in the line of the lane has a place, since that would have woken it.
  have places : lane.places = [] := by
    rw [List.eq_nil_iff_forall_not_mem]
    intro other member
    obtain ⟨otherCall, otherFound, same, underway⟩ := orderly.inLine.alive call.lane other
      ⟨lane, laneFound, List.mem_append_left _ member⟩
    obtain ⟨_, otherAsleep⟩ := asleep_of_stuck stuck sound orderly.inLine otherFound underway
    simp only [isWoken, Bool.or_eq_false_iff] at otherAsleep
    have placed : rehearsal.feed.dispatcher.isPlaced other otherCall.lane = true :=
      Dispatcher.isPlaced_iff.mpr ⟨lane, same ▸ laneFound, member⟩
    cases placed.symm.trans otherAsleep.2
  have room : rehearsal.feed.dispatcher.hasRoom lane = true := by
    rw [Dispatcher.hasRoom_iff, orderly.capacity, Lane.taken, queue, places]
    simp
  cases line : lane.waiting with
  | nil => simp [Lane.line, line, places] at inLine
  | cons first more =>
      exact no_move stuck (isTried_of_lane laneFound (by simp [laneMoves]))
        (.advance laneFound line running room)

/-- Nobody stands in the line of a lane. -/
theorem line_of_stuck (gentle : rehearsal.cast.Gentle)
    (known : rehearsal.feed.dispatcher.Known) (sound : rehearsal.feed.dispatcher.Sound)
    (orderly : rehearsal.feed.dispatcher.Orderly capacity) {index : Nat} {lane : Lane}
    (found : rehearsal.feed.dispatcher.lanes[index]? = some lane) : lane.line = [] := by
  rw [List.eq_nil_iff_forall_not_mem]
  intro ticket stands
  obtain ⟨call, callFound, _, underway⟩ := orderly.inLine.alive index ticket ⟨lane, found, stands⟩
  rw [call_of_stuck stuck gentle known sound orderly callFound] at underway
  cases underway

/-- A dispatcher that was told to shut down has done so. -/
theorem over_of_stuck (gentle : rehearsal.cast.Gentle)
    (known : rehearsal.feed.dispatcher.Known) (sound : rehearsal.feed.dispatcher.Sound)
    (orderly : rehearsal.feed.dispatcher.Orderly capacity)
    (closing : rehearsal.feed.dispatcher.closing = true) :
    rehearsal.feed.dispatcher.isOver = true := by
  simp only [Dispatcher.isOver, closing, Bool.true_and, List.all_eq_true, decide_eq_true_eq]
  intro lane member
  obtain ⟨index, found⟩ := List.getElem?_of_mem member
  have free := hand_of_stuck stuck gentle known found
  have queue := queue_of_stuck stuck gentle known sound found
  cases phase : lane.phase with
  | stopped => rfl
  | running =>
      exact (no_move stuck (isTried_of_lane found (by simp [laneMoves]))
        (.closeQueue found free phase closing)).elim
  | draining =>
      have line := line_of_stuck stuck gentle known sound orderly found
      have places : lane.places = [] := (List.append_eq_nil_iff.mp line).1
      exact (no_move stuck (isTried_of_lane found (by simp [laneMoves]))
        (.stop found free queue places phase)).elim

/-- A reader that is not over waits for a line that does not come. -/
theorem reader_of_stuck {reader : Reader} {index : Nat}
    (found : rehearsal.feed.readers[index]? = some reader)
    (returned : ∀ ticket, reader.phase = .enqueuing ticket →
      rehearsal.feed.dispatcher.status? ticket = some .accepted ∨
        rehearsal.feed.dispatcher.status? ticket = some .refused) :
    (∃ outcome, reader.phase = .ended outcome) ∨
      reader.phase = .reading ∧ reader.cancelled = false := by
  have refused (action : FeedAction) (among : action ∈ readerMoves rehearsal.now index) :
      rehearsal.feed.step? action = none :=
    step?_eq_none stuck (isTried_of_reader found among)
  cases phase : reader.phase with
  | ended outcome => exact .inl ⟨outcome, rfl⟩
  | unopened =>
      have closed := refused (.openStream index) (by simp [readerMoves])
      simp only [Feed.step?, Feed.openStream?, found, Reader.open?, phase, Option.bind_eq_bind,
        Option.bind_some] at closed
      cases opened : reader.source streamCommand <;> simp [opened] at closed
  | between =>
      have unread := refused (.readNext index rehearsal.now) (by simp [readerMoves])
      simp only [Feed.step?, Feed.readNext?, found, phase, Option.bind_eq_bind,
        Option.bind_some] at unread
      split at unread
      · cases unread
      · split at unread
        · cases unread
        · split at unread
          · split at unread <;> cases unread
          all_goals cases unread
  | reading =>
      have waits := refused (.giveUp index) (by simp [readerMoves])
      simp only [Feed.step?, Feed.giveUp?, found, phase, Option.bind_eq_bind,
        Option.bind_some] at waits
      split at waits
      · cases waits
      · rename_i unfired
        exact .inr ⟨rfl, by simpa using unfired⟩
  | enqueuing ticket =>
      have stays := refused (.resume index) (by simp [readerMoves])
      rcases returned ticket phase with status | status <;>
        simp [Feed.step?, Feed.resume?, found, phase, status] at stays

end Resting

/-- A rehearsal of a reachable feed whose next move is none is at rest, if no call was
given up. -/
theorem atRest_of_stuck {workers : Nat} {routing : String → Nat} {actions : List FeedAction}
    (run : (Feed.start capacity workers routing).run? actions = some rehearsal.feed)
    (gentle : rehearsal.cast.Gentle)
    (kept : ∀ call ∈ rehearsal.feed.dispatcher.calls, call.status ≠ .abandoned)
    (stuck : rehearsal.next? = none) : rehearsal.feed.AtRest := by
  obtain ⟨moves, dispatched⟩ := Feed.dispatcher_run run
  have sound := Dispatcher.sound_of_run dispatched
  have known := Dispatcher.known_of_run dispatched
  have orderly := Dispatcher.orderly_of_run dispatched
  have traced := (Feed.run?_keepsSound (Feed.sound_start capacity workers routing) run).readers
  have final : ∀ call ∈ rehearsal.feed.dispatcher.calls, call.status.isFinal = true := by
    intro call member
    obtain ⟨ticket, found⟩ := List.getElem?_of_mem member
    exact call_of_stuck stuck gentle known sound orderly found
  refine ⟨?_, ?_, ?_, final, over_of_stuck stuck gentle known sound orderly, ?_⟩
  · intro lane member
    obtain ⟨index, found⟩ := List.getElem?_of_mem member
    exact hand_of_stuck stuck gentle known found
  · intro lane member
    obtain ⟨index, found⟩ := List.getElem?_of_mem member
    exact queue_of_stuck stuck gentle known sound found
  · intro lane member
    obtain ⟨index, found⟩ := List.getElem?_of_mem member
    exact line_of_stuck stuck gentle known sound orderly found
  · intro reader member
    obtain ⟨index, found⟩ := List.getElem?_of_mem member
    refine reader_of_stuck stuck found (fun ticket phase => ?_)
    have settled := (traced reader member).settled
    rw [phase] at settled
    obtain ⟨earlier, tickets, _⟩ := settled
    have mine : ticket ∈ reader.tickets := by simp [tickets]
    obtain ⟨_, call, _, callFound, _⟩ := (traced reader member).madeOf mine
    have callMember := List.mem_of_getElem? callFound
    have isFinal := final call callMember
    cases status : call.status with
    | accepted => exact .inl (Dispatcher.status?_eq_some.mpr ⟨call, callFound, status⟩)
    | refused => exact .inr (Dispatcher.status?_eq_some.mpr ⟨call, callFound, status⟩)
    | abandoned => exact absurd status (kept call callMember)
    | entered | offering | waiting | holding => simp [status, CallStatus.isFinal] at isFinal

end Rehearsal

/-- All that a feed at rest can still have to do is to close its queues, once its readers
are over. -/
theorem Feed.AtRest.cost_le {feed : Feed} (rest : feed.AtRest)
    (ended : ∀ reader ∈ feed.readers, ∃ outcome, reader.phase = .ended outcome) (unit : Nat) :
    feed.cost unit ≤ 2 * feed.dispatcher.lanes.length := by
  have calls : feed.dispatcher.callsCost unit = 0 := by
    refine Finset.sum_eq_zero (fun ticket _ => ?_)
    unfold Dispatcher.callCost
    split
    · rename_i call found
      have final := rest.calls call (List.mem_of_getElem? found)
      cases status : call.status <;> simp [status, CallStatus.isFinal, CallStatus.cost] at final ⊢
    · rfl
  have lane : ∀ cost ∈ feed.dispatcher.lanes.map (Lane.cost unit), cost ≤ 2 := by
    intro cost member
    obtain ⟨lane, found, rfl⟩ := List.mem_map.mp member
    have waiting : lane.waiting = [] := (List.append_eq_nil_iff.mp (rest.lines lane found)).2
    rw [Lane.cost, waiting, rest.queues lane found, rest.hands lane found]
    cases lane.phase <;> simp [Hand.cost, Phase.cost]
  have lanes : feed.dispatcher.lanesCost unit ≤ 2 * feed.dispatcher.lanes.length := by
    have bounded := List.sum_le_card_nsmul _ 2 lane
    rwa [List.length_map, Nat.nsmul_eq_mul, Nat.mul_comm] at bounded
  have readers : (feed.readers.map (Reader.cost unit)).sum = 0 := by
    refine List.sum_eq_zero (fun cost member => ?_)
    obtain ⟨reader, found, rfl⟩ := List.mem_map.mp member
    obtain ⟨outcome, phase⟩ := ended reader found
    rw [Reader.cost, phase]
  rw [Feed.cost, Dispatcher.cost, calls, readers]
  omega

end ReviewFeed
