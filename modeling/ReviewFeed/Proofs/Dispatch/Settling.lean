import ReviewFeed.Proofs.Dispatch.Cost

/-!
# Settling

A rehearsal settles by moves of its feed, as long as one of those that it tries is
possible.  If no listener waits for a permit and its bound is not below the cost of
what is left to do, then it comes to rest: nothing is in a queue or in a worker's hands,
every call has returned, and a dispatcher that was told to shut down has done so.
-/

namespace ReviewFeed

/-- Listeners that neither wait for permits nor panic. -/
def Cast.Gentle (cast : Cast) : Prop :=
  ∀ id, (cast.script id).gated = false ∧ (cast.script id).panics = false

theorem Dispatcher.Move.sameRegistry {before after : Dispatcher} {action : DispatchAction}
    (move : before.Move action after) (quiet : action.isQuiet = true) :
    after.registry = before.registry := by
  cases move with
  | enter | addListener | removeListener => cases quiet
  | _ => rfl

theorem Feed.Move.sameRegistry {before after : Feed} {action : FeedAction}
    (move : Move before action after) (quiet : action.isQuiet = true) :
    after.dispatcher.registry = before.dispatcher.registry := by
  cases move with
  | dispatch move => exact move.sameRegistry quiet
  | addReader | reader => rfl
  | enqueue => exact Dispatcher.enter_registry _ _

theorem Dispatcher.Move.sameClosing {before after : Dispatcher} {action : DispatchAction}
    (move : before.Move action after) (quiet : action.isQuiet = true) :
    after.closing = before.closing := by
  cases move with
  | enter | shutdown => cases quiet
  | _ => rfl

theorem Feed.Move.sameClosing {before after : Feed} {action : FeedAction}
    (move : Move before action after) (quiet : action.isQuiet = true) :
    after.dispatcher.closing = before.dispatcher.closing := by
  cases move with
  | dispatch move => exact move.sameClosing quiet
  | addReader | reader => rfl
  | enqueue => exact Dispatcher.enter_closing _ _

namespace Rehearsal

section Steps

variable {rehearsal after : Rehearsal} {action : FeedAction}

theorem act?_eq_some (done : rehearsal.act? action = some after) :
    rehearsal.feed.step? action = some after.feed ∧ after.cast = rehearsal.cast := by
  obtain ⟨feed, step, rfl⟩ := Option.map_eq_some_iff.mp done
  exact ⟨step, rfl⟩

theorem act?_eq_none (stuck : rehearsal.act? action = none) :
    rehearsal.feed.step? action = none :=
  Option.map_eq_none_iff.mp stuck

theorem quiet_of_callMove? {ticket : Ticket} {call : EnqueueCall}
    (found : rehearsal.feed.dispatcher.calls[ticket]? = some call)
    (move : callMove? rehearsal.feed.dispatcher ticket call = some action) :
    action.isQuiet = true ∧ rehearsal.feed.Awake action := by
  unfold callMove? at move
  split at move
  · rename_i entered
    cases move
    exact ⟨rfl, call, found, .inl entered⟩
  · cases move
    exact ⟨rfl, trivial⟩
  · cases move
    exact ⟨rfl, trivial⟩
  · rename_i waiting
    split at move
    · rename_i woken
      cases move
      exact ⟨rfl, call, found, .inr ⟨waiting, woken⟩⟩
    · cases move
  all_goals cases move

theorem quiet_of_ownMove? {index : Nat} (move : rehearsal.ownMove? index = some action) :
    action.isQuiet = true ∧ rehearsal.feed.Awake action := by
  simp only [ownMove?, Option.bind_eq_bind, Option.bind_eq_some_iff] at move
  obtain ⟨reader, _, move⟩ := move
  split at move
  · obtain ⟨call, found, move⟩ := Option.bind_eq_some_iff.mp move
    exact quiet_of_callMove? found move
  · cases move

/-- The moves that are tried are quiet, and calls look only when there is something new
to see. -/
theorem quiet_of_movesOf {mover : Mover} (tried : action ∈ rehearsal.movesOf mover) :
    action.isQuiet = true ∧ rehearsal.feed.Awake action := by
  cases mover with
  | worker lane =>
      simp only [movesOf, laneMoves, List.mem_cons, List.not_mem_nil, or_false] at tried
      rcases tried with rfl | rfl | rfl | rfl | rfl | rfl | rfl <;> exact ⟨rfl, trivial⟩
  | reader index =>
      simp only [movesOf, readerMoves, List.mem_append, Option.mem_toList, List.mem_cons,
        List.not_mem_nil, or_false] at tried
      rcases tried with own | rfl | rfl | rfl | rfl
      · exact quiet_of_ownMove? own
      all_goals exact ⟨rfl, trivial⟩
  | callers =>
      obtain ⟨⟨call, ticket⟩, member, tried⟩ := List.mem_filterMap.mp tried
      exact quiet_of_callMove? (List.mem_zipIdx_iff_getElem?.mp member) tried

theorem return?_eq_some {lane : Nat} (done : rehearsal.return? lane = some after) :
    ∃ id, rehearsal.feed.step?
        (.dispatch (.finishCall lane (rehearsal.cast.script id).panics)) = some after.feed ∧
      after.cast = rehearsal.cast := by
  simp only [return?, Option.bind_eq_bind, Option.bind_eq_some_iff] at done
  obtain ⟨id, _, done⟩ := done
  split at done
  · cases done
  · obtain ⟨next, acted, done⟩ := Option.bind_eq_some_iff.mp done
    obtain ⟨step, cast⟩ := act?_eq_some acted
    refine ⟨id, ?_⟩
    cases done
    split <;> exact ⟨step, cast⟩

/-- A move of somebody is one of the feed. -/
theorem moveOf?_eq_some {mover : Mover} (moved : rehearsal.moveOf? mover = some after) :
    ∃ action, rehearsal.feed.step? action = some after.feed ∧ after.cast = rehearsal.cast ∧
      (rehearsal.cast.Gentle → action.isQuiet = true ∧ rehearsal.feed.Awake action) := by
  unfold moveOf? at moved
  split at moved
  · rename_i tried
    obtain ⟨action, member, acted⟩ := List.exists_of_findSome?_eq_some (tried.trans moved)
    obtain ⟨step, cast⟩ := act?_eq_some acted
    exact ⟨action, step, cast, fun _ => quiet_of_movesOf member⟩
  · obtain ⟨id, step, cast⟩ := return?_eq_some moved
    refine ⟨_, step, cast, fun gentle => ⟨?_, trivial⟩⟩
    simp [FeedAction.isQuiet, DispatchAction.isQuiet, (gentle id).2]
  · cases moved

/-- The next move of a rehearsal is one of its feed. -/
theorem next?_eq_some (moved : rehearsal.next? = some after) :
    ∃ action, rehearsal.feed.step? action = some after.feed ∧ after.cast = rehearsal.cast ∧
      (rehearsal.cast.Gentle → action.isQuiet = true ∧ rehearsal.feed.Awake action) := by
  obtain ⟨⟨mover, turn⟩, _, found⟩ := List.exists_of_findSome?_eq_some moved
  obtain ⟨next, first, rfl⟩ := Option.map_eq_some_iff.mp found
  obtain ⟨action, step, rest⟩ := moveOf?_eq_some first
  exact ⟨action, step, rest⟩

end Steps

/-- To settle is to make a run of the feed. -/
theorem settleWithin_run (bound : Nat) (rehearsal : Rehearsal) :
    ∃ actions, rehearsal.feed.run? actions = some (settleWithin bound rehearsal).feed ∧
      (settleWithin bound rehearsal).cast = rehearsal.cast ∧
      (rehearsal.cast.Gentle → ∀ action ∈ actions, action.isQuiet = true) := by
  induction bound generalizing rehearsal with
  | zero => exact ⟨[], rfl, rfl, by simp⟩
  | succ bound ih =>
      rw [settleWithin]
      cases moved : rehearsal.next? with
      | none => exact ⟨[], rfl, rfl, by simp⟩
      | some after =>
          obtain ⟨action, step, cast, quiet⟩ := next?_eq_some moved
          obtain ⟨actions, run, same, rest⟩ := ih after
          refine ⟨action :: actions, ?_, same.trans cast, fun gentle => ?_⟩
          · rw [Feed.run?, List.foldlM_cons, Option.bind_eq_bind, step]
            exact run
          · exact List.forall_mem_cons.mpr ⟨(quiet gentle).1, rest (cast ▸ gentle)⟩

/-- A bound that covers the cost of what is left to do is not used up. -/
theorem settleWithin_rests {bound unit : Nat} {rehearsal : Rehearsal}
    (gentle : rehearsal.cast.Gentle) (unitCost : rehearsal.feed.dispatcher.unitCost ≤ unit)
    (enough : rehearsal.feed.cost unit ≤ bound) :
    (settleWithin bound rehearsal).next? = none := by
  induction bound generalizing rehearsal with
  | zero =>
      rw [settleWithin, Option.eq_none_iff_forall_ne_some]
      intro after moved
      obtain ⟨action, step, _, quiet⟩ := next?_eq_some moved
      obtain ⟨isQuiet, awake⟩ := quiet gentle
      have less := (Feed.Move.ofStep? step).cost_lt isQuiet awake unitCost
      omega
  | succ bound ih =>
      rw [settleWithin]
      cases moved : rehearsal.next? with
      | none => exact moved
      | some after =>
          obtain ⟨action, step, cast, quiet⟩ := next?_eq_some moved
          obtain ⟨isQuiet, awake⟩ := quiet gentle
          have move := Feed.Move.ofStep? step
          have less := move.cost_lt isQuiet awake unitCost
          refine ih (cast ▸ gentle) ?_ (by omega)
          rwa [Dispatcher.unitCost, move.sameRegistry isQuiet]

end Rehearsal

end ReviewFeed
