import ReviewFeed.Proofs.Dispatch.Forgotten

/-!
# Runs without one of their calls

A call that is given up before its unit has reached a queue leaves nothing behind.  If
nobody else was kept from a place by this call alone, then a run without all that the
call did leads to the dispatcher without the call.
-/

namespace ReviewFeed

namespace Dispatcher

/-- The call that has waited longest on a lane. -/
def next? (dispatcher : Dispatcher) (index : Nat) : Option Ticket :=
  (dispatcher.lanes[index]?).bind (·.waiting.head?)

/-- What remains of an action when a call is left out, by the new numbers of the others:
nothing of its own actions, and nothing of what gives it a place. -/
def remaining? (gone : Ticket) (dispatcher : Dispatcher) : DispatchAction → Option DispatchAction
  | .look ticket => unless? gone ticket .look
  | .send ticket => unless? gone ticket .send
  | .deliver ticket => unless? gone ticket .deliver
  | .abandon ticket => unless? gone ticket .abandon
  | .advance index =>
      if dispatcher.next? index = some gone then none else some (.advance index)
  | action => some action

/-- The lane of a call that asks for a place. -/
def asked? (dispatcher : Dispatcher) : DispatchAction → Option Lane
  | .send ticket => (dispatcher.calls[ticket]?).bind (fun call => dispatcher.lanes[call.lane]?)
  | _ => none

/-- Whoever asks for a place is not denied it because of this call alone. -/
def Undisturbed (gone : Ticket) (dispatcher : Dispatcher) (action : DispatchAction) : Prop :=
  ∀ lane ∈ dispatcher.asked? action, lane.phase = .running →
    (lane.forget gone).waiting = [] → dispatcher.hasRoom (lane.forget gone) = true →
      lane.waiting = [] ∧ dispatcher.hasRoom lane = true

end Dispatcher

/-- Whether a call that has come so far can still end as one that was given up. -/
def CallStatus.mayEndAbandoned : CallStatus → Bool
  | .entered | .offering | .waiting | .abandoned => true
  | .holding | .accepted | .refused => false

theorem StatusStep.mayEndAbandoned {status later : CallStatus} (step : StatusStep status later)
    (may : later.mayEndAbandoned = true) : status.mayEndAbandoned = true := by
  cases step with
  | same => exact may
  | offered pending | abandoned pending => cases status <;> first | rfl | cases pending
  | slept => rfl
  | refused | placed | delivered => cases may

namespace Dispatcher

theorem setStatus_self {dispatcher : Dispatcher} {ticket : Ticket} {call : EnqueueCall}
    (found : dispatcher.calls[ticket]? = some call) (status : CallStatus) :
    (dispatcher.setStatus ticket status).calls[ticket]? = some { call with status } := by
  rw [setStatus_getElem?, found]
  simp

/-- What is left out of a run changes nothing that remains. -/
theorem Move.forget_none {gone : Ticket} {before after : Dispatcher} {action : DispatchAction}
    (move : Move before action after)
    (unmet : ∀ call, after.calls[gone]? = some call → call.status.mayEndAbandoned = true)
    (own : before.remaining? gone action = none) : after.forget gone = before.forget gone := by
  cases move with
  | lookClosed found | sendClosed found | sendGiven found | sendPlaced found
  | deliver found =>
      -- Such a call does not end as one that was given up.
      obtain rfl := unless?_eq_none.mp own
      exact absurd (unmet _ (setStatus_self found _)) Bool.false_ne_true
  | lookOpen | sendAsleep =>
      obtain rfl := unless?_eq_none.mp own
      exact forget_setStatus_self ..
  | sendQueued found laneFound =>
      obtain rfl := unless?_eq_none.mp own
      rw [forget_setStatus_self]
      exact forget_setLane_same _ laneFound (by simp [Lane.forget])
  | @advance index lane ticket waiting laneFound line =>
      have first : before.next? index = some ticket := by simp [next?, laneFound, line]
      obtain rfl : ticket = gone := by simpa [Dispatcher.remaining?, first] using own
      exact forget_setLane_same _ laneFound (by simp [Lane.forget, line])
  | abandon found =>
      obtain rfl := unless?_eq_none.mp own
      rw [forget_note_none _ (.abandoned _) unless?_self, forget_setStatus_self,
        forget_withdraw_self]
  | enter | take | skip | notice | call | finishCall | finish | closeQueue | stop
  | addListener | removeListener | shutdown => cases own

/-- A call that no queue and no worker has got. -/
structure Unseen (gone : Ticket) (dispatcher : Dispatcher) : Prop where
  known : gone < dispatcher.calls.length
  idle : ∀ lane ∈ dispatcher.lanes, gone ∉ lane.queue ∧ gone ∉ lane.hand.tickets

theorem Unseen.ne_of_hand {gone ticket : Ticket} {dispatcher : Dispatcher} {index : Nat}
    {lane : Lane} {hand : Hand} (unseen : dispatcher.Unseen gone)
    (found : dispatcher.lanes[index]? = some lane) (inHand : lane.hand = hand)
    (held : ticket ∈ hand.tickets) : ticket ≠ gone := by
  rintro rfl
  have absent := (unseen.idle lane (List.mem_of_getElem? found)).2
  rw [inHand] at absent
  exact absent held

theorem forget_hasRoom {gone : Ticket} {dispatcher : Dispatcher} {lane : Lane}
    (room : dispatcher.hasRoom lane = true) :
    (dispatcher.forget gone).hasRoom (lane.forget gone) = true := by
  rw [hasRoom_iff] at room ⊢
  exact Nat.lt_of_le_of_lt (Nat.add_le_add length_leaveOut_le length_leaveOut_le) room

/-- What remains of a move is a move of the dispatcher without the call. -/
theorem Move.forget_some {gone : Ticket} {before after : Dispatcher}
    {action left : DispatchAction} (unseen : before.Unseen gone)
    (undisturbed : before.Undisturbed gone action) (move : Move before action after)
    (remains : before.remaining? gone action = some left) :
    Move (before.forget gone) left (after.forget gone) := by
  cases move with
  | enter work =>
      cases remains
      rw [forget_enter _ unseen.known]
      exact .enter work
  | lookClosed found pending closing =>
      obtain ⟨different, rfl⟩ := unless?_eq_some.mp remains
      rw [forget_refusal _ different, forget_withdraw _ different]
      exact .lookClosed ((forget_calls _ different).trans found) pending closing
  | lookOpen found pending opened =>
      obtain ⟨different, rfl⟩ := unless?_eq_some.mp remains
      rw [forget_setStatus _ different]
      exact .lookOpen ((forget_calls _ different).trans found) pending opened
  | sendClosed found laneFound offering closed =>
      obtain ⟨different, rfl⟩ := unless?_eq_some.mp remains
      rw [forget_refusal _ different, forget_withdraw _ different]
      exact .sendClosed ((forget_calls _ different).trans found) (forget_lanes _ laneFound)
        offering closed
  | sendGiven found laneFound offering running given =>
      obtain ⟨different, rfl⟩ := unless?_eq_some.mp remains
      rw [forget_setStatus _ different]
      exact .sendGiven ((forget_calls _ different).trans found) (forget_lanes _ laneFound)
        offering running ((renumber_mem_leaveOut different).mpr given)
  | sendAsleep found laneFound offering running notGiven asleep =>
      obtain ⟨different, rfl⟩ := unless?_eq_some.mp remains
      rw [forget_setStatus _ different]
      exact .sendAsleep ((forget_calls _ different).trans found) (forget_lanes _ laneFound)
        offering running (mt (renumber_mem_leaveOut different).mp notGiven)
        ((renumber_mem_leaveOut different).mpr asleep)
  | @sendPlaced ticket call lane found laneFound offering running notGiven fresh first room =>
      obtain ⟨different, rfl⟩ := unless?_eq_some.mp remains
      have grown : Lane.forget gone { lane with places := lane.places ++ [ticket] } =
          { lane.forget gone with
            places := (lane.forget gone).places ++ [renumber gone ticket] } := by
        simp [Lane.forget, leaveOut_cons different]
      rw [forget_setStatus _ different, forget_setLane, grown]
      exact .sendPlaced ((forget_calls _ different).trans found) (forget_lanes _ laneFound)
        offering running (mt (renumber_mem_leaveOut different).mp notGiven)
        (mt (renumber_mem_leaveOut different).mp fresh) (by simp [Lane.forget, first])
        (forget_hasRoom room)
  | @sendQueued ticket call lane found laneFound offering running notGiven fresh full =>
      obtain ⟨different, rfl⟩ := unless?_eq_some.mp remains
      have grown : Lane.forget gone { lane with waiting := lane.waiting ++ [ticket] } =
          { lane.forget gone with
            waiting := (lane.forget gone).waiting ++ [renumber gone ticket] } := by
        simp [Lane.forget, leaveOut_cons different]
      -- Only here could the call have stood in somebody's way.
      have asks : before.asked? (.send ticket) = some lane := by
        simp [asked?, found, laneFound]
      rw [forget_setStatus _ different, forget_setLane, grown]
      exact .sendQueued ((forget_calls _ different).trans found) (forget_lanes _ laneFound)
        offering running (mt (renumber_mem_leaveOut different).mp notGiven)
        (mt (renumber_mem_leaveOut different).mp fresh)
        (fun free => full (undisturbed lane asks running free.1 free.2))
  | deliver found laneFound holding placed =>
      obtain ⟨different, rfl⟩ := unless?_eq_some.mp remains
      rw [forget_accept _ different]
      exact .deliver ((forget_calls _ different).trans found) (forget_lanes _ laneFound)
        holding ((renumber_mem_leaveOut different).mpr placed)
  | @advance index lane ticket waiting laneFound line running room =>
      have first : before.next? index = some ticket := by simp [next?, laneFound, line]
      obtain ⟨different, rfl⟩ : ticket ≠ gone ∧ DispatchAction.advance index = left := by
        simpa [Dispatcher.remaining?, first] using remains
      have grown : Lane.forget gone { lane with waiting, places := lane.places ++ [ticket] } =
          { lane.forget gone with
            waiting := leaveOut gone waiting
            places := (lane.forget gone).places ++ [renumber gone ticket] } := by
        simp [Lane.forget, leaveOut_cons different]
      rw [forget_setLane, grown]
      exact .advance (forget_lanes _ laneFound)
        (by simp [Lane.forget, line, leaveOut_cons different])
        running (forget_hasRoom room)
  | abandon found pending =>
      obtain ⟨different, rfl⟩ := unless?_eq_some.mp remains
      rw [forget_note _ (.abandoned _) (unless?_of_ne different), forget_setStatus _ different,
        forget_withdraw _ different]
      exact .abandon ((forget_calls _ different).trans found) pending
  | @take index lane ticket queue laneFound free first active =>
      cases remains
      have different : ticket ≠ gone := by
        rintro rfl
        have absent := (unseen.idle lane (List.mem_of_getElem? laneFound)).1
        exact absent (first ▸ List.mem_cons_self)
      rw [forget_worked _ different]
      exact .take (forget_lanes _ laneFound) (Lane.forget_hand free)
        (by simp [Lane.forget, first, leaveOut_cons different]) active
  | skip laneFound inHand found useless =>
      cases remains
      have different := unseen.ne_of_hand laneFound inHand List.mem_cons_self
      rw [forget_worked _ different]
      exact .skip (forget_lanes _ laneFound) (Lane.forget_hand inHand)
        ((forget_calls _ different).trans found) useless
  | notice laneFound inHand found useful =>
      cases remains
      have different := unseen.ne_of_hand laneFound inHand List.mem_cons_self
      rw [forget_worked _ different]
      exact .notice (forget_lanes _ laneFound) (Lane.forget_hand inHand)
        ((forget_calls _ different).trans found) useful
  | call laneFound inHand =>
      cases remains
      have different := unseen.ne_of_hand laneFound inHand List.mem_cons_self
      rw [forget_worked _ different]
      exact .call (forget_lanes _ laneFound) (Lane.forget_hand inHand)
  | finishCall panicked laneFound inHand =>
      cases remains
      have different := unseen.ne_of_hand laneFound inHand List.mem_cons_self
      rw [forget_worked _ different]
      exact .finishCall panicked (forget_lanes _ laneFound) (Lane.forget_hand inHand)
  | @finish index lane ticket event laneFound inHand =>
      cases remains
      have different := unseen.ne_of_hand laneFound inHand List.mem_cons_self
      have held : (lane.forget gone).hand = .notifying (renumber gone ticket) event [] none :=
        Lane.forget_hand inHand
      rw [forget_worked _ different]
      exact .finish (forget_lanes _ laneFound) held
  | closeQueue laneFound free running closing =>
      cases remains
      rw [forget_setLane]
      exact .closeQueue (forget_lanes _ laneFound) (Lane.forget_hand free) running closing
  | stop laneFound free empty back draining =>
      cases remains
      rw [forget_note _ (.stopped _) rfl, forget_setLane]
      exact .stop (forget_lanes _ laneFound) (Lane.forget_hand free)
        (by simp [Lane.forget, empty]) (by simp [Lane.forget, back]) draining
  | addListener =>
      cases remains
      exact forget_note _ (.added _) rfl ▸ .addListener
  | removeListener id =>
      cases remains
      exact forget_note _ (.removed _ _) rfl ▸ .removeListener id
  | shutdown opened =>
      cases remains
      exact forget_note _ .closing rfl ▸ .shutdown opened

theorem run?_cons {dispatcher final : Dispatcher} {action : DispatchAction}
    {rest : List DispatchAction} :
    dispatcher.run? (action :: rest) = some final ↔
      ∃ next, dispatcher.step? action = some next ∧ next.run? rest = some final := by
  rw [run?, List.foldlM_cons, Option.bind_eq_bind, Option.bind_eq_some_iff]
  rfl

/-- A run goes on with one more action. -/
theorem run?_concat {dispatcher middle final : Dispatcher} {actions : List DispatchAction}
    {action : DispatchAction} (run : dispatcher.run? actions = some middle)
    (stepped : middle.step? action = some final) :
    dispatcher.run? (actions ++ [action]) = some final :=
  run?_append.mpr ⟨middle, run, run?_cons.mpr ⟨final, stepped, rfl⟩⟩

theorem run?_calls_le {dispatcher final : Dispatcher} {actions : List DispatchAction}
    (run : dispatcher.run? actions = some final) :
    dispatcher.calls.length ≤ final.calls.length :=
  run?_preserves (fun state => dispatcher.calls.length ≤ state.calls.length)
    (fun fewer move => Nat.le_trans fewer move.calls_le) (Nat.le_refl _) run

/-- The moments of a run: its actions, each with the state in which it is taken. -/
def course (dispatcher : Dispatcher) : List DispatchAction → List (Dispatcher × DispatchAction)
  | [] => []
  | action :: rest => (dispatcher, action) ::
      match dispatcher.step? action with
      | some next => next.course rest
      | none => []

/-- What remains of a run when a call is left out. -/
def remaining (gone : Ticket) (dispatcher : Dispatcher) (actions : List DispatchAction) :
    List DispatchAction :=
  (dispatcher.course actions).filterMap (fun moment => moment.1.remaining? gone moment.2)

/-- A moment of a run lies between a run to it and a run from it. -/
theorem mem_course {dispatcher final : Dispatcher} {actions : List DispatchAction}
    {moment : Dispatcher × DispatchAction} (run : dispatcher.run? actions = some final)
    (member : moment ∈ dispatcher.course actions) :
    ∃ early late, dispatcher.run? early = some moment.1 ∧
      moment.1.run? (moment.2 :: late) = some final := by
  induction actions generalizing dispatcher with
  | nil => cases member
  | cons action rest induction =>
      have whole := run
      obtain ⟨next, stepped, run⟩ := run?_cons.mp run
      rw [course, stepped, List.mem_cons] at member
      rcases member with rfl | later
      · exact ⟨[], rest, rfl, whole⟩
      · obtain ⟨early, late, before, after⟩ := induction run later
        exact ⟨action :: early, late, run?_cons.mpr ⟨next, stepped, before⟩, after⟩

theorem run?_mayEndAbandoned {gone : Ticket} {dispatcher final : Dispatcher}
    {actions : List DispatchAction} {call : EnqueueCall}
    (found : dispatcher.calls[gone]? = some call)
    (run : dispatcher.run? actions = some final)
    (abandoned : final.status? gone = some .abandoned) :
    call.status.mayEndAbandoned = true := by
  -- The run goes forwards and the conclusion backwards, so a move keeps the implication.
  have back : ∃ later, final.calls[gone]? = some later ∧
      (later.status.mayEndAbandoned = true → call.status.mayEndAbandoned = true) := by
    refine run?_preserves
      (fun state => ∃ later, state.calls[gone]? = some later ∧
        (later.status.mayEndAbandoned = true → call.status.mayEndAbandoned = true))
      (fun {before after action} backs move => ?_) ⟨call, found, id⟩ run
    obtain ⟨later, laterFound, back⟩ := backs
    obtain ⟨status, kept, legal⟩ := move.keepsCall laterFound
    exact ⟨_, kept, fun may => back (legal.mayEndAbandoned may)⟩
  obtain ⟨later, laterFound, back⟩ := back
  obtain ⟨last, lastFound, same⟩ := status?_eq_some.mp abandoned
  obtain rfl := Option.some.inj (laterFound.symm.trans lastFound)
  exact back (by rw [same]; rfl)

/-- The unit of a call that ends as one that was given up never reaches a queue. -/
theorem Sound.unseen {gone : Ticket} {dispatcher final : Dispatcher}
    {actions : List DispatchAction} (sound : Sound dispatcher)
    (known : gone < dispatcher.calls.length) (run : dispatcher.run? actions = some final)
    (abandoned : final.status? gone = some .abandoned) : dispatcher.Unseen gone := by
  have notKept : gone ∉ dispatcher.kept := by
    intro member
    have accepted := sound.mem_accepted_iff.mp (sound.accepted_perm.mem_iff.mpr member)
    obtain ⟨call, found, status⟩ := status?_eq_some.mp accepted
    have may := run?_mayEndAbandoned found run abandoned
    rw [status] at may
    cases may
  simp only [kept, queued, inHand, List.mem_append, List.mem_flatMap, not_or, not_exists,
    not_and] at notKept
  exact ⟨known, fun lane member => ⟨notKept.1.1 lane member, notKept.1.2 lane member⟩⟩

/-- A call that is given up in the end, and on which nobody's place ever depended, might
as well never have been made. -/
theorem run?_forget {gone : Ticket} {first final : Dispatcher}
    {actions : List DispatchAction} (sound : Sound first)
    (known : gone < first.calls.length) (run : first.run? actions = some final)
    (abandoned : final.status? gone = some .abandoned)
    (undisturbed : ∀ moment ∈ first.course actions, moment.1.Undisturbed gone moment.2) :
    (first.forget gone).run? (first.remaining gone actions) = some (final.forget gone) := by
  induction actions generalizing first with
  | nil =>
      cases run
      rfl
  | cons action rest induction =>
      have whole := run
      obtain ⟨next, stepped, run⟩ := run?_cons.mp run
      have move := Move.ofStep? stepped
      have moments : first.course (action :: rest) = (first, action) :: next.course rest := by
        rw [course, stepped]
      rw [moments, List.forall_mem_cons] at undisturbed
      have unmet (call : EnqueueCall) (found : next.calls[gone]? = some call) :
          call.status.mayEndAbandoned = true := run?_mayEndAbandoned found run abandoned
      have later := induction (move.keepsSound sound)
        (Nat.lt_of_lt_of_le known move.calls_le) run undisturbed.2
      -- An action is left out and changes nothing that remains, or it is made as before.
      cases left : first.remaining? gone action with
      | none =>
          have same : first.remaining gone (action :: rest) = next.remaining gone rest := by
            simp [Dispatcher.remaining, moments, left]
          rw [same, ← move.forget_none unmet left]
          exact later
      | some other =>
          have same : first.remaining gone (action :: rest) =
              other :: next.remaining gone rest := by
            simp [Dispatcher.remaining, moments, left]
          have moved := move.forget_some (sound.unseen known whole abandoned) undisturbed.1
            left
          rw [same]
          exact run?_cons.mpr ⟨_, moved.step?, later⟩

/-- Every call that the state or the journal speaks of has been made. -/
structure Known (dispatcher : Dispatcher) : Prop where
  lanes : ∀ lane ∈ dispatcher.lanes, ∀ ticket ∈ lane.tickets, ticket < dispatcher.calls.length
  journal : ∀ entry ∈ dispatcher.journal, ∀ ticket ∈ entry.ticket?,
    ticket < dispatcher.calls.length

/-- What a move writes into the journal is about calls that have been made. -/
theorem Move.journal_known {before after : Dispatcher} {action : DispatchAction}
    (sound : Sound after) (move : Move before action after) :
    ∃ entries, after.journal = before.journal ++ entries ∧
      ∀ entry ∈ entries, ∀ ticket ∈ entry.ticket?, ticket < after.calls.length := by
  have single {entry : Entry} (journal : after.journal = before.journal ++ [entry])
      (known : ∀ ticket ∈ entry.ticket?, ticket < after.calls.length) :
      ∃ entries, after.journal = before.journal ++ entries ∧
        ∀ entry ∈ entries, ∀ ticket ∈ entry.ticket?, ticket < after.calls.length :=
    ⟨[entry], journal, fun other member => List.mem_singleton.mp member ▸ known⟩
  have made {ticket : Ticket} {call : EnqueueCall}
      (found : before.calls[ticket]? = some call) : ticket < after.calls.length :=
    Nat.lt_of_lt_of_le (List.getElem?_eq_some_iff.mp found).1 move.calls_le
  have worked {index : Nat} {ticket : Ticket} {act : WorkerAct}
      (journal : after.journal = before.journal ++ [.worked index ticket act]) :
      ticket < after.calls.length := by
    have member : .worked index ticket act ∈ after.journal := by simp [journal]
    obtain ⟨call, found, _⟩ := sound.accepted_of_worked member
    exact (List.getElem?_eq_some_iff.mp found).1
  cases move with
  | enter work =>
      refine ⟨_, enter_journal before work, ?_⟩
      split
      · simp [Entry.ticket?, enter_calls]
      · simp
  | lookClosed found | sendClosed found | deliver found | abandon found =>
      refine single rfl (fun ticket about => ?_)
      obtain rfl := Option.some.inj about
      exact made found
  | take | skip | notice | call | finishCall | finish =>
      refine single rfl (fun ticket about => ?_)
      obtain rfl := Option.some.inj about
      exact worked rfl
  | lookOpen | sendGiven | sendAsleep | sendPlaced | sendQueued | advance | closeQueue =>
      exact ⟨[], (List.append_nil _).symm, by simp⟩
  | stop | addListener | removeListener | shutdown => exact single rfl (by simp [Entry.ticket?])

theorem journal_known_of_run {capacity workers : Nat} {routing : String → Nat}
    {actions : List DispatchAction} {dispatcher : Dispatcher}
    (run : (start capacity workers routing).run? actions = some dispatcher) :
    ∀ entry ∈ dispatcher.journal, ∀ ticket ∈ entry.ticket?,
      ticket < dispatcher.calls.length := by
  have both : Sound dispatcher ∧ ∀ entry ∈ dispatcher.journal, ∀ ticket ∈ entry.ticket?,
      ticket < dispatcher.calls.length := by
    refine run?_preserves (fun state => Sound state ∧ ∀ entry ∈ state.journal,
      ∀ ticket ∈ entry.ticket?, ticket < state.calls.length)
      (fun {before after action} earlier move => ?_)
      ⟨sound_start capacity workers routing, by simp [start]⟩ run
    have soundAfter := move.keepsSound earlier.1
    refine ⟨soundAfter, fun entry member ticket about => ?_⟩
    obtain ⟨entries, journal, known⟩ := move.journal_known soundAfter
    rw [journal, List.mem_append] at member
    rcases member with old | new
    · exact Nat.lt_of_lt_of_le (earlier.2 entry old ticket about) move.calls_le
    · exact known entry new ticket about
  exact both.2

theorem known_of_run {capacity workers : Nat} {routing : String → Nat}
    {actions : List DispatchAction} {dispatcher : Dispatcher}
    (run : (start capacity workers routing).run? actions = some dispatcher) :
    Known dispatcher := by
  refine ⟨fun lane member ticket stands => ?_, journal_known_of_run run⟩
  have sound := sound_of_run run
  have known (accepted : ticket ∈ dispatcher.kept) : ticket < dispatcher.calls.length := by
    have status := sound.mem_accepted_iff.mp (sound.accepted_perm.mem_iff.mpr accepted)
    obtain ⟨call, found, _⟩ := status?_eq_some.mp status
    exact (List.getElem?_eq_some_iff.mp found).1
  simp only [Lane.tickets, List.mem_append] at stands
  rcases stands with (inQueue | asks) | held
  · exact known (List.mem_append_left _ (List.mem_append_left _
      (List.mem_flatMap.mpr ⟨lane, member, inQueue⟩)))
  · obtain ⟨index, laneFound⟩ := List.getElem?_of_mem member
    obtain ⟨call, found, _⟩ :=
      (orderly_of_run run).inLine.alive index ticket ⟨lane, laneFound, asks⟩
    exact (List.getElem?_eq_some_iff.mp found).1
  · exact known (List.mem_append_left _ (List.mem_append_right _
      (List.mem_flatMap.mpr ⟨lane, member, held⟩)))

/-- A call that has just begun leaves nothing behind. -/
theorem Known.forget_enter_self {dispatcher : Dispatcher} (known : Known dispatcher)
    (opened : dispatcher.closing = false) (work : Work) :
    (dispatcher.enter work).forget dispatcher.calls.length = dispatcher := by
  have lanes : dispatcher.lanes.map (Lane.forget dispatcher.calls.length) =
      dispatcher.lanes.map id :=
    List.map_congr_left
      (fun lane member => Lane.forget_eq_self (known.lanes lane member))
  have journal : dispatcher.journal.filterMap (Entry.forget? dispatcher.calls.length) =
      dispatcher.journal.filterMap some :=
    List.filterMap_congr
      (fun entry member => Entry.forget?_eq_self (known.journal entry member))
  rw [List.map_id] at lanes
  rw [List.filterMap_some] at journal
  have calls : (dispatcher.enter work).calls.eraseIdx dispatcher.calls.length =
      dispatcher.calls := by
    rw [enter_calls, List.eraseIdx_append_of_length_le (Nat.le_refl _)]
    simp
  have begun : dispatcher.enter work =
      { dispatcher with calls := (dispatcher.enter work).calls } := by
    simp [enter, opened]
  rw [begun, forget, calls, lanes, journal]

/-- Places are given in the order in which the calls wait, and at once: when a call asks
an open queue, either nobody waits there or no place is free. -/
def Prompt (dispatcher : Dispatcher) (action : DispatchAction) : Prop :=
  ∀ lane ∈ dispatcher.asked? action, lane.phase = .running →
    lane.waiting = [] ∨ dispatcher.hasRoom lane = false

instance (dispatcher : Dispatcher) (action : DispatchAction) :
    Decidable (dispatcher.Prompt action) :=
  inferInstanceAs (Decidable (∀ lane ∈ dispatcher.asked? action, lane.phase = .running →
    lane.waiting = [] ∨ dispatcher.hasRoom lane = false))

/-- When somebody asks, the call has no place that it has not filled. -/
def Placeless (ticket : Ticket) (dispatcher : Dispatcher) (action : DispatchAction) : Prop :=
  ∀ lane ∈ dispatcher.asked? action, ticket ∉ lane.places

instance (ticket : Ticket) (dispatcher : Dispatcher) (action : DispatchAction) :
    Decidable (dispatcher.Placeless ticket action) :=
  inferInstanceAs (Decidable (∀ lane ∈ dispatcher.asked? action, ticket ∉ lane.places))

theorem asked?_mem {dispatcher : Dispatcher} {action : DispatchAction} {lane : Lane}
    (asks : dispatcher.asked? action = some lane) : lane ∈ dispatcher.lanes := by
  cases action with
  | send ticket =>
      obtain ⟨call, _, found⟩ := Option.bind_eq_some_iff.mp asks
      exact List.mem_of_getElem? found
  | _ => cases asks

theorem hasRoom_forget {gone : Ticket} {dispatcher : Dispatcher} {lane : Lane}
    (notQueued : gone ∉ lane.queue) (notPlaced : gone ∉ lane.places) :
    dispatcher.hasRoom (lane.forget gone) = dispatcher.hasRoom lane := by
  simp only [hasRoom, Lane.forget, length_leaveOut notQueued, length_leaveOut notPlaced]

theorem Unseen.undisturbed_of_prompt {gone : Ticket} {dispatcher : Dispatcher}
    {action : DispatchAction} (unseen : dispatcher.Unseen gone)
    (prompt : dispatcher.Prompt action) (placeless : dispatcher.Placeless gone action) :
    dispatcher.Undisturbed gone action := by
  intro lane asks running _ room
  have notQueued := (unseen.idle lane (asked?_mem asks)).1
  rw [hasRoom_forget notQueued (placeless lane asks)] at room
  rcases prompt lane asks running with nobody | full
  · exact ⟨nobody, room⟩
  · rw [full] at room
    cases room

theorem Unseen.undisturbed_of_absent {gone : Ticket} {dispatcher : Dispatcher}
    {action : DispatchAction} (unseen : dispatcher.Unseen gone)
    (absent : ∀ lane ∈ dispatcher.lanes, gone ∉ lane.line) :
    dispatcher.Undisturbed gone action := by
  intro lane asks _ nobody room
  have notQueued := (unseen.idle lane (asked?_mem asks)).1
  have notInLine := absent lane (asked?_mem asks)
  simp only [Lane.line, List.mem_append, not_or] at notInLine
  rw [hasRoom_forget notQueued notInLine.1] at room
  refine ⟨?_, room⟩
  rw [← List.length_eq_zero_iff, ← length_leaveOut notInLine.2]
  exact List.length_eq_zero_iff.mpr nobody

section Runs

variable {capacity workers : Nat} {routing : String → Nat} {actions late : List DispatchAction}
  {first final : Dispatcher} {gone : Ticket}

/-- In all the course of a run the call that is given up in the end is unseen. -/
theorem unseen_of_mem_course (run : (start capacity workers routing).run? actions = some first)
    (known : gone < first.calls.length) (runLate : first.run? late = some final)
    (abandoned : final.status? gone = some .abandoned)
    {moment : Dispatcher × DispatchAction} (member : moment ∈ first.course late) :
    ∃ before, first.run? before = some moment.1 ∧ moment.1.Unseen gone := by
  obtain ⟨before, after, runBefore, runAfter⟩ := mem_course runLate member
  have sound := sound_of_run (run?_append.mpr ⟨first, run, runBefore⟩)
  have stillKnown := Nat.lt_of_lt_of_le known (run?_calls_le runBefore)
  exact ⟨before, runBefore, sound.unseen stillKnown runAfter abandoned⟩

/-- Whatever follows when a call has been given up goes as without the call. -/
theorem run?_forget_of_over {call : EnqueueCall}
    (run : (start capacity workers routing).run? actions = some first)
    (found : first.calls[gone]? = some call) (givenUp : call.status = .abandoned)
    (runLate : first.run? late = some final) :
    (first.forget gone).run? (first.remaining gone late) = some (final.forget gone) := by
  have settled : call.status.isFinal = true := by rw [givenUp]; rfl
  have abandoned := status?_eq_some.mpr ⟨call, run?_keepsFinal found settled runLate, givenUp⟩
  have known := (List.getElem?_eq_some_iff.mp found).1
  refine run?_forget (sound_of_run run) known runLate abandoned (fun moment member => ?_)
  obtain ⟨before, runBefore, unseen⟩ := unseen_of_mem_course run known runLate abandoned member
  have inLine := (orderly_of_run (run?_append.mpr ⟨first, run, runBefore⟩)).inLine
  refine unseen.undisturbed_of_absent (fun lane laneMember stands => ?_)
  obtain ⟨index, laneFound⟩ := List.getElem?_of_mem laneMember
  obtain ⟨same, sameFound, _, alive⟩ := inLine.alive index gone ⟨lane, laneFound, stands⟩
  obtain rfl := Option.some.inj ((run?_keepsFinal found settled runBefore).symm.trans sameFound)
  rw [settled] at alive
  cases alive

/-- A call that only waited, and was given up, might as well never have been made. -/
theorem run?_unmade {work : Work}
    (run : (start capacity workers routing).run? actions = some first)
    (runLate : first.run? (.enter work :: late) = some final)
    (abandoned : final.status? first.calls.length = some .abandoned)
    (moments : ∀ moment ∈ (first.enter work).course late,
      moment.1.Prompt moment.2 ∧ moment.1.Placeless first.calls.length moment.2) :
    first.run? ((first.enter work).remaining first.calls.length late) =
      some (final.forget first.calls.length) := by
  obtain ⟨begun, stepped, runLate⟩ := run?_cons.mp runLate
  obtain rfl : first.enter work = begun := Option.some.inj stepped
  have opened : first.closing = false := by
    have may := run?_mayEndAbandoned (enter_getElem? first work) runLate abandoned
    cases closing : first.closing with
    | false => rfl
    | true => simp [closing, CallStatus.mayEndAbandoned] at may
  have unmade := (known_of_run run).forget_enter_self opened work
  have known : first.calls.length < (first.enter work).calls.length := by
    simp [enter_calls]
  have runBegun := run?_concat run stepped
  have same := run?_forget (sound_of_run runBegun) known runLate abandoned
    (fun moment member => ?_)
  · rwa [unmade] at same
  · obtain ⟨_, _, unseen⟩ := unseen_of_mem_course runBegun known runLate abandoned member
    exact unseen.undisturbed_of_prompt (moments moment member).1 (moments moment member).2

end Runs

end Dispatcher

end ReviewFeed
