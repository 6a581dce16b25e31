import ReviewFeed.Proofs.Dispatch.Places

/-!
# A dispatcher without one of its calls

`Dispatcher.forget` takes a call out of a dispatcher as if it had never been made: out
of the calls, so that the later ones move up, and out of every lane and the journal.
A call that is given up before it has come anywhere leaves nothing behind: what the
dispatcher does besides, the dispatcher without the call does as well.
-/

namespace ReviewFeed

/-- The number of a call when another one is left out. -/
def renumber (gone ticket : Nat) : Nat :=
  if ticket < gone then ticket else ticket - 1

theorem renumber_inj {gone ticket other : Nat} (different : ticket ≠ gone)
    (otherDifferent : other ≠ gone) :
    renumber gone ticket = renumber gone other ↔ ticket = other := by
  unfold renumber
  split <;> split <;> omega

/-- The tickets of a list without one of them, by their new numbers. -/
def leaveOut (gone : Ticket) (tickets : List Ticket) : List Ticket :=
  (tickets.filter (fun ticket => ticket != gone)).map (renumber gone)

section LeaveOut

variable {gone ticket : Ticket} {tickets : List Ticket}

@[simp] theorem leaveOut_nil : leaveOut gone [] = [] := rfl

@[simp] theorem leaveOut_append (early late : List Ticket) :
    leaveOut gone (early ++ late) = leaveOut gone early ++ leaveOut gone late := by
  simp [leaveOut]

theorem leaveOut_cons (different : ticket ≠ gone) :
    leaveOut gone (ticket :: tickets) = renumber gone ticket :: leaveOut gone tickets := by
  simp [leaveOut, different]

@[simp] theorem leaveOut_cons_self :
    leaveOut gone (gone :: tickets) = leaveOut gone tickets := by
  simp [leaveOut]

theorem length_leaveOut (absent : gone ∉ tickets) :
    (leaveOut gone tickets).length = tickets.length := by
  rw [leaveOut, List.length_map, filter_ne_eq_self absent]

theorem length_leaveOut_le : (leaveOut gone tickets).length ≤ tickets.length := by
  rw [leaveOut, List.length_map]
  exact List.length_filter_le _ _

theorem mem_leaveOut :
    ticket ∈ leaveOut gone tickets ↔
      ∃ other ∈ tickets, other ≠ gone ∧ renumber gone other = ticket := by
  simp [leaveOut, and_assoc]

theorem nodup_leaveOut (distinct : tickets.Nodup) : (leaveOut gone tickets).Nodup := by
  refine (distinct.filter _).map_on (fun ticket member other otherMember same => ?_)
  rw [List.mem_filter, bne_iff_ne] at member otherMember
  exact (renumber_inj member.2 otherMember.2).mp same

theorem renumber_mem_leaveOut (different : ticket ≠ gone) :
    renumber gone ticket ∈ leaveOut gone tickets ↔ ticket ∈ tickets := by
  rw [mem_leaveOut]
  constructor
  · rintro ⟨other, member, otherDifferent, same⟩
    exact (renumber_inj otherDifferent different).mp same ▸ member
  · exact fun member => ⟨ticket, member, different, rfl⟩

theorem leaveOut_filter (different : ticket ≠ gone) :
    leaveOut gone (tickets.filter (fun other => other != ticket)) =
      (leaveOut gone tickets).filter (fun other => other != renumber gone ticket) := by
  rw [leaveOut, leaveOut, List.filter_map, List.filter_filter, List.filter_filter]
  congr 1
  apply List.filter_congr
  intro other _
  rw [Bool.eq_iff_iff]
  by_cases same : other = gone
  · simp [same]
  · simp [same, renumber_inj same different]

theorem renumber_of_lt (earlier : ticket < gone) : renumber gone ticket = ticket :=
  if_pos earlier

theorem leaveOut_eq_self (earlier : ∀ ticket ∈ tickets, ticket < gone) :
    leaveOut gone tickets = tickets := by
  have absent : gone ∉ tickets := fun member => Nat.lt_irrefl _ (earlier gone member)
  calc
    leaveOut gone tickets = tickets.map (renumber gone) := by
      rw [leaveOut, filter_ne_eq_self absent]
    _ = tickets.map id :=
      List.map_congr_left (fun ticket member => renumber_of_lt (earlier ticket member))
    _ = tickets := List.map_id tickets

@[simp] theorem leaveOut_filter_self :
    leaveOut gone (tickets.filter (fun other => other != gone)) = leaveOut gone tickets := by
  simp [leaveOut]

end LeaveOut

def Hand.renumber (gone : Ticket) : Hand → Hand
  | .empty => .empty
  | .taken ticket => .taken (ReviewFeed.renumber gone ticket)
  | .notifying ticket event next inCall =>
      .notifying (ReviewFeed.renumber gone ticket) event next inCall

theorem Hand.renumber_eq_self {gone : Ticket} {hand : Hand}
    (earlier : ∀ ticket ∈ hand.tickets, ticket < gone) : hand.renumber gone = hand := by
  cases hand with
  | empty => rfl
  | taken ticket =>
      rw [Hand.renumber, renumber_of_lt (earlier ticket List.mem_cons_self)]
  | notifying ticket event next inCall =>
      rw [Hand.renumber, renumber_of_lt (earlier ticket List.mem_cons_self)]

theorem map_modify {α β : Type} {change : α → α} {change' : β → β}
    {function : α → β} (commutes : ∀ item, function (change item) = change' (function item))
    (items : List α) (index : Nat) :
    (items.modify index change).map function = (items.map function).modify index change' := by
  apply List.ext_getElem?
  intro place
  simp only [List.getElem?_map, List.getElem?_modify]
  cases items[place]? with
  | none => rfl
  | some item =>
      by_cases same : index = place
      · simp [same, commutes]
      · simp [same]

/-- A lane without a call. -/
def Lane.forget (gone : Ticket) (lane : Lane) : Lane where
  queue := leaveOut gone lane.queue
  waiting := leaveOut gone lane.waiting
  places := leaveOut gone lane.places
  hand := lane.hand.renumber gone
  phase := lane.phase

theorem Lane.forget_hand {gone : Ticket} {lane : Lane} {hand : Hand} (inHand : lane.hand = hand) :
    (lane.forget gone).hand = hand.renumber gone :=
  congrArg (Hand.renumber gone) inHand

/-- Everyone who has to do with a lane. -/
def Lane.tickets (lane : Lane) : List Ticket :=
  lane.queue ++ lane.line ++ lane.hand.tickets

theorem Lane.forget_eq_self {gone : Ticket} {lane : Lane}
    (earlier : ∀ ticket ∈ lane.tickets, ticket < gone) : lane.forget gone = lane := by
  simp only [tickets, line, List.mem_append] at earlier
  rw [forget, leaveOut_eq_self (fun ticket member => earlier ticket (by simp [member])),
    leaveOut_eq_self (fun ticket member => earlier ticket (by simp [member])),
    leaveOut_eq_self (fun ticket member => earlier ticket (by simp [member])),
    Hand.renumber_eq_self (fun ticket member => earlier ticket (by simp [member]))]

theorem Lane.forget_without {gone ticket : Ticket} (different : ticket ≠ gone) (lane : Lane) :
    (lane.without ticket).forget gone = (lane.forget gone).without (renumber gone ticket) := by
  simp only [Lane.forget, Lane.without, leaveOut_filter different]

theorem Lane.forget_without_self (gone : Ticket) (lane : Lane) :
    (lane.without gone).forget gone = lane.forget gone := by
  simp only [Lane.forget, Lane.without, leaveOut_filter_self]

/-- Something about a call, by its new number, or nothing if the call is the one that is
left out. -/
def unless? {α : Type} (gone ticket : Ticket) (about : Ticket → α) : Option α :=
  if ticket = gone then none else some (about (renumber gone ticket))

section Unless

variable {α : Type} {gone ticket : Ticket} {about : Ticket → α} {result : α}

@[simp] theorem unless?_self : unless? gone gone about = none :=
  if_pos rfl

theorem unless?_of_ne (different : ticket ≠ gone) :
    unless? gone ticket about = some (about (renumber gone ticket)) :=
  if_neg different

theorem unless?_eq_none : unless? gone ticket about = none ↔ ticket = gone := by
  simp [unless?]

theorem unless?_eq_some :
    unless? gone ticket about = some result ↔
      ticket ≠ gone ∧ about (renumber gone ticket) = result := by
  simp [unless?]

end Unless

def Entry.forget? (gone : Ticket) : Entry → Option Entry
  | .accepted lane ticket => unless? gone ticket (.accepted lane)
  | .refused ticket => unless? gone ticket .refused
  | .abandoned ticket => unless? gone ticket .abandoned
  | .worked lane ticket act => unless? gone ticket (fun ticket => .worked lane ticket act)
  | entry => some entry

/-- The call that an entry is about. -/
def Entry.ticket? : Entry → Option Ticket
  | .accepted _ ticket | .refused ticket | .abandoned ticket | .worked _ ticket _ => some ticket
  | _ => none

theorem Entry.forget?_eq_self {gone : Ticket} {entry : Entry}
    (earlier : ∀ ticket ∈ entry.ticket?, ticket < gone) : entry.forget? gone = some entry := by
  have kept {ticket : Ticket} (about : ticket ∈ entry.ticket?) (of : Ticket → Entry) :
      unless? gone ticket of = some (of ticket) := by
    have before := earlier ticket about
    rw [unless?_of_ne (Nat.ne_of_lt before), renumber_of_lt before]
  cases entry with
  | accepted | refused | abandoned => exact kept rfl _
  | worked lane ticket act => exact kept rfl (fun ticket => .worked lane ticket act)
  | added | removed | closing | stopped => rfl

namespace Dispatcher

/-- The dispatcher as if a call had never been made. -/
def forget (gone : Ticket) (dispatcher : Dispatcher) : Dispatcher :=
  { dispatcher with
    lanes := dispatcher.lanes.map (Lane.forget gone)
    calls := dispatcher.calls.eraseIdx gone
    journal := dispatcher.journal.filterMap (Entry.forget? gone) }

section Forget

variable {gone ticket : Ticket} (dispatcher : Dispatcher)

theorem forget_calls (different : ticket ≠ gone) :
    (dispatcher.forget gone).calls[renumber gone ticket]? = dispatcher.calls[ticket]? := by
  simp only [forget, renumber, List.getElem?_eraseIdx]
  rcases Nat.lt_or_gt_of_ne different with before | after
  · simp [before]
  · have later : ¬ticket < gone := Nat.not_lt_of_gt after
    have moved : ¬ticket - 1 < gone := Nat.not_lt_of_ge (Nat.le_sub_one_of_lt after)
    simp only [later, moved, if_false]
    rw [Nat.sub_add_cancel (Nat.one_le_of_lt after)]

theorem forget_lanes {index : Nat} {lane : Lane}
    (found : dispatcher.lanes[index]? = some lane) :
    (dispatcher.forget gone).lanes[index]? = some (lane.forget gone) := by
  rw [forget, List.getElem?_map, found]
  rfl

theorem forget_laneOf (provider : Option Provider) :
    (dispatcher.forget gone).laneOf provider = dispatcher.laneOf provider := by
  simp only [laneOf, forget, List.length_map]

theorem forget_setLane (index : Nat) (lane : Lane) :
    (dispatcher.setLane index lane).forget gone =
      (dispatcher.forget gone).setLane index (lane.forget gone) := by
  simp only [forget, setLane, List.map_set]

theorem forget_setLane_same {index : Nat} {lane new : Lane}
    (found : dispatcher.lanes[index]? = some lane)
    (same : new.forget gone = lane.forget gone) :
    (dispatcher.setLane index new).forget gone = dispatcher.forget gone := by
  obtain ⟨inside, rfl⟩ := List.getElem?_eq_some_iff.mp found
  simp only [forget, setLane, List.map_set, same]
  rw [← List.map_set, List.set_getElem_self]

theorem forget_note (entry : Entry) {kept : Entry} (same : entry.forget? gone = some kept) :
    (dispatcher.note entry).forget gone = (dispatcher.forget gone).note kept := by
  simp [forget, note, List.filterMap_append, same]

theorem forget_note_none (entry : Entry) (none : entry.forget? gone = none) :
    (dispatcher.note entry).forget gone = dispatcher.forget gone := by
  simp [forget, note, List.filterMap_append, none]

theorem forget_setStatus (different : ticket ≠ gone) (status : CallStatus) :
    (dispatcher.setStatus ticket status).forget gone =
      (dispatcher.forget gone).setStatus (renumber gone ticket) status := by
  simp only [forget, setStatus, renumber]
  rcases Nat.lt_or_gt_of_ne different with before | after
  · rw [List.eraseIdx_modify_of_gt _ _ _ _ before, if_pos before]
  · rw [List.eraseIdx_modify_of_lt _ _ _ _ after, if_neg (Nat.not_lt_of_gt after)]

theorem forget_setStatus_self (status : CallStatus) :
    (dispatcher.setStatus gone status).forget gone = dispatcher.forget gone := by
  simp only [forget, setStatus, List.eraseIdx_modify_of_eq]

theorem forget_withdraw (different : ticket ≠ gone) (call : EnqueueCall) :
    (dispatcher.withdraw ticket call).forget gone =
      (dispatcher.forget gone).withdraw (renumber gone ticket) call := by
  simp only [forget, withdraw, map_modify (Lane.forget_without different)]

theorem forget_withdraw_self (call : EnqueueCall) :
    (dispatcher.withdraw gone call).forget gone = dispatcher.forget gone := by
  have unchanged (lane : Lane) : (lane.without gone).forget gone = id (lane.forget gone) :=
    lane.forget_without_self gone
  simp only [forget, withdraw, map_modify unchanged, List.modify_id]

theorem forget_refusal (different : ticket ≠ gone) :
    (dispatcher.refusal ticket).forget gone =
      (dispatcher.forget gone).refusal (renumber gone ticket) := by
  rw [refusal, forget_note _ (.refused ticket) (unless?_of_ne different),
    forget_setStatus _ different]
  rfl

theorem forget_enter (known : gone < dispatcher.calls.length) (work : Work) :
    (dispatcher.enter work).forget gone = (dispatcher.forget gone).enter work := by
  have fresh : dispatcher.calls.length ≠ gone := Nat.ne_of_gt known
  have last : (dispatcher.calls.eraseIdx gone).length =
      renumber gone dispatcher.calls.length := by
    rw [List.length_eraseIdx, if_pos known, renumber, if_neg (Nat.not_lt_of_gt known)]
  have begun (call : EnqueueCall) :
      ({ dispatcher with calls := dispatcher.calls ++ [call] } : Dispatcher).forget gone =
        { dispatcher.forget gone with
          calls := (dispatcher.forget gone).calls ++ [call] } := by
    simp only [forget, List.eraseIdx_append_of_lt_length known]
  have same : (dispatcher.forget gone).closing = dispatcher.closing := rfl
  simp only [enter, forget_laneOf, same]
  split
  · rw [forget_refusal _ fresh, begun, ← last]
    rfl
  · exact begun _

theorem forget_accept (different : ticket ≠ gone) (index : Nat) (lane : Lane) :
    (dispatcher.accept ticket index lane).forget gone =
      (dispatcher.forget gone).accept (renumber gone ticket) index (lane.forget gone) := by
  rw [accept, forget_note _ (.accepted index ticket) (unless?_of_ne different),
    forget_setStatus _ different, forget_setLane]
  simp only [accept, Lane.forget, Lane.without, leaveOut_filter different, leaveOut_append,
    leaveOut_cons different, leaveOut_nil]

theorem forget_worked (different : ticket ≠ gone) (index : Nat) (lane : Lane)
    (act : WorkerAct) :
    ((dispatcher.setLane index lane).note (.worked index ticket act)).forget gone =
      ((dispatcher.forget gone).setLane index (lane.forget gone)).note
        (.worked index (renumber gone ticket) act) := by
  have kept : (Entry.worked index ticket act).forget? gone =
      some (.worked index (renumber gone ticket) act) := if_neg different
  rw [forget_note _ _ kept, forget_setLane]

end Forget

end Dispatcher

end ReviewFeed
