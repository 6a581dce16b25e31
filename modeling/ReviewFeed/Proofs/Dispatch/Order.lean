import ReviewFeed.Proofs.Dispatch.Performances

/-!
# Order of performances

Units of one provider name go to one lane, and a lane performs its units one after
the other in the order of their acceptance.  So whatever is done about a unit is
done after all is done about the units of its provider that were accepted before.
-/

namespace ReviewFeed

/-- The name that a unit is routed by.  That of a finished event is in the event. -/
def Work.routingName? (work : Work) : Option String :=
  match work.input with
  | .event event => event.provider.bind (·.name)
  | .object _ | .line _ => work.provider.bind (·.name)

theorem Work.routingName?_eq (work : Work) :
    work.routingName? = work.provider.bind (·.name) := by
  unfold routingName?
  split
  · rename_i event input
    rw [work.ofItsProvider event input]
  · rfl
  · rfl

private theorem pair_split {α : Type} {first second : α} {items : List α}
    (order : [first, second].Sublist items) :
    ∃ before after, items = before ++ second :: after ∧ first ∈ before := by
  obtain ⟨front, back, rfl, inFront, inBack⟩ :=
    List.append_sublist_iff.mp (show ([first] ++ [second]).Sublist items from order)
  obtain ⟨between, after, rfl⟩ :=
    List.append_of_mem (List.singleton_sublist.mp inBack)
  refine ⟨front ++ between, after, by rw [List.append_assoc], ?_⟩
  exact List.mem_append_left _ (List.singleton_sublist.mp inFront)

/-- In a list without repetitions, what stands before an item is determined. -/
private theorem before_unique {α : Type} {item : α} {before after before' after' : List α}
    (once : (before ++ item :: after).Nodup)
    (same : before ++ item :: after = before' ++ item :: after') : before = before' := by
  have alone := (List.nodup_cons.mp (List.nodup_middle.mp once)).1
  rw [List.mem_append, not_or] at alone
  exact ((List.append_cons_inj_of_notMem alone.1 alone.2).mp same).1

theorem Hand.tickets_of_mem {hand : Hand} {ticket : Ticket} (member : ticket ∈ hand.tickets) :
    hand.tickets = [ticket] := by
  cases hand with
  | empty => cases member
  | taken other | notifying other _ _ _ =>
      rw [tickets, List.mem_singleton] at member
      rw [member, tickets]

/-- Every listener of the snapshot has returned or panicked at the end. -/
theorem Performance.returned_of_noticed {performance : Performance} {ticket : Ticket}
    {event : Event} {ids : List ListenerId} {id : ListenerId}
    (noticed : (ticket, .noticed event ids) ∈ performance.work) (member : id ∈ ids) :
    ∃ panicked, (ticket, .returned event id panicked) ∈ performance.work := by
  obtain rfl := ticket_of_mem_work noticed
  obtain ⟨outcomes, report, rfl⟩ := report_of_noticed noticed
  obtain ⟨⟨id, panicked⟩, outcome, rfl⟩ := List.mem_map.mp member
  refine ⟨panicked, ?_⟩
  have inside : (performance.ticket, WorkerAct.returned event id panicked) ∈
      deliveries performance.ticket event outcomes :=
    List.mem_flatMap.mpr ⟨_, outcome, by simp⟩
  simp [work, report, inside]

namespace Performed

variable {Becomes : Ticket → Option Event → Prop} {history : List LaneEntry}
  {queue : List Ticket} {hand : Hand} {past : List Performance}
  {current : List (Ticket × WorkerAct)}

/-- Where something has been done about a unit, the units accepted before it come
first, and their performances are over. -/
theorem split (performed : Performed Becomes history queue hand past current)
    (once : (acceptedIn history).Nodup) {first second : Ticket}
    (order : [first, second].Sublist (acceptedIn history)) {act : WorkerAct}
    (begun : (second, act) ∈ workIn history) :
    ∃ (front : List Performance) (rest : List (Ticket × WorkerAct)),
      workIn history = front.flatMap Performance.work ++ rest ∧
      (∃ performance ∈ past, performance.ticket = first) ∧
      (∀ act, (second, act) ∉ front.flatMap Performance.work) ∧
      (∀ act, (first, act) ∉ rest) := by
  obtain ⟨before, after, accepted, inBefore⟩ := pair_split order
  have shape := performed.accepted
  rw [accepted] at once shape
  have alone := (List.nodup_cons.mp (List.nodup_middle.mp once)).1
  have apart : first ∉ second :: after := by
    intro member
    exact (List.nodup_append.mp once).2.2 first inBefore first member rfl
  rw [performed.work, List.mem_append] at begun
  -- The second unit is performed or in the worker's hands; what stands before it in
  -- the order of acceptance are performances in either case.
  rcases begun with finished | underway
  · obtain ⟨performance, inPast, worked⟩ := List.mem_flatMap.mp finished
    obtain rfl := Performance.ticket_of_mem_work worked
    obtain ⟨front, back, rfl⟩ := List.append_of_mem inPast
    simp only [List.map_append, List.map_cons, List.append_assoc, List.cons_append] at shape
    obtain rfl := before_unique once shape
    obtain rfl := (List.cons.inj (List.append_cancel_left shape)).2
    refine ⟨front, performance.work ++ (back.flatMap Performance.work ++ current),
      by simp [performed.work], ?_, ?_, ?_⟩
    · obtain ⟨earlier, member, same⟩ := List.mem_map.mp inBefore
      exact ⟨earlier, List.mem_append_left _ member, same⟩
    · intro act member
      exact alone (List.mem_append_left _ (Performance.ticket_mem member))
    · intro act member
      apply apart
      rcases List.mem_append.mp member with mine | later
      · rw [Performance.ticket_of_mem_work mine]
        exact List.mem_cons_self
      · refine List.mem_cons_of_mem _ ?_
        rcases List.mem_append.mp later with finished | underway
        · exact List.mem_append_left _ (Performance.ticket_mem finished)
        · have inHand := performed.underway.ticket_mem underway
          exact List.mem_append_right _ (List.mem_append_left _ inHand)
  · have inHand := performed.underway.ticket_mem underway
    rw [Hand.tickets_of_mem inHand, List.append_assoc, List.singleton_append] at shape
    obtain rfl := before_unique once shape
    refine ⟨past, current, performed.work, ?_, ?_, ?_⟩
    · exact List.mem_map.mp inBefore
    · intro act member
      exact alone (List.mem_append_left _ (Performance.ticket_mem member))
    · intro act member
      have same := performed.underway.ticket_mem member
      rw [Hand.tickets_of_mem inHand, List.mem_singleton] at same
      rw [same] at apart
      exact apart List.mem_cons_self

/-- A lane performs its units one after the other, in the order of acceptance. -/
theorem order (performed : Performed Becomes history queue hand past current)
    (once : (acceptedIn history).Nodup) {first second : Ticket}
    (order : [first, second].Sublist (acceptedIn history)) {act : WorkerAct}
    {early late : List (Ticket × WorkerAct)}
    (begun : workIn history = early ++ (second, act) :: late) :
    ∃ performance : Performance, performance.ticket = first ∧
      early.filter (fun worked => worked.1 = first) = performance.work ∧
      late.filter (fun worked => worked.1 = first) = [] := by
  have member : (second, act) ∈ workIn history := by
    rw [begun]
    exact List.mem_append_right _ List.mem_cons_self
  obtain ⟨front, rest, shape, ⟨performance, inPast, rfl⟩, absent, none⟩ :=
    performed.split once order member
  have inRest : ∀ worked ∈ (second, act) :: late, worked ∈ rest := by
    intro worked inLate
    rcases List.append_eq_append_iff.mp (shape.symm.trans begun) with
      ⟨between, _, rfl⟩ | ⟨between, frontShape, lateShape⟩
    · exact List.mem_append_right _ inLate
    · cases between with
      | nil =>
          rw [List.nil_append] at lateShape
          exact lateShape ▸ inLate
      | cons head tail =>
          obtain ⟨rfl, _⟩ := List.cons.inj lateShape
          refine absurd ?_ (absent act)
          rw [frontShape]
          exact List.mem_append_right _ List.mem_cons_self
  have passed : ((second, act) :: late).filter
      (fun worked => worked.1 = performance.ticket) = [] := by
    rw [List.filter_eq_nil_iff]
    rintro ⟨ticket, act⟩ inLate same
    obtain rfl := of_decide_eq_true same
    exact none act (inRest _ inLate)
  have whole := performed.work_of_mem once inPast
  rw [begun, List.filter_append, passed, List.append_nil] at whole
  refine ⟨performance, rfl, whole, ?_⟩
  exact List.filter_eq_nil_iff.mpr (fun worked inLate =>
    List.filter_eq_nil_iff.mp passed worked (List.mem_cons_of_mem _ inLate))

end Performed

/-- Whenever something is done about the second unit, the first one has gone through
its performance and every listener of its snapshot has returned or panicked.
Nothing is done about it afterwards. -/
def PerformedBefore (journal : List Entry) (first second : Ticket) : Prop :=
  ∀ (early late : List Entry) (lane : Nat) (act : WorkerAct),
    journal = early ++ .worked lane second act :: late →
      (∃ performance : Performance, performance.ticket = first ∧
        workOn first early = performance.work) ∧
      (∀ (event : Event) (ids : List ListenerId),
        (first, .noticed event ids) ∈ workOn first journal → ∀ id ∈ ids,
          ∃ panicked, (first, .returned event id panicked) ∈ workOn first early) ∧
      workOn first late = []

namespace Dispatcher

/-- The lane of a provider name.  Units without one go to the first lane. -/
def laneFor (dispatcher : Dispatcher) (name : Option String) : Nat :=
  match name with
  | some name => dispatcher.routing name % dispatcher.lanes.length
  | none => 0

theorem laneOf_eq (dispatcher : Dispatcher) (provider : Option Provider) :
    dispatcher.laneOf provider = dispatcher.laneFor (provider.bind (·.name)) := rfl

theorem Sound.lane_eq {dispatcher : Dispatcher} (sound : Sound dispatcher) {ticket : Ticket}
    {call : EnqueueCall} (found : dispatcher.calls[ticket]? = some call) :
    call.lane = dispatcher.laneFor call.work.routingName? := by
  rw [sound.routed ticket call found, laneOf_eq, Work.routingName?_eq]

theorem Sound.performedBefore {dispatcher : Dispatcher} (sound : Sound dispatcher)
    {first second : Ticket} {firstCall secondCall : EnqueueCall}
    (firstFound : dispatcher.calls[first]? = some firstCall)
    (secondFound : dispatcher.calls[second]? = some secondCall)
    (sameName : firstCall.work.routingName? = secondCall.work.routingName?)
    (order : [first, second].Sublist (acceptedTickets dispatcher.journal)) :
    PerformedBefore dispatcher.journal first second := by
  intro early late lane act split
  have sameLane : firstCall.lane = secondCall.lane := by
    rw [sound.lane_eq firstFound, sound.lane_eq secondFound, sameName]
  have member : .worked lane second act ∈ dispatcher.journal := by
    rw [split]
    exact List.mem_append_right _ List.mem_cons_self
  obtain rfl := sound.lane_unique secondFound lane act member
  obtain ⟨state, laneFound⟩ := sound.lane_of_worked member
  obtain ⟨past, current, performed⟩ := sound.performed laneFound
  have inOrder : [first, second].Sublist
      (acceptedIn (laneHistory secondCall.lane dispatcher.journal)) := by
    rw [sound.acceptedIn_eq]
    have filtered := order.filter
      (fun ticket => dispatcher.lane? ticket = some secondCall.lane)
    simpa [lane?, firstFound, secondFound, sameLane] using filtered
  have begun : workIn (laneHistory secondCall.lane dispatcher.journal) =
      workIn (laneHistory secondCall.lane early) ++
        (second, act) :: workIn (laneHistory secondCall.lane late) := by
    rw [split]
    simp [laneHistory, workIn, Entry.onLane?, Entry.lane?]
  have ofPart {part : List Entry} (inside : part ⊆ dispatcher.journal) :
      workOn first part = (workIn (laneHistory secondCall.lane part)).filter
        (fun worked => worked.1 = first) :=
    workOn_eq (fun other act member =>
      (sound.lane_unique firstFound other act (inside member)).trans sameLane)
  have earlyInside : early ⊆ dispatcher.journal := by
    rw [split]
    exact List.subset_append_left _ _
  have lateInside : late ⊆ dispatcher.journal := by
    rw [split]
    exact List.Subset.trans (List.subset_cons_self _ _) (List.subset_append_right _ _)
  obtain ⟨performance, rfl, finished, nothing⟩ :=
    performed.order (sound.acceptedIn_nodup _) inOrder begun
  rw [← ofPart earlyInside] at finished
  rw [← ofPart lateInside] at nothing
  refine ⟨⟨performance, rfl, finished⟩, ?_, nothing⟩
  intro event ids noticed id told
  have apart : second ≠ performance.ticket := by
    rintro rfl
    simpa using sound.once.sublist order
  have whole : workOn performance.ticket dispatcher.journal = performance.work := by
    rw [split, ← List.singleton_append, workOn_append, workOn_append, finished, nothing]
    simp [workOn, apart]
  rw [whole] at noticed
  rw [finished]
  exact Performance.returned_of_noticed noticed told

/-- A unit that is accepted before the call for another begins is accepted first. -/
theorem accepted_in_order {capacity workers : Nat} {routing : String → Nat}
    {early late : List DispatchAction} {middle dispatcher : Dispatcher}
    (runEarly : (start capacity workers routing).run? early = some middle)
    (runLate : middle.run? late = some dispatcher) {first second : Ticket}
    (accepted : middle.status? first = some .accepted)
    (later : middle.calls.length ≤ second)
    (acceptedLater : dispatcher.status? second = some .accepted) :
    [first, second].Sublist (acceptedTickets dispatcher.journal) := by
  have soundMiddle := sound_of_run runEarly
  have sound := sound_of_run (run?_append.mpr ⟨middle, runEarly, runLate⟩)
  obtain ⟨entries, journal⟩ := run?_journal runLate
  have inMiddle := soundMiddle.mem_accepted_iff.mpr accepted
  have inLast := sound.mem_accepted_iff.mpr acceptedLater
  have notBefore : second ∉ acceptedTickets middle.journal := by
    intro member
    obtain ⟨call, found, _⟩ := status?_eq_some.mp (soundMiddle.mem_accepted_iff.mp member)
    have inside := (List.getElem?_eq_some_iff.mp found).1
    omega
  rw [journal, acceptedTickets_append] at inLast ⊢
  have inEntries := (List.mem_append.mp inLast).resolve_left notBefore
  exact (List.singleton_sublist.mpr inMiddle).append (List.singleton_sublist.mpr inEntries)

/-- Units of one provider name, or without one, are performed one after the other in
the order in which they were accepted, whatever they are made from.  In particular
a unit whose call has returned comes before every unit of a later call. -/
theorem performed_in_order {capacity workers : Nat} {routing : String → Nat}
    {actions : List DispatchAction} {dispatcher : Dispatcher}
    (run : (start capacity workers routing).run? actions = some dispatcher) :
    (∀ (first second : Ticket) (firstCall secondCall : EnqueueCall),
      dispatcher.calls[first]? = some firstCall →
      dispatcher.calls[second]? = some secondCall →
      firstCall.work.routingName? = secondCall.work.routingName? →
        ([first, second].Sublist (acceptedTickets dispatcher.journal) →
          PerformedBefore dispatcher.journal first second) ∧
        (∀ (early late : List DispatchAction) (middle : Dispatcher),
          actions = early ++ late →
          (start capacity workers routing).run? early = some middle →
          middle.status? first = some .accepted → middle.calls.length ≤ second →
            PerformedBefore dispatcher.journal first second)) ∧
    (∀ (ticket : Ticket) (call : EnqueueCall), dispatcher.calls[ticket]? = some call →
      call.lane = dispatcher.laneFor call.work.routingName?) := by
  have sound := sound_of_run run
  constructor
  · intro first second firstCall secondCall firstFound secondFound sameName
    refine ⟨sound.performedBefore firstFound secondFound sameName, ?_⟩
    rintro early late middle rfl runEarly accepted later earlyJournal lateJournal lane act split
    obtain ⟨other, runOther, runLate⟩ := run?_append.mp run
    obtain rfl := Option.some.inj (runEarly.symm.trans runOther)
    have acceptedLater : dispatcher.status? second = some .accepted := by
      have member : .worked lane second act ∈ dispatcher.journal := by
        rw [split]
        exact List.mem_append_right _ List.mem_cons_self
      obtain ⟨call, found, _, status⟩ := sound.accepted_of_worked member
      exact status?_eq_some.mpr ⟨call, found, status⟩
    have order := accepted_in_order runEarly runLate accepted later acceptedLater
    exact sound.performedBefore firstFound secondFound sameName order _ _ lane act split
  · intro ticket call found
    exact sound.lane_eq found

/-- A line of a provider, an event of the same one, and a shutdown between them. -/
def twoForms : List DispatchAction :=
  let provider : Provider :=
    { name := some "main", host := none, port := none, scheme := none, url := none
      version := none }
  let line := "\x7b\"type\":\"project-created\",\"projectName\":\"demo\"\x7d"
  let event : Event :=
    { payload := .projectCreated (some "other") none none, provider := some provider
      receivedOn := none }
  [.addListener,
    .enter (.ofLine line (some provider) .epoch), .look 0, .send 0, .deliver 0,
    .enter (.ofEvent event .epoch), .look 1, .send 1, .deliver 1,
    .take 1, .notice 1, .call 1, .shutdown, .finishCall 1 true, .finish 1,
    .closeQueue 1, .take 1, .notice 1, .call 1]

theorem performed_in_order_two_forms :
    ∃ dispatcher, (start 2 2 (fun _ => 1)).run? twoForms = some dispatcher ∧
      acceptedTickets dispatcher.journal = [0, 1] ∧
      (workOn 1 dispatcher.journal).length = 3 ∧
      PerformedBefore dispatcher.journal 0 1 := by
  have run : (start 2 2 (fun _ => 1)).run? twoForms = some _ := rfl
  refine ⟨_, run, rfl, rfl, ?_⟩
  exact ((performed_in_order run).1 0 1 _ _ rfl rfl rfl).1 (by decide)

end Dispatcher

end ReviewFeed
