import ReviewFeed.Command.Run
import ReviewFeed.Proofs.Dispatch.Listeners

/-!
# What a printing listener prints

A printing listener has printed an event when it returns from its call.  If it is the
only listener and never panics, then after a complete shutdown it has printed what it
has heard.
-/

namespace ReviewFeed

/-- The event that is printed by what a worker does. -/
def prints? : Ticket × WorkerAct → Option Event
  | (_, .returned event _ false) => some event
  | _ => none

/-- The events that have been printed, in order. -/
def printed (journal : List Entry) : List Event :=
  journal.filterMap CommandRun.printedEvent?

/-- Only one listener has been told of events, and it has not panicked. -/
structure SoleListener (id : ListenerId) (journal : List Entry) : Prop where
  alone : ∀ lane ticket event ids, .worked lane ticket (.noticed event ids) ∈ journal → ids = [id]
  calm : ∀ lane ticket event other, .worked lane ticket (.returned event other true) ∉ journal

/-- Of each unit that is over, one listener alone prints what it hears. -/
theorem Performance.prints?_work {id : ListenerId} {name : Option String}
    {performance : Performance}
    (alone : ∀ event ids, (performance.ticket, .noticed event ids) ∈ performance.work →
      ids = [id] ∧ event.provider.bind (·.name) = name)
    (calm : ∀ event other, (performance.ticket, .returned event other true) ∉ performance.work) :
    performance.work.filterMap prints? = performance.work.filterMap (hears? id name) := by
  cases report : performance.report with
  | none =>
      rw [work, report]
      rfl
  | some details =>
      obtain ⟨event, outcomes⟩ := details
      obtain ⟨only, named⟩ := alone event (outcomes.map (·.1)) (by simp [work, report])
      obtain ⟨⟨other, panicked⟩, rfl, rfl⟩ := List.map_eq_singleton_iff.mp only
      have returns : panicked = false := by
        cases panicked with
        | false => rfl
        | true => exact absurd (by simp [work, report, deliveries]) (calm event other)
      have mine : hears? other name (performance.ticket, .called event other) = some event :=
        if_pos ⟨rfl, named⟩
      rw [work, report, returns]
      simp only [deliveries, List.flatMap_cons, List.flatMap_nil, List.append_nil,
        List.cons_append, List.nil_append, List.filterMap_cons, mine]
      rfl

namespace Dispatcher

/-- If all units go by one name, then all is printed on behalf of the worker of one lane. -/
theorem Sound.printed_on_lane {dispatcher : Dispatcher} (sound : Sound dispatcher)
    {name : Option String}
    (named : ∀ ticket < dispatcher.calls.length, dispatcher.isNamed name ticket = true) :
    printed dispatcher.journal =
      (workIn (laneHistory (dispatcher.laneFor name) dispatcher.journal)).filterMap prints? := by
  rw [← filterMap_workIn]
  · apply List.filterMap_congr
    intro entry _
    cases entry with
    | worked lane ticket act =>
        cases act with
        | returned event id panicked => cases panicked <;> rfl
        | _ => rfl
    | _ => rfl
  · intro lane ticket act event member _
    obtain ⟨call, found, _, _⟩ := sound.accepted_of_worked member
    exact sound.lane_of_isNamed (named ticket (List.getElem?_eq_some_iff.mp found).1) member

/-- After a complete shutdown the only listener has printed what it has heard. -/
theorem Sound.printed_eq {dispatcher : Dispatcher} (sound : Sound dispatcher)
    (complete : dispatcher.isOver = true) {id : ListenerId} {name : Option String}
    (sole : SoleListener id dispatcher.journal)
    (named : ∀ ticket < dispatcher.calls.length, dispatcher.isNamed name ticket = true) :
    printed dispatcher.journal = heard id name dispatcher.journal := by
  obtain ⟨past, work, _, events⟩ := sound.past_of_over complete (sound.laneFor_lt name)
  rw [sound.printed_on_lane named, sound.heard_on_lane, work, List.filterMap_flatMap,
    List.filterMap_flatMap]
  refine List.flatMap_congr (fun performance inPast => ?_)
  have worked {act : WorkerAct} (mine : (performance.ticket, act) ∈ performance.work) :
      .worked (dispatcher.laneFor name) performance.ticket act ∈ dispatcher.journal := by
    rw [← mem_workIn, work]
    exact List.mem_flatMap.mpr ⟨performance, inPast, mine⟩
  refine Performance.prints?_work (fun event ids noticed => ⟨?_, ?_⟩)
    (fun event other panicked => ?_)
  · exact sole.alone _ _ event ids (worked noticed)
  · have becomes := events performance inPast
    obtain ⟨outcomes, report, _⟩ := Performance.report_of_noticed noticed
    rw [Performance.event?, report] at becomes
    have inside : performance.ticket < dispatcher.calls.length := by
      obtain ⟨call, found, _⟩ := becomes
      exact (List.getElem?_eq_some_iff.mp found).1
    have isNamed := named performance.ticket inside
    rw [named_of_becomes becomes] at isNamed
    exact of_decide_eq_true isNamed
  · exact sole.calm _ _ event other (worked panicked)

end Dispatcher

end ReviewFeed
