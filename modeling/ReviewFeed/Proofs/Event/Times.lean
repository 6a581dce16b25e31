import ReviewFeed.Proofs.Attribute.Respelled
import ReviewFeed.Proofs.Event.Classification

/-!
# Times of records and events

A timestamp of a record or of an event is read from the value under its name, whatever
that value is: what is no number of seconds of the calendar leaves it unset and does no
harm to the other attributes.
-/

namespace ReviewFeed

namespace Timestamp

/-- Whatever stands under the name of a timestamp, the record around it is read, with the
timestamp set or unset. -/
theorem record_reads_time {type : RecordType} {name : String}
    (place : type.layout.lookup name = some .time) (members : Members) :
    ∃ record, type.read? (.object members) = some record ∧
      (type.attributes record).lookup name = some ⟨.time, (members.lookup name).bind read?⟩ := by
  refine ⟨_, type.read?_object members, ?_⟩
  rw [type.lookup_attributes_ofFields, place]
  rfl

theorem event_reads_time {members : Members} {event : Event} {name : String}
    (classified : Event.classify? members = some event)
    (place : event.kind.layout.lookup name = some .time) :
    event.payload.attribute? name = some ⟨.time, (members.lookup name).bind read?⟩ := by
  obtain ⟨kind, -, rfl⟩ := Event.classify?_eq_some_iff.mp classified
  rw [Event.kind, Payload.kind_ofFields] at place
  rw [Payload.attribute?_ofFields, place]
  rfl

/-- A value is read as a timestamp if and only if it is an integer, or a text with the
numeral of an integer between blanks, and the calendar has this number of seconds: then
these are the seconds of the timestamp.  As JSON text it is a number without fraction and
exponent that is no negative zero.  Any other value leaves the timestamp unset and does no
more harm.  A timestamp that is written is read again. -/
theorem read_exactly_on_range :
    (∀ (value : Json) (time : Timestamp), read? value = some time ↔
      ∃ n, States value n ∧ (-2 ^ 63 ≤ n ∧ n < 2 ^ 63) ∧
        (-8334601228800 ≤ n ∧ n ≤ 8210266876799) ∧ time.seconds = n) ∧
    (∀ (chars rest : List Char) (number : JsonNumber),
      Json.readNumber chars = some (number, rest) → ∀ time : Timestamp,
        read? (.number number) = some time ↔ ∃ (negative : Bool) (row : List (Fin 10)),
          row ≠ [] ∧ chars = Json.signChars negative ++ Text.rowChars row ++ rest ∧
          ¬(negative = true ∧ Text.rowValue row = 0) ∧
          time.seconds = if negative then -(Text.rowValue row : Int) else Text.rowValue row) ∧
    (∀ time : Timestamp, read? time.toJson = some time) ∧
    (∀ (type : RecordType) (name : String), type.layout.lookup name = some .time →
      ∀ members : Members, ∃ record, type.read? (.object members) = some record ∧
        (type.attributes record).lookup name =
          some ⟨.time, (members.lookup name).bind read?⟩) ∧
    ∀ (members : Members) (event : Event) (name : String),
      Event.classify? members = some event → event.kind.layout.lookup name = some .time →
      event.payload.attribute? name = some ⟨.time, (members.lookup name).bind read?⟩ := by
  refine ⟨?_, ?_, read?_toJson, ?_, ?_⟩
  · intro value time
    rw [read?_eq_some_iff_states]
    constructor
    · intro stated
      have inCalendar := time.inCalendar
      exact ⟨time.seconds, stated, ⟨by omega, by omega⟩, inCalendar, rfl⟩
    · rintro ⟨n, stated, -, -, rfl⟩
      exact stated
  · intro chars rest number read time
    exact read?_readNumber read
  · intro type name place members
    exact record_reads_time place members
  · intro members event name classified place
    exact event_reads_time classified place

theorem read_exactly_on_range_signed :
    read? (.string " +0017\u3000") = some ⟨17, by decide⟩ ∧
      read? (.number (.integer (-12))) = some ⟨-12, by decide⟩ ∧
      (∃ change, Change.read? (.object [("createdOn", .bool true), ("wip", .bool true)]) =
          some change ∧
        (RecordType.change.attributes change).lookup "createdOn" = some ⟨.time, none⟩) ∧
      ∃ event, Event.classify? [("type", .string "ref-updated"), ("eventCreatedOn", .ofInt 5)] =
          some event ∧
        event.payload.attribute? "eventCreatedOn" = some ⟨.time, some ⟨5, by decide⟩⟩ := by
  obtain ⟨values, literals, -, records, events⟩ := read_exactly_on_range
  refine ⟨?_, ?_, ?_, ?_⟩
  · have stated : States (.string (String.ofList
        ([' '] ++ '+' :: Text.rowChars [0, 0, 1, 7] ++ ['\u3000'])))
        (Text.rowValue [0, 0, 1, 7]) :=
      .text (List.forall_mem_singleton.mpr rfl) (List.forall_mem_singleton.mpr rfl)
        (.plus (List.cons_ne_nil 0 _))
    exact (values _ ⟨17, by decide⟩).mpr ⟨17, stated, by decide, by decide, rfl⟩
  · have read : Json.readNumber ['-', '1', '2', ','] = some (.integer (-12), [',']) := by decide
    apply (literals _ _ _ read ⟨-12, by decide⟩).mpr
    exact ⟨true, [1, 2], by decide, by decide, by decide, by decide⟩
  · exact records .change "createdOn" rfl [("createdOn", .bool true), ("wip", .bool true)]
  · refine ⟨_, rfl, ?_⟩
    exact events [("type", .string "ref-updated"), ("eventCreatedOn", .ofInt 5)] _
      "eventCreatedOn" rfl rfl

end Timestamp

end ReviewFeed
