import ReviewFeed.Proofs.Event.Identity
import ReviewFeed.Proofs.Event.Layout

/-!
# Classification goes by the type alone

An object is an event exactly when its type is a known one.  Each attribute is read
from the value under its own key, so that a value that cannot be read costs the
event that attribute and nothing else.
-/

namespace ReviewFeed

/-- Capitalised words run together, as words in lower case joined by hyphens. -/
def Text.hyphenated : List Char → List Char
  | [] => []
  | first :: rest =>
      first.toLower ::
        rest.flatMap (fun c => if c.isUpper then ['-', c.toLower] else [c])

namespace EventKind

/-- The name of the variant of payloads that events of this kind carry. -/
def variantName : EventKind → String
  | .patchsetCreated => "PatchsetCreated"
  | .draftPublished => "DraftPublished"
  | .changeAbandoned => "ChangeAbandoned"
  | .changeMerged => "ChangeMerged"
  | .changeRestored => "ChangeRestored"
  | .changeDeleted => "ChangeDeleted"
  | .commentAdded => "CommentAdded"
  | .reviewerAdded => "ReviewerAdded"
  | .reviewerDeleted => "ReviewerDeleted"
  | .topicChanged => "TopicChanged"
  | .hashtagsChanged => "HashtagsChanged"
  | .wipStateChanged => "WipStateChanged"
  | .privateStateChanged => "PrivateStateChanged"
  | .voteDeleted => "VoteDeleted"
  | .patchsetNotified => "PatchsetNotified"
  | .refUpdated => "RefUpdated"
  | .refReplicated => "RefReplicated"
  | .refReplicationDone => "RefReplicationDone"
  | .projectCreated => "ProjectCreated"

/-- The tag of a variant in JSON. -/
def tag (kind : EventKind) : String :=
  String.ofList (Text.hyphenated kind.variantName.toList)

/-- The tag by which a payload is read is the type name by which it is announced. -/
theorem tag_eq_typeName (kind : EventKind) : kind.tag = kind.typeName := by
  cases kind <;> decide

theorem ofTypeName?_typeName (kind : EventKind) : ofTypeName? kind.typeName = some kind := by
  cases kind <;> decide

theorem ofTypeName?_eq_some_iff {name : String} {kind : EventKind} :
    ofTypeName? name = some kind ↔ name = kind.typeName := by
  constructor
  · intro found
    have named := List.find?_some found
    exact (eq_of_beq named).symm
  · rintro rfl
    exact ofTypeName?_typeName kind

theorem ofMembers?_eq_some_iff {members : Members} {kind : EventKind} :
    ofMembers? members = some kind ↔
      members.lookup "type" = some (.string kind.typeName) := by
  simp only [ofMembers?, Option.bind_eq_some_iff]
  constructor
  · rintro ⟨name, ⟨value, found, isText⟩, known⟩
    cases value with
    | string text =>
        cases isText
        rw [found, ofTypeName?_eq_some_iff.mp known]
    | null | bool _ | number _ | array _ | object _ => cases isText
  · intro found
    exact ⟨kind.typeName, ⟨_, found, rfl⟩, ofTypeName?_typeName kind⟩

end EventKind

namespace Payload

/-- The payload that is read when the type of an object selects its variant. -/
def ofTagged? (members : Members) : Option Payload :=
  ((members.lookup "type").bind Json.string?).bind
    (fun tag => (EventKind.all.find? (fun kind => kind.tag == tag)).map
      (fun kind => ofFields kind (.ofMembers members)))

theorem ofTagged?_eq (members : Members) :
    ofTagged? members =
      (EventKind.ofMembers? members).map (fun kind => ofFields kind (.ofMembers members)) := by
  rw [ofTagged?, EventKind.ofMembers?, Option.map_bind]
  simp only [EventKind.tag_eq_typeName]
  rfl

/-- The attribute that is read from a key. -/
def attribute? (payload : Payload) (key : String) : Option Attribute :=
  payload.attributes.lookup key

theorem attribute?_ofFields (kind : EventKind) (fields : Fields) (key : String) :
    (ofFields kind fields).attribute? key =
      (kind.layout.lookup key).map (fun shape => ⟨shape, shape.read (fields key)⟩) := by
  rw [attribute?, attributes_ofFields, Fields.lookup_attributes]

theorem ofFields_congr {kind : EventKind} {fields others : Fields}
    (alike : ∀ entry ∈ kind.layout,
      entry.2.read (fields entry.1) = entry.2.read (others entry.1)) :
    ofFields kind fields = ofFields kind others := by
  apply eq_of_attributes_eq
  · rw [kind_ofFields, kind_ofFields]
  · rw [attributes_ofFields, attributes_ofFields]
    exact Fields.attributes_congr alike

end Payload

namespace Event

theorem classify?_eq_some_iff {members : Members} {event : Event} :
    classify? members = some event ↔
      ∃ kind : EventKind, members.lookup "type" = some (.string kind.typeName) ∧
        event = { payload := .ofFields kind (.ofMembers members), provider := none
                  receivedOn := none } := by
  rw [classify?, Option.map_eq_some_iff]
  simp only [EventKind.ofMembers?_eq_some_iff, eq_comm (b := event)]

theorem attribute?_eq_of_lookup_eq {one other : Members} {event otherEvent : Event}
    (classified : classify? one = some event) (otherClassified : classify? other = some otherEvent)
    (sameKind : event.kind = otherEvent.kind) {key : String}
    (agree : one.lookup key = other.lookup key) :
    event.payload.attribute? key = otherEvent.payload.attribute? key := by
  obtain ⟨kind, _, rfl⟩ := classify?_eq_some_iff.mp classified
  obtain ⟨otherKind, _, rfl⟩ := classify?_eq_some_iff.mp otherClassified
  simp only [Event.kind, Payload.kind_ofFields] at sameKind
  subst sameKind
  rw [Payload.attribute?_ofFields, Payload.attribute?_ofFields, Fields.ofMembers,
    Fields.ofMembers, agree]

/-- A key under which nothing can be read might as well be absent. -/
theorem classify?_filter_of_misses {members : Members} {event : Event}
    (classified : classify? members = some event) {key : String} {shape : Shape}
    (expected : event.kind.layout.lookup key = some shape)
    (misses : shape.Misses (members.lookup key)) :
    event.payload.attribute? key = some ⟨shape, shape.blank⟩ ∧
      classify? (members.filter (fun member => member.1 != key)) = some event := by
  obtain ⟨kind, typed, rfl⟩ := classify?_eq_some_iff.mp classified
  simp only [Event.kind, Payload.kind_ofFields] at expected
  constructor
  · rw [Payload.attribute?_ofFields, expected, Option.map_some, Fields.ofMembers,
      Shape.read_of_misses misses]
  -- The type is no attribute, so that leaving out one keeps the kind.
  · have notType : "type" ≠ key := by
      rintro rfl
      rw [Association.lookup_eq_none_of_not_mem kind.type_not_in_layout] at expected
      cases expected
    refine classify?_eq_some_iff.mpr ⟨kind, ?_, ?_⟩
    · rw [Association.lookup_filter_ne, if_neg notType, typed]
    · rw [Payload.ofFields_congr
        (Fields.read_filter_of_misses kind.layout_names_distinct expected misses)]

theorem eq_of_attribute?_eq {one other : Members} {event otherEvent : Event}
    (classified : classify? one = some event) (otherClassified : classify? other = some otherEvent)
    (sameKind : event.kind = otherEvent.kind)
    (same : ∀ key, event.payload.attribute? key = otherEvent.payload.attribute? key) :
    event = otherEvent := by
  obtain ⟨kind, _, rfl⟩ := classify?_eq_some_iff.mp classified
  obtain ⟨otherKind, _, rfl⟩ := classify?_eq_some_iff.mp otherClassified
  simp only [Event.kind, Payload.kind_ofFields] at sameKind
  subst sameKind
  congr 1
  apply Payload.ofFields_congr
  intro entry member
  have found := Association.lookup_eq_some_of_mem kind.layout_names_distinct member
  have both := same entry.1
  simp only [Payload.attribute?_ofFields, found, Option.map_some, Option.some.injEq,
    Attribute.mk.injEq, heq_eq_eq, true_and] at both
  exact both

/-- An object is an event exactly when its type is a known one, and then its kind is
that one.  What an event says under a key is read from the value of that key alone, and
so is every part of the records in it: where nothing can be read, that attribute is
unset, empty or false, and all the rest is as it would be without the key. -/
theorem classified_by_type_alone :
    (∀ (members : Members) (kind : EventKind),
      members.lookup "type" = some (.string kind.typeName) ↔
        ∃ event, classify? members = some event ∧ event.kind = kind) ∧
    (∀ (members : Members) (event : Event), classify? members = some event →
      event.provider = none ∧ event.receivedOn = none ∧
      Payload.ofTagged? members = some event.payload ∧
      (∀ (others : Members) (otherEvent : Event), classify? others = some otherEvent →
        event.kind = otherEvent.kind →
          (∀ key, members.lookup key = others.lookup key →
            event.payload.attribute? key = otherEvent.payload.attribute? key) ∧
          ((∀ key, event.payload.attribute? key = otherEvent.payload.attribute? key) →
            event = otherEvent)) ∧
      ∀ key shape, event.kind.layout.lookup key = some shape →
        event.payload.attribute? key = some ⟨shape, shape.read (members.lookup key)⟩ ∧
        (shape.Misses (members.lookup key) →
          event.payload.attribute? key = some ⟨shape, shape.blank⟩ ∧
          classify? (members.filter (fun member => member.1 != key)) = some event)) ∧
    ∀ (type : RecordType) (members : Members) (record : type.Value),
      type.read? (.object members) = some record →
      (∀ (others : Members) (otherRecord : type.Value),
        type.read? (.object others) = some otherRecord →
          ∀ name, members.lookup name = others.lookup name →
            (type.attributes record).lookup name =
              (type.attributes otherRecord).lookup name) ∧
      ∀ name shape, type.layout.lookup name = some shape →
        (type.attributes record).lookup name =
          some ⟨shape, shape.read (members.lookup name)⟩ ∧
        (shape.Misses (members.lookup name) →
          (type.attributes record).lookup name = some ⟨shape, shape.blank⟩ ∧
          type.read? (.object (members.filter (fun member => member.1 != name))) =
            some record) := by
  refine ⟨?_, ?_, ?_⟩
  · intro members kind
    constructor
    · intro typed
      exact ⟨_, classify?_eq_some_iff.mpr ⟨kind, typed, rfl⟩, Payload.kind_ofFields _ _⟩
    · rintro ⟨event, classified, rfl⟩
      obtain ⟨kind, typed, rfl⟩ := classify?_eq_some_iff.mp classified
      rw [Event.kind, Payload.kind_ofFields]
      exact typed
  · intro members event classified
    -- The event is made of the fields under the names of its kind, and of nothing else.
    obtain ⟨kind, typed, made⟩ := classify?_eq_some_iff.mp classified
    refine ⟨by rw [made], by rw [made], ?_, ?_, ?_⟩
    · rw [Payload.ofTagged?_eq, EventKind.ofMembers?_eq_some_iff.mpr typed, made]
      rfl
    · intro others otherEvent otherClassified sameKind
      constructor
      · intro key agree
        exact attribute?_eq_of_lookup_eq classified otherClassified sameKind agree
      · exact eq_of_attribute?_eq classified otherClassified sameKind
    · intro key shape expected
      constructor
      · rw [made, Event.kind, Payload.kind_ofFields] at expected
        rw [made, Payload.attribute?_ofFields, expected, Option.map_some, Fields.ofMembers]
      · intro misses
        exact classify?_filter_of_misses classified expected misses
  · intro type members record read
    rw [RecordType.read?_object, Option.some.injEq] at read
    subst read
    obtain ⟨agreeing, missing⟩ := type.read_apart members
    constructor
    · intro others otherRecord otherRead
      rw [RecordType.read?_object, Option.some.injEq] at otherRead
      subst otherRead
      exact agreeing others
    · intro name shape expected
      constructor
      · rw [RecordType.lookup_attributes_ofFields, expected, Option.map_some, Fields.ofMembers]
      · intro misses
        obtain ⟨blank, unchanged⟩ := missing name shape expected misses
        exact ⟨blank, by rw [RecordType.read?_object, unchanged]⟩

/-- The members of a change with a flag that is no truth value. -/
def oddChange : Members :=
  [("number", .number (.integer 7)), ("private", .string "yes")]

/-- An event with a numbered author and no list of approvals. -/
def oddComment : Members :=
  [("approvals", .null), ("author", .number (.integer 42)), ("change", .object oddChange),
    ("comment", .string "fine"), ("type", .string "comment-added")]

def plainComment : Members :=
  [("comment", .string "fine"), ("type", .string "comment-added")]

theorem classified_by_type_alone_odd :
    ∃ event plain, classify? oddComment = some event ∧ classify? plainComment = some plain ∧
      event.payload.attribute? "comment" = plain.payload.attribute? "comment" ∧
      event.payload.attribute? "author" = some ⟨.record .account, none⟩ ∧
      event.payload.attribute? "approvals" = some ⟨.records .approval, []⟩ ∧
      ∃ change, Change.read? (.object oddChange) = some change ∧
        (RecordType.change.attributes change).lookup "private" = some ⟨.flag, false⟩ := by
  obtain ⟨typed, apart, records⟩ := classified_by_type_alone
  obtain ⟨event, classified, kind⟩ := (typed oddComment .commentAdded).mp rfl
  obtain ⟨plain, plainClassified, plainKind⟩ := (typed plainComment .commentAdded).mp rfl
  obtain ⟨_, _, _, agreeing, missing⟩ := apart oddComment event classified
  obtain ⟨same, _⟩ := agreeing plainComment plain plainClassified (kind.trans plainKind.symm)
  rw [kind] at missing
  refine ⟨event, plain, classified, plainClassified, same "comment" rfl, ?_, ?_, ?_⟩
  · exact ((missing "author" (.record .account) rfl).2 (.unfit (by rintro ⟨⟩))).1
  · exact ((missing "approvals" (.records .approval) rfl).2 .null).1
  · have read := RecordType.read?_object .change oddChange
    obtain ⟨_, blank⟩ := records .change oddChange _ read
    exact ⟨_, read, ((blank "private" .flag rfl).2 (.unfit (by rintro ⟨⟩))).1⟩

end Event

end ReviewFeed
