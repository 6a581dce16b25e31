import ReviewFeed.Proofs.Attribute.Respelled
import ReviewFeed.Proofs.Event.Written

/-!
# Events with numbers written as text

An event may state its numbers and times as integers or as numerals.  Neither the filter
nor the classification tells the two apart.
-/

namespace ReviewFeed

theorem RequiredField.isPresent_respelled {kind : EventKind} {members others : Members}
    (respelled : RespelledMembers kind.layout members others) {field : RequiredField}
    (required : field ∈ kind.requiredFields) :
    field.isPresent others = field.isPresent members := by
  obtain ⟨entry, member, named, expects⟩ := expected kind field required
  have known := Association.lookup_eq_some_of_mem kind.layout_names_distinct member
  rw [named] at known
  rcases respelled.lookup field.key with same | ⟨shape, value, other, found, before, after, part⟩
  · cases field <;> exact congrArg (Option.any _) same
  · obtain rfl : entry.2 = shape := Option.some.inj (known.symm.trans found)
    generalize entry.2 = shape at expects part
    cases field with
    | object key =>
        rw [RequiredField.key] at before after
        cases shape with
        | record type =>
            rw [isPresent, isPresent, before, after]
            exact part.isObject
        | text | scalarText | texts | flag | status | time | integer | records
        | recordsIfGiven => cases expects
    | string key =>
        rw [RequiredField.key] at before after
        cases shape with
        | text =>
            rw [isPresent, isPresent, before, after, part.text_eq]
        | scalarText | texts | flag | status | time | integer | record | records
        | recordsIfGiven => cases expects

namespace Event

variable {kind : EventKind} {members others : Members}

theorem ofMembers?_respelled (typed : EventKind.ofMembers? members = some kind)
    (respelled : RespelledMembers kind.layout members others) :
    EventKind.ofMembers? others = some kind := by
  rw [EventKind.ofMembers?_eq_some_iff, respelled.lookup_eq kind.type_not_in_layout]
  exact EventKind.ofMembers?_eq_some_iff.mp typed

theorem isUsable_respelled (typed : EventKind.ofMembers? members = some kind)
    (respelled : RespelledMembers kind.layout members others) :
    isUsable others = isUsable members := by
  have same : ∀ field ∈ kind.requiredFields,
      field.isPresent others = field.isPresent members :=
    fun _ required => RequiredField.isPresent_respelled respelled required
  rw [isUsable, isUsable, typed, ofMembers?_respelled typed respelled, Option.any_some,
    Option.any_some, Bool.eq_iff_iff, List.all_eq_true, List.all_eq_true]
  exact forall₂_congr fun field required => by rw [same field required]

theorem classify?_respelled (typed : EventKind.ofMembers? members = some kind)
    (respelled : RespelledMembers kind.layout members others) :
    classify? others = classify? members := by
  rw [classify?, classify?, typed, ofMembers?_respelled typed respelled, Option.map_some,
    Option.map_some]
  congr 2
  apply Payload.ofFields_congr
  intro entry member
  exact respelled.read entry.1 entry.2
    (Association.lookup_eq_some_of_mem kind.layout_names_distinct member)

/-- Replacing integers by their numerals, at any of the places where numerals are read,
changes neither whether an object is usable nor what event it is.  Those places are the
number and the times of a change, the values and the time of a vote, the number and the
time of a patch set, and the time of the event itself.  An integer outside of the calendar
is no time in either form. -/
theorem numerals_interchangeable :
    (∀ (members others : Members) (kind : EventKind),
      EventKind.ofMembers? members = some kind → RespelledMembers kind.layout members others →
        isUsable others = isUsable members ∧ classify? others = classify? members) ∧
    (∀ kind : EventKind, kind.layout.numeralNames = ["eventCreatedOn"]) ∧
    RecordType.change.layout.numeralNames = ["number", "createdOn", "lastUpdated"] ∧
    RecordType.approval.layout.numeralNames = ["value", "oldValue", "grantedOn"] ∧
    RecordType.patchSet.layout.numeralNames = ["number", "createdOn"] ∧
    ∀ n : Int,
      Timestamp.read? (.ofInt n) = Timestamp.ofSeconds? n ∧
      Timestamp.read? (.string (String.ofList (Text.signedDigits n))) =
        Timestamp.ofSeconds? n := by
  refine ⟨?_, ?_, rfl, rfl, rfl, ?_⟩
  · intro members others kind typed respelled
    exact ⟨isUsable_respelled typed respelled, classify?_respelled typed respelled⟩
  · intro kind
    cases kind <;> rfl
  · intro n
    have number := Timestamp.read?_ofInt n
    exact ⟨number, (Timestamp.read?_numeral n).trans number⟩

/-- A comment whose change, patch set and only vote are numbered by integers. -/
def numberedComment : Members :=
  [("approvals", .array [.object [("oldValue", .ofInt 0), ("value", .ofInt (-1))]]),
    ("change", .object [("number", .ofInt 10000)]),
    ("eventCreatedOn", .ofInt 8210266876800),
    ("patchSet", .array [.ofInt 2]),
    ("type", .string "comment-added")]

/-- The same comment with text in most of the places. -/
def spelledComment : Members :=
  [("approvals", .array [.object [("oldValue", .ofInt 0), ("value", .string "-1")]]),
    ("change", .object [("number", .string "10000")]),
    ("eventCreatedOn", .string "8210266876800"),
    ("patchSet", .array [.string "2"]),
    ("type", .string "comment-added")]

theorem numerals_interchangeable_comment :
    RespelledMembers EventKind.commentAdded.layout numberedComment spelledComment ∧
      isUsable spelledComment = isUsable numberedComment ∧
      classify? spelledComment = classify? numberedComment := by
  have vote : RespelledMembers RecordType.approval.layout
      [("oldValue", .ofInt 0), ("value", .ofInt (-1))]
      [("oldValue", .ofInt 0), ("value", .string "-1")] :=
    .kept _ (.part rfl (.numeral rfl (-1)) (.nil _))
  have change : RespelledMembers RecordType.change.layout [("number", .ofInt 10000)]
      [("number", .string "10000")] :=
    .part rfl (.numeral rfl 10000) (.nil _)
  have patchSet : RespelledMembers RecordType.patchSet.layout [("number", .ofInt 2)]
      [("number", .string "2")] :=
    .part rfl (.numeral rfl 2) (.nil _)
  have respelled :
      RespelledMembers EventKind.commentAdded.layout numberedComment spelledComment :=
    .part rfl (.records (.cons (.object vote) (.nil _)))
      (.part rfl (.object change)
        (.part rfl (.numeral rfl 8210266876800)
          (.part rfl (.array rfl patchSet) (.kept _ (.nil _)))))
  obtain ⟨same, _⟩ := numerals_interchangeable
  exact ⟨respelled, same _ _ .commentAdded rfl respelled⟩

end Event

end ReviewFeed
