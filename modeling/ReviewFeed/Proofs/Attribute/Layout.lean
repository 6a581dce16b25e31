import ReviewFeed.Proofs.Attribute.Shape

/-!
# Layouts of records

A record is determined by its attributes, and each of them is read under its own
name, whatever stands under other names.
-/

namespace ReviewFeed

/-- What fields hold under the names of a layout. -/
def Fields.attributes (fields : Fields) (layout : Layout) : List (String × Attribute) :=
  layout.map (fun entry => (entry.1, ⟨entry.2, entry.2.read (fields entry.1)⟩))

theorem Fields.lookup_attributes (fields : Fields) (layout : Layout) (name : String) :
    (fields.attributes layout).lookup name =
      (layout.lookup name).map (fun shape => ⟨shape, shape.read (fields name)⟩) :=
  Association.lookup_map (fun name shape => Attribute.mk shape (shape.read (fields name)))
    layout name

theorem Fields.attributes_congr {fields others : Fields} {layout : Layout}
    (alike : ∀ entry ∈ layout, entry.2.read (fields entry.1) = entry.2.read (others entry.1)) :
    fields.attributes layout = others.attributes layout := by
  apply List.map_congr_left
  intro entry member
  rw [alike entry member]

/-- Members under a key where nothing can be read may be left out. -/
theorem Fields.read_filter_of_misses {layout : Layout}
    (distinct : (layout.map Prod.fst).Nodup) {members : Members} {key : String} {shape : Shape}
    (expected : layout.lookup key = some shape) (misses : shape.Misses (members.lookup key)) :
    ∀ entry ∈ layout,
      entry.2.read (ofMembers (members.filter (fun member => member.1 != key)) entry.1) =
        entry.2.read (ofMembers members entry.1) := by
  intro entry member
  rw [ofMembers, ofMembers, Association.lookup_filter_ne]
  by_cases same : entry.1 = key
  · have found := Association.lookup_eq_some_of_mem distinct member
    rw [same, expected] at found
    rw [if_pos same, same, ← Option.some.inj found, Shape.read_of_misses misses,
      Shape.read_of_misses .absent]
  · rw [if_neg same]

namespace RecordType

def layout : RecordType → Layout
  | .account => [("name", .text), ("email", .text), ("username", .text)]
  | .comment => [("message", .text), ("reviewer", .record .account)]
  | .change =>
      [("project", .text), ("branch", .text), ("id", .text), ("number", .scalarText),
        ("subject", .text), ("owner", .record .account), ("url", .text),
        ("commitMessage", .text), ("status", .status), ("topic", .text),
        ("hashtags", .texts), ("wip", .flag), ("private", .flag), ("createdOn", .time),
        ("lastUpdated", .time), ("comments", .recordsIfGiven .comment)]
  | .approval =>
      [("type", .text), ("description", .text), ("value", .scalarText),
        ("oldValue", .scalarText), ("grantedOn", .time), ("by", .record .account)]
  | .patchSetFile =>
      [("file", .text), ("fileOld", .text), ("type", .text),
        ("insertions", .integer (-9223372036854775808) 9223372036854775807),
        ("deletions", .integer (-9223372036854775808) 9223372036854775807)]
  | .patchSet =>
      [("number", .scalarText), ("revision", .text), ("ref", .text), ("parents", .texts),
        ("uploader", .record .account), ("author", .record .account), ("createdOn", .time),
        ("kind", .text), ("approvals", .records .approval), ("files", .records .patchSetFile)]
  | .refUpdate =>
      [("oldRev", .text), ("newRev", .text), ("refName", .text), ("project", .text)]
  | .provider =>
      [("name", .text), ("host", .text), ("port", .text), ("scheme", .text), ("url", .text),
        ("version", .text)]

theorem layout_names (type : RecordType) : type.layout.map Prod.fst = type.fieldNames := by
  cases type <;> rfl

theorem fieldNames_distinct (type : RecordType) : type.fieldNames.Nodup := by
  cases type <;> decide

theorem layout_names_distinct (type : RecordType) : (type.layout.map Prod.fst).Nodup := by
  rw [layout_names]
  exact type.fieldNames_distinct

/-- The attributes of a record, by name. -/
def attributes : (type : RecordType) → type.Value → List (String × Attribute)
  | .account, record =>
      [("name", ⟨.text, record.name⟩), ("email", ⟨.text, record.email⟩),
        ("username", ⟨.text, record.username⟩)]
  | .comment, record =>
      [("message", ⟨.text, record.message⟩),
        ("reviewer", ⟨.record .account, record.reviewer⟩)]
  | .change, record =>
      [("project", ⟨.text, record.project⟩), ("branch", ⟨.text, record.branch⟩),
        ("id", ⟨.text, record.id⟩), ("number", ⟨.scalarText, record.number⟩),
        ("subject", ⟨.text, record.subject⟩), ("owner", ⟨.record .account, record.owner⟩),
        ("url", ⟨.text, record.url⟩), ("commitMessage", ⟨.text, record.commitMessage⟩),
        ("status", ⟨.status, record.status⟩), ("topic", ⟨.text, record.topic⟩),
        ("hashtags", ⟨.texts, record.hashtags⟩), ("wip", ⟨.flag, record.wip⟩),
        ("private", ⟨.flag, record.isPrivate⟩), ("createdOn", ⟨.time, record.createdOn⟩),
        ("lastUpdated", ⟨.time, record.lastUpdated⟩),
        ("comments", ⟨.recordsIfGiven .comment, record.comments⟩)]
  | .approval, record =>
      [("type", ⟨.text, record.label⟩), ("description", ⟨.text, record.description⟩),
        ("value", ⟨.scalarText, record.value⟩),
        ("oldValue", ⟨.scalarText, record.oldValue⟩),
        ("grantedOn", ⟨.time, record.grantedOn⟩),
        ("by", ⟨.record .account, record.grantedBy⟩)]
  | .patchSetFile, record =>
      [("file", ⟨.text, record.file⟩), ("fileOld", ⟨.text, record.fileOld⟩),
        ("type", ⟨.text, record.changeType⟩),
        ("insertions",
          ⟨.integer (-9223372036854775808) 9223372036854775807, record.insertions⟩),
        ("deletions",
          ⟨.integer (-9223372036854775808) 9223372036854775807, record.deletions⟩)]
  | .patchSet, record =>
      [("number", ⟨.scalarText, record.number⟩), ("revision", ⟨.text, record.revision⟩),
        ("ref", ⟨.text, record.gitRef⟩), ("parents", ⟨.texts, record.parents⟩),
        ("uploader", ⟨.record .account, record.uploader⟩),
        ("author", ⟨.record .account, record.author⟩),
        ("createdOn", ⟨.time, record.createdOn⟩), ("kind", ⟨.text, record.kind⟩),
        ("approvals", ⟨.records .approval, record.approvals⟩),
        ("files", ⟨.records .patchSetFile, record.files⟩)]
  | .refUpdate, record =>
      [("oldRev", ⟨.text, record.oldRev⟩), ("newRev", ⟨.text, record.newRev⟩),
        ("refName", ⟨.text, record.refName⟩), ("project", ⟨.text, record.project⟩)]
  | .provider, record =>
      [("name", ⟨.text, record.name⟩), ("host", ⟨.text, record.host⟩),
        ("port", ⟨.text, record.port⟩), ("scheme", ⟨.text, record.scheme⟩),
        ("url", ⟨.text, record.url⟩), ("version", ⟨.text, record.version⟩)]

/-- Every attribute of a record comes from the value under its own name. -/
theorem attributes_ofFields (type : RecordType) (fields : Fields) :
    type.attributes (type.ofFields fields) = fields.attributes type.layout := by
  cases type <;> rfl

/-- No part of a record is left out of its attributes. -/
theorem attributes_injective (type : RecordType) : Function.Injective type.attributes := by
  intro one other same
  cases type <;> cases one <;> cases other
  all_goals
    simp only [attributes, List.cons.injEq, Prod.mk.injEq, Attribute.mk.injEq, heq_eq_eq,
      true_and, and_true] at same
    simp [same]

theorem ofFields_congr {type : RecordType} {fields others : Fields}
    (alike : ∀ entry ∈ type.layout,
      entry.2.read (fields entry.1) = entry.2.read (others entry.1)) :
    type.ofFields fields = type.ofFields others := by
  apply type.attributes_injective
  rw [attributes_ofFields, attributes_ofFields]
  exact Fields.attributes_congr alike

theorem lookup_attributes_ofFields (type : RecordType) (fields : Fields) (name : String) :
    (type.attributes (type.ofFields fields)).lookup name =
      (type.layout.lookup name).map (fun shape => ⟨shape, shape.read (fields name)⟩) := by
  rw [attributes_ofFields, Fields.lookup_attributes]

theorem read?_object (type : RecordType) (members : Members) :
    type.read? (.object members) = some (type.ofFields (.ofMembers members)) := by
  rw [read?_eq]
  rfl

/-- Objects that agree on a name give the same attribute under it, and one under which
nothing can be read is blank and might as well be left out. -/
theorem read_apart (type : RecordType) (members : Members) :
    (∀ others : Members, ∀ name, members.lookup name = others.lookup name →
      (type.attributes (type.ofFields (.ofMembers members))).lookup name =
        (type.attributes (type.ofFields (.ofMembers others))).lookup name) ∧
    ∀ name shape, type.layout.lookup name = some shape →
      shape.Misses (members.lookup name) →
        (type.attributes (type.ofFields (.ofMembers members))).lookup name =
          some ⟨shape, shape.blank⟩ ∧
        type.ofFields (.ofMembers (members.filter (fun member => member.1 != name))) =
          type.ofFields (.ofMembers members) := by
  constructor
  · intro others name agree
    rw [lookup_attributes_ofFields, lookup_attributes_ofFields, Fields.ofMembers,
      Fields.ofMembers, agree]
  · intro name shape expected misses
    constructor
    · rw [lookup_attributes_ofFields, expected, Option.map_some, Fields.ofMembers,
        Shape.read_of_misses misses]
    · exact ofFields_congr
        (Fields.read_filter_of_misses type.layout_names_distinct expected misses)

end RecordType

end ReviewFeed
