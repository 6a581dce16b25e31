import ReviewFeed.Proofs.Attribute.Printed
import ReviewFeed.Proofs.Event.Classification
import ReviewFeed.Proofs.Json.RoundTrip

/-!
# Written events read back

The members written for an event are those of its payload between its type and where
it came from.  Reading them gives the event again, from the members themselves as
from their text.
-/

namespace ReviewFeed

theorem Payload.attributes_shapes (payload : Payload) :
    payload.attributes.map (fun entry => (entry.1, entry.2.shape)) = payload.kind.layout := by
  cases payload <;> rfl

namespace Event

theorem members_names (event : Event) :
    event.members.map Prod.fst =
      "type" :: event.kind.layout.map Prod.fst ++ ["provider", "received_on"] := by
  rw [members, Payload.members_eq, kind, ← event.payload.attributes_shapes]
  simp only [List.map_cons, List.map_append, List.map_map, List.map_nil, Function.comp_def]

theorem members_distinct (event : Event) : (event.members.map Prod.fst).Nodup := by
  rw [members_names]
  exact event.kind.layout_distinct

theorem lookup_members (event : Event) :
    ∀ entry ∈ event.payload.attributes,
      event.members.lookup entry.1 = some entry.2.toJson := by
  intro entry held
  apply Association.lookup_eq_some_of_mem event.members_distinct
  rw [members, Payload.members_eq]
  apply List.mem_append_left
  apply List.mem_cons_of_mem
  exact List.mem_map_of_mem (f := fun entry => (entry.1, entry.2.toJson)) held

/-- Members that bind the type and the attributes of an event to what is written for
them, as it was written or as it is read from its text. -/
structure Copied (event : Event) (copy : Members) : Prop where
  type : copy.lookup "type" = some (.string event.kind.typeName)
  attributes : ∀ entry ∈ event.payload.attributes,
    copy.lookup entry.1 = some entry.2.toJson ∨
      copy.lookup entry.1 = some entry.2.toJson.sorted

theorem copied_members (event : Event) : event.Copied event.members where
  type := List.lookup_cons_self
  attributes entry held := .inl (event.lookup_members entry held)

/-- The members that are read from the text of an event. -/
def printed (event : Event) : Members :=
  Association.ofPairs (event.members.map (fun member => (member.1, member.2.sorted)))

theorem copied_printed (event : Event) : event.Copied event.printed where
  type := by
    rw [printed, Json.lookup_sorted event.members_distinct, event.copied_members.type]
    rfl
  attributes entry held := by
    rw [printed, Json.lookup_sorted event.members_distinct, event.lookup_members entry held]
    exact .inr rfl

variable {event : Event} {copy : Members}

/-- Where and when an event was received changes nothing that is read of it. -/
theorem Copied.of_stamp {provider : Option Provider} {now : Instant}
    (copied : (event.stamp provider now).Copied copy) : event.Copied copy :=
  ⟨copied.type, copied.attributes⟩

theorem Copied.read_eq (copied : event.Copied copy) {name : String} {shape : Shape}
    {value : shape.Value} (held : (name, ⟨shape, value⟩) ∈ event.payload.attributes) :
    shape.read (copy.lookup name) = shape.read (some (shape.write value)) := by
  rcases copied.attributes _ held with written | sorted
  · rw [written]
    rfl
  · rw [sorted]
    exact shape.read_write_sorted (fun part _ => part.readsSorted) value

theorem mem_attributes_of_classified {members : Members}
    (classified : classify? members = some event) {entry : String × Shape}
    (member : entry ∈ event.kind.layout) :
    (entry.1, ⟨entry.2, entry.2.read (members.lookup entry.1)⟩) ∈ event.payload.attributes := by
  obtain ⟨kind, _, rfl⟩ := classify?_eq_some_iff.mp classified
  rw [Event.kind, Payload.kind_ofFields] at member
  rw [Payload.attributes_ofFields]
  exact List.mem_map_of_mem (f := fun entry : String × Shape =>
    (entry.1, Attribute.mk entry.2 (entry.2.read (members.lookup entry.1)))) member

/-- A copy of an event that was read is read as that event. -/
theorem Copied.classify? (copied : event.Copied copy) {members : Members}
    (classified : classify? members = some event) : classify? copy = some event := by
  refine classify?_eq_some_iff.mpr ⟨event.kind, copied.type, ?_⟩
  obtain ⟨kind, typed, made⟩ := classify?_eq_some_iff.mp classified
  have sameKind : event.kind = kind := by rw [made, Event.kind, Payload.kind_ofFields]
  rw [sameKind]
  refine made.trans ?_
  -- Both payloads are made of fields, so it is enough that each attribute is the same.
  congr 1
  apply Payload.ofFields_congr
  intro entry member
  have again := copied.read_eq (mem_attributes_of_classified classified (sameKind ▸ member))
  rw [entry.2.read_write_read (fun part _ => part.readsBack)] at again
  exact again.symm

end Event

namespace RequiredField

def key : RequiredField → String
  | .object key | .string key => key

/-- Whether a shape is read from the JSON type of a required attribute. -/
def expects : RequiredField → Shape → Bool
  | .object _, .record _ => true
  | .string _, .text => true
  | _, _ => false

theorem expected (kind : EventKind) :
    ∀ field ∈ kind.requiredFields, ∃ entry ∈ kind.layout,
      entry.1 = field.key ∧ field.expects entry.2 = true := by
  cases kind <;> decide

/-- What is written for a required attribute has the JSON type it was read from. -/
theorem isPresent_of_written {field : RequiredField} {shape : Shape}
    (expects : field.expects shape = true) {members copy : Members}
    (present : field.isPresent members = true)
    (written : ∀ value, shape.read (members.lookup field.key) = value →
      copy.lookup field.key = some (shape.write value) ∨
        copy.lookup field.key = some (shape.write value).sorted) :
    field.isPresent copy = true := by
  cases field with
  | object key =>
      cases shape with
      | record type =>
          obtain ⟨nested, found⟩ := isPresent_object.mp present
          have read : (Shape.record type).read (members.lookup key) =
              some (type.ofFields (.ofMembers nested)) := by
            rw [found]
            exact type.read?_object nested
          have object : (Shape.record type).write (some (type.ofFields (.ofMembers nested))) =
              .object (type.members (type.ofFields (.ofMembers nested))) :=
            type.toJson_eq _
          apply isPresent_object.mpr
          rcases written _ read with same | sorted
          · exact ⟨_, same.trans (congrArg some object)⟩
          · rw [object, Json.sorted_object] at sorted
            exact ⟨_, sorted⟩
      | text | scalarText | texts | flag | status | time | integer | records
      | recordsIfGiven => cases expects
  | string key =>
      cases shape with
      | text =>
          obtain ⟨text, found⟩ := isPresent_string.mp present
          have read : Shape.text.read (members.lookup key) = some text := by
            rw [found]
            rfl
          apply isPresent_string.mpr
          rcases written _ read with same | sorted
          · exact ⟨text, same⟩
          · exact ⟨text, sorted⟩
      | scalarText | texts | flag | status | time | integer | record | records
      | recordsIfGiven => cases expects

end RequiredField

namespace Event

variable {event : Event} {copy : Members}

/-- A copy of an event that was read from a usable object is usable. -/
theorem Copied.isUsable (copied : event.Copied copy) {members : Members}
    (classified : Event.classify? members = some event)
    (usable : Event.isUsable members = true) : Event.isUsable copy = true := by
  obtain ⟨kind, typed, required⟩ := isUsable_iff.mp usable
  obtain ⟨known, typedToo, made⟩ := classify?_eq_some_iff.mp classified
  have sameKind : kind = event.kind := by
    rw [made, Event.kind, Payload.kind_ofFields]
    rw [EventKind.ofMembers?_eq_some_iff.mpr typedToo] at typed
    exact (Option.some.inj typed).symm
  subst sameKind
  refine isUsable_iff.mpr ⟨event.kind, EventKind.ofMembers?_eq_some_iff.mpr copied.type, ?_⟩
  intro field listed
  obtain ⟨entry, member, name, expects⟩ := RequiredField.expected event.kind field listed
  apply RequiredField.isPresent_of_written expects (required field listed)
  rintro value rfl
  have held := mem_attributes_of_classified classified member
  rw [name] at held
  exact copied.attributes _ held

theorem layout_height (kind : EventKind) :
    ∀ entry ∈ kind.layout, entry.2.fitsText = true ∧ entry.2.height < 5 := by
  cases kind <;> decide

end Event

/-- Whatever a provider holds is text. -/
theorem Provider.toJson_legible (provider : Provider) : provider.toJson.Legible 1 := by
  have texts : ∀ entry ∈ RecordType.provider.layout, entry.2 = .text := by decide
  have distinct := RecordType.provider.members_distinct provider
  refine Json.Legible.object distinct ?_
  intro member written
  obtain ⟨⟨name, shape, value⟩, held, rfl⟩ := RecordType.provider.mem_members written
  have inLayout : (name, shape) ∈ RecordType.provider.layout := by
    rw [← RecordType.provider.attributes_shapes provider]
    exact List.mem_map_of_mem (f := fun entry : String × Attribute => (entry.1, entry.2.shape)) held
  obtain rfl : shape = .text := texts _ inLayout
  cases value with
  | none => exact .null 0
  | some text => exact .string 0 text

/-- Every provider is read from what is written for it. -/
theorem Provider.read?_toJson (provider : Provider) : read? provider.toJson = some provider := by
  have again (text : Option String) : (Json.ofOption Json.string text).string? = text := by
    cases text <;> rfl
  have fields : read? provider.toJson =
      some
        { name := (Json.ofOption Json.string provider.name).string?
          host := (Json.ofOption Json.string provider.host).string?
          port := (Json.ofOption Json.string provider.port).string?
          scheme := (Json.ofOption Json.string provider.scheme).string?
          url := (Json.ofOption Json.string provider.url).string?
          version := (Json.ofOption Json.string provider.version).string? } := rfl
  rw [fields]
  simp only [again]

namespace Event

variable {event : Event}

theorem toJson_legible {members : Members} (classified : classify? members = some event)
    (provider : Option Provider) (now : Instant) :
    (event.stamp provider now).toJson.Legible 5 := by
  obtain ⟨kind, _, made⟩ := classify?_eq_some_iff.mp classified
  refine Json.Legible.object (event.stamp provider now).members_distinct ?_
  intro member written
  simp only [Event.members, List.cons_append, List.mem_cons, List.mem_append,
    List.not_mem_nil, or_false] at written
  rcases written with rfl | inPayload | rfl | rfl
  · exact .string 4 _
  · rw [stamp, made, Payload.members_eq, Payload.attributes_ofFields, Fields.attributes,
      List.map_map] at inPayload
    obtain ⟨entry, inLayout, rfl⟩ := List.mem_map.mp inPayload
    obtain ⟨fits, below⟩ := layout_height kind entry inLayout
    have legible := Shape.write_legible fits (fun part _ => part.writesLegibly)
      (members.lookup entry.1)
    exact legible.mono (by omega)
  · cases provider with
    | none => exact .null 4
    | some provider => exact provider.toJson_legible.mono (by omega)
  · exact .string 4 now.text

/-- The text of an event that was read is an object again. -/
theorem readObject?_render {members : Members} (classified : classify? members = some event)
    (provider : Option Provider) (now : Instant) :
    Json.readObject? (event.stamp provider now).render =
      some (event.stamp provider now).printed := by
  have legible := (toJson_legible classified provider now).mono
    (show 5 ≤ Json.deepest by decide)
  rw [Json.readObject?, render, Json.read?_render legible, toJson, Json.sorted_object]
  rfl

/-- Where an event was received is read from its text. -/
theorem lookup_provider_printed (event : Event) (provider : Option Provider) (now : Instant) :
    ((event.stamp provider now).printed.lookup "provider").bind Provider.read? = provider := by
  have written : (event.stamp provider now).members.lookup "provider" =
      some (.ofOption Provider.toJson provider) := by
    apply Association.lookup_eq_some_of_mem (event.stamp provider now).members_distinct
    simp [members, stamp]
  rw [printed, Json.lookup_sorted (event.stamp provider now).members_distinct, written]
  cases provider with
  | none => rfl
  | some provider =>
      exact (RecordType.provider.readsSorted provider).trans provider.read?_toJson

/-- When an event was received is read from its text. -/
theorem lookup_receivedOn_printed (event : Event) (provider : Option Provider) (now : Instant) :
    (event.stamp provider now).printed.lookup "received_on" = some (.string now.text) := by
  have written : (event.stamp provider now).members.lookup "received_on" =
      some (.string now.text) := by
    apply Association.lookup_eq_some_of_mem (event.stamp provider now).members_distinct
    simp [members, stamp, Json.ofOption]
  rw [printed, Json.lookup_sorted (event.stamp provider now).members_distinct, written]
  rfl

/-- What was read once is a fixed point: an event is read again from the members written
for it, wherever and whenever it was received, and from their text, and is usable when
it was; so is every record from what is written for it. -/
theorem written_reads_back :
    (∀ (members : Members) (event : Event), classify? members = some event →
      ∀ (provider : Option Provider) (now : Instant),
        (classify? (event.stamp provider now).members = some event ∧
          (isUsable members = true → isUsable (event.stamp provider now).members = true)) ∧
        ∃ printed, Json.readObject? (event.stamp provider now).render = some printed ∧
          classify? printed = some event ∧
          (isUsable members = true → isUsable printed = true)) ∧
    ∀ (type : RecordType) (value : Json) (record : type.Value),
      type.read? value = some record →
        type.read? (type.toJson record) = some record ∧
        ∃ printed, Json.read? (type.toJson record).render = some printed ∧
          type.read? printed = some record := by
  constructor
  · intro members event classified provider now
    have copied := (event.stamp provider now).copied_members.of_stamp
    have sorted := (event.stamp provider now).copied_printed.of_stamp
    exact ⟨⟨copied.classify? classified, copied.isUsable classified⟩, _,
      readObject?_render classified provider now, sorted.classify? classified,
      sorted.isUsable classified⟩
  · intro type value record read
    have again := type.readsBack value record read
    have height : type.height ≤ Json.deepest := by cases type <;> decide
    refine ⟨again, _, Json.read?_render ((type.writesLegibly value record read).mono height), ?_⟩
    rw [type.readsSorted record, again]

/-- A usable object in which nothing has the form that is written for it. -/
def looseMembers : Members :=
  [("change", .object [("number", .number (.integer 7)), ("owner", .array [.string "Ann"]),
      ("status", .string "PAUSED"), ("topic", .bool true)]),
    ("eventCreatedOn", .string " +1700000000 "), ("patchSet", .object []),
    ("type", .string "patchset-created")]

theorem written_reads_back_loose :
    isUsable looseMembers = true ∧ ∃ event, classify? looseMembers = some event ∧
      isUsable (event.stamp (some (.named "main")) .epoch).members = true ∧
      (∃ printed, Json.readObject? (event.stamp (some (.named "main")) .epoch).render =
        some printed ∧ classify? printed = some event) ∧
      ∃ owner, Account.read? (.array [.string "Ann"]) = some owner ∧
        Account.read? owner.toJson = some owner := by
  have usable : isUsable looseMembers = true := by decide
  obtain ⟨events, records⟩ := written_reads_back
  obtain ⟨event, classified⟩ : ∃ event, classify? looseMembers = some event :=
    ⟨_, classify?_eq_some_iff.mpr ⟨.patchsetCreated, rfl, rfl⟩⟩
  obtain ⟨⟨_, copy⟩, printed, readPrinted, again, _⟩ :=
    events looseMembers _ classified (some (.named "main")) .epoch
  have owner : Account.read? (.array [.string "Ann"]) =
    some { name := some "Ann", email := none, username := none } := rfl
  exact ⟨usable, event, classified, copy usable, ⟨printed, readPrinted, again⟩, _, owner,
    (records .account _ _ owner).1⟩

end Event

end ReviewFeed
