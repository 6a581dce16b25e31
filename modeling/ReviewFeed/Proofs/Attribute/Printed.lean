import ReviewFeed.Proofs.Attribute.Written
import ReviewFeed.Proofs.Json.Order

/-!
# Printed records read back

What is written for a record is legible, and it does not matter to its reader that
the members come back in the order of their keys.
-/

namespace ReviewFeed

theorem Json.list?_sorted {reader : Json → Option α} {write : α → Json}
    (alike : ∀ item, reader (write item).sorted = reader (write item)) (items : List α) :
    list? reader (ofList write items).sorted = list? reader (ofList write items) := by
  rw [ofList, sorted_array, list?, list?, List.map_map, List.mapM_map, List.mapM_map]
  exact congrArg (items.mapM ·) (funext alike)

theorem Json.Legible.ofList {write : α → Json} {items : List α} {depth : Nat}
    (each : ∀ item ∈ items, Legible depth (write item)) :
    Legible (depth + 1) (Json.ofList write items) := by
  apply Legible.array
  intro value member
  obtain ⟨item, inItems, rfl⟩ := List.mem_map.mp member
  exact each item inItems

namespace RecordType

/-- A record that was written is read alike in the order of its keys. -/
def ReadsSorted (type : RecordType) : Prop :=
  ∀ record, type.read? (type.toJson record).sorted = type.read? (type.toJson record)

end RecordType

namespace Shape

theorem read_write_sorted (shape : Shape) (parts : ∀ part ∈ shape.parts, part.ReadsSorted)
    (value : shape.Value) :
    shape.read (some (shape.write value).sorted) = shape.read (some (shape.write value)) := by
  cases shape with
  | text | scalarText | time | integer => cases value <;> rfl
  | flag => rfl
  | status => cases value <;> rfl
  | texts =>
      have alike : Json.strings? (Json.ofList .string value).sorted =
          Json.strings? (Json.ofList .string value) := Json.list?_sorted (fun _ => rfl) value
      exact congrArg (Option.getD · []) alike
  | record type =>
      cases value with
      | none => rfl
      | some record => exact parts type List.mem_cons_self record
  | records type =>
      have alike := Json.list?_sorted (parts type List.mem_cons_self) value
      exact congrArg (Option.getD · []) alike
  | recordsIfGiven type =>
      cases value with
      | none => rfl
      | some records => exact Json.list?_sorted (parts type List.mem_cons_self) records

end Shape

namespace RecordType

theorem attributes_shapes (type : RecordType) (record : type.Value) :
    (type.attributes record).map (fun entry => (entry.1, entry.2.shape)) = type.layout := by
  cases type <;> rfl

theorem exists_attribute {type : RecordType} (record : type.Value) {entry : String × Shape}
    (member : entry ∈ type.layout) :
    ∃ value : entry.2.Value, (entry.1, ⟨entry.2, value⟩) ∈ type.attributes record := by
  rw [← type.attributes_shapes record] at member
  obtain ⟨⟨name, shape, value⟩, held, rfl⟩ := List.mem_map.mp member
  exact ⟨value, held⟩

theorem readsSorted (type : RecordType) : type.ReadsSorted := by
  induction type using nested_induction with
  | step type parts =>
      intro record
      rw [toJson_eq, Json.sorted_object, read?_object, read?_object]
      congr 1
      apply ofFields_congr
      intro entry member
      obtain ⟨value, held⟩ := exists_attribute record member
      rw [Fields.ofMembers, Fields.ofMembers, Json.lookup_sorted (type.members_distinct record)]
      rcases type.lookup_members record _ held with written | ⟨omitted, _⟩
      · rw [written, Option.map_some]
        exact entry.2.read_write_sorted (parts entry member) value
      · rw [omitted, Option.map_none]

end RecordType

namespace Shape

/-- How deep objects and arrays nest in what is written for an attribute. -/
def height : Shape → Nat
  | .text | .scalarText | .flag | .status | .time | .integer _ _ => 0
  | .texts => 1
  | .record type => type.height
  | .records type | .recordsIfGiven type => type.height + 1

/-- Whether the integers of a shape fit into 64 bits. -/
def fitsText : Shape → Bool
  | .integer low high => -9223372036854775808 ≤ low && high ≤ 18446744073709551615
  | .text | .scalarText | .texts | .flag | .status | .time | .record _ | .records _
  | .recordsIfGiven _ => true

end Shape

namespace RecordType

theorem layout_height (type : RecordType) :
    ∀ entry ∈ type.layout, entry.2.fitsText = true ∧ entry.2.height < type.height := by
  cases type <;> decide

/-- What is written for a record that was read is legible. -/
def WritesLegibly (type : RecordType) : Prop :=
  ∀ value record, type.read? value = some record →
    (type.toJson record).Legible type.height

end RecordType

theorem Timestamp.toJson_legible (time : Timestamp) (depth : Nat) :
    time.toJson.Legible depth := by
  have inCalendar := time.inCalendar
  exact .integer depth (by omega)

namespace Shape

theorem write_legible {shape : Shape} (fits : shape.fitsText = true)
    (parts : ∀ part ∈ shape.parts, part.WritesLegibly) (found : Option Json) :
    (shape.write (shape.read found)).Legible shape.height := by
  generalize held : shape.read found = value
  cases shape with
  | text | scalarText =>
      cases value with
      | none => exact .null 0
      | some text => exact .string 0 text
  | flag => exact .bool 0 value
  | status =>
      cases value with
      | none => exact .null 0
      | some status => exact .string 0 status.name
  | time =>
      cases value with
      | none => exact .null 0
      | some time => exact time.toJson_legible 0
  | integer low high =>
      cases value with
      | none => exact .null 0
      | some n =>
          obtain ⟨value, _, read⟩ := Option.bind_eq_some_iff.mp held
          have inRange := (Json.integerIn?_eq_some_iff.mp read).2
          simp only [fitsText, Bool.and_eq_true, decide_eq_true_eq] at fits
          exact .integer 0 (by omega)
  | texts =>
      apply Json.Legible.ofList
      intro text _
      exact .string 0 text
  | record type =>
      cases value with
      | none => exact .null type.height
      | some record =>
          obtain ⟨value, _, read⟩ := Option.bind_eq_some_iff.mp held
          exact parts type List.mem_cons_self value record read
  | records type =>
      apply Json.Legible.ofList
      intro record member
      obtain ⟨value, read⟩ := read_records held record member
      exact parts type List.mem_cons_self value record read
  | recordsIfGiven type =>
      cases value with
      | none => exact .null (type.height + 1)
      | some records =>
          obtain ⟨value, _, read⟩ := Option.bind_eq_some_iff.mp held
          apply Json.Legible.ofList
          intro record member
          obtain ⟨value, read⟩ := Json.mem_of_list? read record member
          exact parts type List.mem_cons_self value record read

end Shape

namespace RecordType

/-- Every member of a record is written for one of its attributes. -/
theorem mem_members (type : RecordType) {record : type.Value} {member : String × Json}
    (written : member ∈ type.members record) :
    ∃ entry ∈ type.attributes record, member = (entry.1, entry.2.toJson) := by
  cases type with
  | account =>
      have set : ∀ {name : String} {value : Option String}, member ∈ Account.member name value →
          member = (name, (Attribute.mk .text value).toJson) := by
        intro name value inMember
        cases value with
        | none => cases inMember
        | some text => exact List.mem_singleton.mp inMember
      simp only [members, List.mem_append] at written
      rcases written with (name | email) | username
      · exact ⟨_, List.mem_cons_self, set name⟩
      · exact ⟨_, List.mem_cons_of_mem _ List.mem_cons_self, set email⟩
      · exact ⟨_, List.mem_cons_of_mem _ (List.mem_cons_of_mem _ List.mem_cons_self),
          set username⟩
  | comment | change | approval | patchSetFile | patchSet | refUpdate | provider =>
      obtain ⟨entry, held, rfl⟩ := List.mem_map.mp written
      exact ⟨entry, held, rfl⟩

theorem writesLegibly (type : RecordType) : type.WritesLegibly := by
  induction type using nested_induction with
  | step type parts =>
      intro value record read
      rw [read?_eq, Option.map_eq_some_iff] at read
      obtain ⟨fields, _, rfl⟩ := read
      -- The object itself takes one level, its attributes the ones below it.
      have positive : 0 < type.height := by cases type <;> decide
      obtain ⟨depth, height⟩ := Nat.exists_eq_add_of_lt positive
      rw [toJson_eq, height]
      apply Json.Legible.object (type.members_distinct _)
      intro member written
      obtain ⟨entry, held, rfl⟩ := type.mem_members written
      rw [attributes_ofFields] at held
      obtain ⟨field, inLayout, rfl⟩ := List.mem_map.mp held
      obtain ⟨fits, below⟩ := type.layout_height field inLayout
      exact (Shape.write_legible fits (parts field inLayout) (fields field.1)).mono (by omega)

end RecordType

end ReviewFeed
