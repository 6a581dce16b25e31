import Mathlib.Data.List.Forall2
import ReviewFeed.Proofs.Attribute.Layout

/-!
# What can be read as a record

Every object can be read as a record, and every array that is not too long: nothing in
them is looked at for that.  The items of an array are the values of the fields in their
order.  A list is read whole or not at all.
-/

namespace ReviewFeed

namespace RecordType

theorem read?_isSome_iff {type : RecordType} {value : Json} :
    (type.read? value).isSome = true ↔
      (∃ members, value = .object members) ∨
        ∃ items, value = .array items ∧ items.length ≤ type.fieldNames.length := by
  refine Shape.record_fits_iff.trans ⟨?_, ?_⟩
  · intro fits
    cases fits with
    | recordOfObject type members => exact .inl ⟨members, rfl⟩
    | recordOfArray fewEnough => exact .inr ⟨_, rfl, fewEnough⟩
  · rintro (⟨members, rfl⟩ | ⟨items, rfl, fewEnough⟩)
    · exact .recordOfObject type members
    · exact .recordOfArray fewEnough

theorem read?_array (type : RecordType) (items : List Json) :
    type.read? (.array items) =
      if items.length ≤ type.fieldNames.length then
        some (type.ofFields (.ofMembers (type.fieldNames.zip items)))
      else none := by
  rw [read?_eq, Fields.ofJson?]
  split <;> rfl

/-- The order of the members of an object does not matter. -/
theorem read?_perm (type : RecordType) {members others : Members}
    (distinct : (members.map Prod.fst).Nodup) (same : others.Perm members) :
    type.read? (.object others) = type.read? (.object members) := by
  have alike : Fields.ofMembers others = .ofMembers members :=
    funext (Association.lookup_perm distinct same)
  rw [read?_object, read?_object, alike]

/-- The field at each place is read from the item at that place. -/
theorem attributes_of_items (type : RecordType) (items : List Json) :
    type.attributes (type.ofFields (.ofMembers (type.fieldNames.zip items))) =
      type.layout.mapIdx (fun place entry =>
        (entry.1, ⟨entry.2, entry.2.read items[place]?⟩)) := by
  rw [attributes_ofFields, Fields.attributes]
  apply List.ext_getElem?
  intro place
  rw [List.getElem?_map, List.getElem?_mapIdx]
  cases placed : type.layout[place]? with
  | none => rfl
  | some entry =>
      have named : type.fieldNames[place]? = some entry.1 := by
        rw [← layout_names, List.getElem?_map, placed]
        rfl
      have found := Association.lookup_zip type.fieldNames_distinct items named
      rw [Option.map_some, Option.map_some, Fields.ofMembers, found]

end RecordType

namespace Json

/-- What is read of an array: each of its items in order, or nothing if one of them
cannot be read. -/
def ReadWhole (reader : Json → Option α) (items : List Json) (result : Option (List α)) :
    Prop :=
  (∃ values, result = some values ∧
      List.Forall₂ (fun item value => reader item = some value) items values) ∨
    (∃ item ∈ items, reader item = none) ∧ result = none

/-- One item that cannot be read costs the whole list. -/
theorem ReadWhole.eq_none {reader : Json → Option α} {items : List Json}
    {result : Option (List α)} (whole : ReadWhole reader items result) {item : Json}
    (member : item ∈ items) (unread : reader item = none) : result = none := by
  rcases whole with ⟨values, rfl, each⟩ | ⟨_, nothing⟩
  · exfalso
    induction each with
    | nil => cases member
    | cons read _ induction =>
        rcases List.mem_cons.mp member with rfl | later
        · cases unread.symm.trans read
        · exact induction later
  · exact nothing

theorem readWhole_list? (reader : Json → Option α) (items : List Json) :
    ReadWhole reader items (list? reader (.array items)) := by
  rw [list?]
  induction items with
  | nil => exact .inl ⟨[], rfl, .nil⟩
  | cons item items induction =>
      rw [List.mapM_cons]
      cases first : reader item with
      | none => exact .inr ⟨⟨item, List.mem_cons_self, first⟩, rfl⟩
      | some value =>
          rcases induction with ⟨values, read, each⟩ | ⟨⟨bad, member, unread⟩, nothing⟩
          · exact .inl ⟨value :: values, by rw [read]; rfl, .cons first each⟩
          · exact .inr ⟨⟨bad, List.mem_cons_of_mem item member, unread⟩, by rw [nothing]; rfl⟩

end Json

namespace Fields

variable {fields : Fields} {name : String} {items : List Json}

theorem read_array (found : fields name = some (.array items)) (reader : Json → Option α) :
    Json.ReadWhole reader items (fields.read name (Json.list? reader)) := by
  rw [read, found, Option.bind_some]
  exact Json.readWhole_list? reader items

theorem list_array (found : fields name = some (.array items)) (reader : Json → Option α) :
    ∃ result, Json.ReadWhole reader items result ∧
      fields.list name (Json.list? reader) = result.getD [] :=
  ⟨_, read_array found reader, rfl⟩

end Fields

end ReviewFeed
