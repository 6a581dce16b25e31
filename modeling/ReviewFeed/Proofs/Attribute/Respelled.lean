import ReviewFeed.Proofs.Attribute.Readable

/-!
# Numbers written as text

Servers of different ages write a number, or the text of its numeral.  Where numerals are
read, both are read as the same, at every depth and for all such places independently.
-/

namespace ReviewFeed

/-- Whether a number and its numeral are read alike. -/
def Shape.isNumeral : Shape → Bool
  | .scalarText | .time => true
  | _ => false

/-- The names under which numerals are read. -/
def Layout.numeralNames (layout : Layout) : List String :=
  (layout.filter (fun entry => entry.2.isNumeral)).map Prod.fst

mutual

/-- The other value differs only in that integers are replaced by their numerals, at some
of the places where numerals are read. -/
inductive Respelled : Shape → Json → Json → Prop
  | kept (shape : Shape) (value : Json) : Respelled shape value value
  | numeral {shape : Shape} (place : shape.isNumeral = true) (n : Int) :
      Respelled shape (.ofInt n) (.string (String.ofList (Text.signedDigits n)))
  | object {type : RecordType} {members others : Members}
      (parts : RespelledMembers type.layout members others) :
      Respelled (.record type) (.object members) (.object others)
  | array {type : RecordType} {items others : List Json}
      (sameLength : others.length = items.length)
      (parts : RespelledMembers type.layout (type.fieldNames.zip items)
        (type.fieldNames.zip others)) :
      Respelled (.record type) (.array items) (.array others)
  | records {type : RecordType} {items others : List Json}
      (each : RespelledItems type items others) :
      Respelled (.records type) (.array items) (.array others)
  | recordsIfGiven {type : RecordType} {items others : List Json}
      (each : RespelledItems type items others) :
      Respelled (.recordsIfGiven type) (.array items) (.array others)

/-- The same for members, each of which has the shape that its name has in the layout. -/
inductive RespelledMembers : Layout → Members → Members → Prop
  | nil (layout : Layout) : RespelledMembers layout [] []
  | kept {layout : Layout} {members others : Members} (member : String × Json)
      (rest : RespelledMembers layout members others) :
      RespelledMembers layout (member :: members) (member :: others)
  | part {layout : Layout} {members others : Members} {name : String} {shape : Shape}
      {value other : Json} (expected : layout.lookup name = some shape)
      (respelled : Respelled shape value other)
      (rest : RespelledMembers layout members others) :
      RespelledMembers layout ((name, value) :: members) ((name, other) :: others)

/-- The same for the items of a list of records. -/
inductive RespelledItems : RecordType → List Json → List Json → Prop
  | nil (type : RecordType) : RespelledItems type [] []
  | cons {type : RecordType} {value other : Json} {items others : List Json}
      (respelled : Respelled (.record type) value other)
      (rest : RespelledItems type items others) :
      RespelledItems type (value :: items) (other :: others)

end

theorem Shape.read?_numeral {shape : Shape} (place : shape.isNumeral = true) (n : Int) :
    shape.read? (.string (String.ofList (Text.signedDigits n))) = shape.read? (.ofInt n) := by
  cases shape with
  | scalarText => rfl
  | time => exact Timestamp.read?_numeral n
  | text | texts | flag | status | integer | record | records | recordsIfGiven => cases place

/-- Objects from which the same is read under every name are the same record. -/
theorem RecordType.ofFields_congr_lookup {type : RecordType} {members others : Members}
    (alike : ∀ name shape, type.layout.lookup name = some shape →
      shape.read (others.lookup name) = shape.read (members.lookup name)) :
    type.ofFields (.ofMembers others) = type.ofFields (.ofMembers members) := by
  apply ofFields_congr
  intro entry member
  exact alike entry.1 entry.2 (Association.lookup_eq_some_of_mem type.layout_names_distinct member)

mutual

theorem Respelled.read? : {shape : Shape} → {value other : Json} →
    Respelled shape value other → shape.read? other = shape.read? value
  | _, _, _, .kept _ _ => rfl
  | _, _, _, .numeral place n => Shape.read?_numeral place n
  | .record type, .object members, .object others, .object parts => by
      rw [Shape.read?, RecordType.read?_object, RecordType.read?_object,
        RecordType.ofFields_congr_lookup parts.read]
  | .record type, .array items, .array others, .array sameLength parts => by
      rw [Shape.read?, RecordType.read?_array, RecordType.read?_array, sameLength,
        RecordType.ofFields_congr_lookup parts.read]
  | _, _, _, .records each => each.mapM_read?
  | _, _, _, .recordsIfGiven each => each.mapM_read?

theorem RespelledMembers.read : {layout : Layout} → {members others : Members} →
    RespelledMembers layout members others → ∀ (name : String) (shape : Shape),
    layout.lookup name = some shape →
    shape.read (others.lookup name) = shape.read (members.lookup name)
  | _, _, _, .nil _, _, _, _ => rfl
  | _, _, _, .kept member rest, name, shape, expected => by
      rw [Association.lookup_cons_eq_if, Association.lookup_cons_eq_if]
      split
      · rfl
      · exact rest.read name shape expected
  | _, _, _, .part known first rest, name, shape, expected => by
      rw [Association.lookup_cons_eq_if, Association.lookup_cons_eq_if]
      split
      · rename_i same
        subst same
        cases Option.some.inj (known.symm.trans expected)
        rw [Shape.read, Shape.read, Option.bind_some, Option.bind_some, first.read?]
      · exact rest.read name shape expected

theorem RespelledItems.mapM_read? : {type : RecordType} → {items others : List Json} →
    RespelledItems type items others → others.mapM type.read? = items.mapM type.read?
  | _, _, _, .nil _ => rfl
  | type, _, _, .cons first rest => by
      have same : type.read? _ = type.read? _ := first.read?
      rw [List.mapM_cons, List.mapM_cons, same, rest.mapM_read?]

end

/-- What is found under a name is the same, or respelled in the shape of that name. -/
theorem RespelledMembers.lookup : {layout : Layout} → {members others : Members} →
    RespelledMembers layout members others → ∀ name : String,
    others.lookup name = members.lookup name ∨
      ∃ shape value other, layout.lookup name = some shape ∧
        members.lookup name = some value ∧ others.lookup name = some other ∧
        Respelled shape value other
  | _, _, _, .nil _, _ => .inl rfl
  | _, _, _, .kept member rest, name => by
      rw [Association.lookup_cons_eq_if, Association.lookup_cons_eq_if]
      split
      · exact .inl rfl
      · exact rest.lookup name
  | _, _, _, .part expected first rest, name => by
      rw [Association.lookup_cons_eq_if, Association.lookup_cons_eq_if]
      split
      · rename_i same
        exact .inr ⟨_, _, _, same ▸ expected, rfl, rfl, first⟩
      · exact rest.lookup name

/-- What no shape is given for is as it was. -/
theorem RespelledMembers.lookup_eq {layout : Layout} {members others : Members}
    (respelled : RespelledMembers layout members others) {name : String}
    (unread : name ∉ layout.map Prod.fst) : others.lookup name = members.lookup name := by
  rcases respelled.lookup name with same | ⟨shape, _, _, expected, _⟩
  · exact same
  · rw [Association.lookup_eq_none_of_not_mem unread] at expected
    cases expected

/-- Only a numeral changes its JSON type. -/
theorem Respelled.isObject {type : RecordType} {value other : Json}
    (respelled : Respelled (.record type) value other) : other.isObject = value.isObject := by
  cases respelled with
  | kept | object | array => rfl
  | numeral place n => cases place

theorem Respelled.text_eq {value other : Json} (respelled : Respelled .text value other) :
    other = value := by
  cases respelled with
  | kept => rfl
  | numeral place n => cases place

end ReviewFeed
