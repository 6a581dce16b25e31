import ReviewFeed.Proofs.Attribute.Layout

/-!
# Written records read back

Writing is no inverse of reading: numbers become strings, arrays become objects and
what could not be read becomes null.  But what was read once is read again from what
is written for it.
-/

namespace ReviewFeed

/-- The types of the records in an attribute. -/
def Shape.parts : Shape → List RecordType
  | .record type | .records type | .recordsIfGiven type => [type]
  | .text | .scalarText | .texts | .flag | .status | .time | .integer _ _ => []

theorem Account.lookup_member (name key : String) (value : Option String) :
    (member name value).lookup key = if key = name then value.map .string else none := by
  cases value with
  | none => rw [member, List.lookup_nil, Option.map_none, ite_self]
  | some text => rw [member, Association.lookup_cons_eq_if, List.lookup_nil, Option.map_some]

namespace RecordType

/-- How deep objects and arrays nest in what is written for a record. -/
def height : RecordType → Nat
  | .account | .patchSetFile | .refUpdate | .provider => 1
  | .comment | .approval => 2
  | .change | .patchSet => 4

theorem parts_height (type : RecordType) :
    ∀ entry ∈ type.layout, ∀ part ∈ entry.2.parts, part.height < type.height := by
  cases type <;> decide

/-- What holds of a type whenever it holds of the types in its layout holds of all. -/
theorem nested_induction {motive : RecordType → Prop}
    (step : ∀ type : RecordType,
      (∀ entry ∈ type.layout, ∀ part ∈ entry.2.parts, motive part) → motive type)
    (type : RecordType) : motive type := by
  -- By induction on a bound for the height, which is less for every record inside.
  have bounded : ∀ (bound : Nat) (type : RecordType), type.height < bound → motive type := by
    intro bound
    induction bound with
    | zero => intro type below; cases below
    | succ bound induction =>
        intro type below
        apply step type
        intro entry member part inside
        have nested := type.parts_height entry member part inside
        exact induction part (by omega)
  exact bounded (type.height + 1) type (Nat.lt_succ_self _)

/-- The members written for a record. -/
def members : (type : RecordType) → type.Value → Members
  | .account, record =>
      Account.member "name" record.name ++ Account.member "email" record.email ++
        Account.member "username" record.username
  | type, record => (type.attributes record).map (fun entry => (entry.1, entry.2.toJson))

theorem toJson_eq (type : RecordType) (record : type.Value) :
    type.toJson record = .object (type.members record) := by
  cases type <;> rfl

theorem attributes_names (type : RecordType) (record : type.Value) :
    (type.attributes record).map Prod.fst = type.fieldNames := by
  cases type <;> rfl

theorem members_distinct (type : RecordType) (record : type.Value) :
    ((type.members record).map Prod.fst).Nodup := by
  have distinct := type.fieldNames_distinct
  rw [← type.attributes_names record] at distinct
  have written : (((type.attributes record).map
      (fun entry => (entry.1, entry.2.toJson))).map Prod.fst).Nodup := by
    rw [List.map_map]
    exact distinct
  cases type with
  | account =>
      obtain ⟨_ | name, _ | email, _ | username⟩ := record <;>
        simp [members, Account.member]
  | comment | change | approval | patchSetFile | patchSet | refUpdate | provider =>
      exact written

theorem lookup_account_members (account : Account) :
    (RecordType.account.members account).lookup "name" = account.name.map .string ∧
      (RecordType.account.members account).lookup "email" = account.email.map .string ∧
      (RecordType.account.members account).lookup "username" = account.username.map .string := by
  simp [members, List.lookup_append, Account.lookup_member]

/-- Every attribute is written under its name, unless it is left out for null. -/
theorem lookup_members (type : RecordType) (record : type.Value) :
    ∀ entry ∈ type.attributes record,
      (type.members record).lookup entry.1 = some entry.2.toJson ∨
        (type.members record).lookup entry.1 = none ∧ entry.2.toJson = .null := by
  intro entry member
  have distinct := type.members_distinct record
  cases type with
  | account =>
      have text : ∀ {found : Option Json} {value : Option String}, found = value.map .string →
          found = some (Attribute.mk .text value).toJson ∨
            found = none ∧ (Attribute.mk .text value).toJson = .null := by
        rintro _ (_ | _) rfl
        · exact .inr ⟨rfl, rfl⟩
        · exact .inl rfl
      obtain ⟨name, email, username⟩ := lookup_account_members record
      simp only [attributes, List.mem_cons, List.not_mem_nil, or_false] at member
      rcases member with rfl | rfl | rfl
      · exact text name
      · exact text email
      · exact text username
  | comment | change | approval | patchSetFile | patchSet | refUpdate | provider =>
      apply Or.inl
      apply Association.lookup_eq_some_of_mem distinct
      exact List.mem_map_of_mem (f := fun entry => (entry.1, entry.2.toJson)) member

/-- What was read of a record once is read again from what is written for it. -/
def ReadsBack (type : RecordType) : Prop :=
  ∀ value record, type.read? value = some record →
    type.read? (type.toJson record) = some record

end RecordType

namespace Json

theorem list?_ofList {reader : Json → Option α} {write : α → Json} {items : List α}
    (again : ∀ item ∈ items, reader (write item) = some item) :
    list? reader (ofList write items) = some items := by
  rw [ofList, list?, List.mapM_map]
  induction items with
  | nil => rfl
  | cons item rest induction =>
      rw [List.forall_mem_cons] at again
      rw [List.mapM_cons, Function.comp_apply, again.1, induction again.2]
      rfl

/-- The items of a list that was read were read from values. -/
theorem mem_of_list? {reader : Json → Option α} {value : Json} {items : List α}
    (read : list? reader value = some items) :
    ∀ item ∈ items, ∃ value, reader value = some item := by
  cases value with
  | array values =>
      rw [list?] at read
      induction values generalizing items with
      | nil =>
          cases read
          intro item member
          cases member
      | cons value rest induction =>
          simp only [List.mapM_cons, Option.bind_eq_bind, Option.bind_eq_some_iff] at read
          obtain ⟨first, readFirst, others, readRest, made⟩ := read
          cases made
          rw [List.forall_mem_cons]
          exact ⟨⟨value, readFirst⟩, induction readRest⟩
  | null | bool _ | number _ | string _ | object _ => cases read

theorem integerIn?_eq_some_iff {low high n : Int} {value : Json} :
    integerIn? low high value = some n ↔ value = .ofInt n ∧ low ≤ n ∧ n ≤ high := by
  constructor
  · intro read
    unfold integerIn? at read
    split at read
    · split at read
      · cases read
        exact ⟨rfl, ‹_›⟩
      · cases read
    · cases read
  · rintro ⟨rfl, inRange⟩
    exact if_pos inRange

end Json

theorem Status.read?_toJson (status : Status) : read? status.toJson = some status := by
  cases status <;> rfl

namespace Shape

theorem read_records {type : RecordType} {found : Option Json} {records : List type.Value}
    (held : (Shape.records type).read found = records) :
    ∀ record ∈ records, ∃ value, type.read? value = some record := by
  subst held
  cases read : found.bind (Json.list? type.read?) with
  | none =>
      intro record member
      have nothing : (Shape.records type).read found = [] := congrArg (Option.getD · []) read
      rw [nothing] at member
      cases member
  | some records =>
      obtain ⟨value, _, readValue⟩ := Option.bind_eq_some_iff.mp read
      have all : (Shape.records type).read found = records := congrArg (Option.getD · []) read
      rw [all]
      exact Json.mem_of_list? readValue

/-- An attribute that was read once is read again from what is written for it. -/
theorem read_write_read (shape : Shape) (parts : ∀ part ∈ shape.parts, part.ReadsBack)
    (found : Option Json) :
    shape.read (some (shape.write (shape.read found))) = shape.read found := by
  generalize held : shape.read found = value
  -- Where the value came from matters only for integers, which have a range, and for
  -- what is made of records.
  cases shape with
  | text | scalarText => cases value <;> rfl
  | flag => cases value <;> rfl
  | texts =>
      have again : Json.strings? (.ofList .string value) = some value :=
        Json.list?_ofList (fun _ _ => rfl)
      exact congrArg (Option.getD · []) again
  | status =>
      cases value with
      | none => rfl
      | some status => exact status.read?_toJson
  | time =>
      cases value with
      | none => rfl
      | some time => exact time.read?_toJson
  | integer low high =>
      cases value with
      | none => rfl
      | some n =>
          obtain ⟨value, _, read⟩ := Option.bind_eq_some_iff.mp held
          have inRange := (Json.integerIn?_eq_some_iff.mp read).2
          exact Json.integerIn?_eq_some_iff.mpr ⟨rfl, inRange⟩
  | record type =>
      cases value with
      | none => exact read_of_misses .null
      | some record =>
          obtain ⟨value, _, read⟩ := Option.bind_eq_some_iff.mp held
          exact parts type List.mem_cons_self value record read
  | records type =>
      have again : Json.list? type.read? (.ofList type.toJson value) = some value := by
        apply Json.list?_ofList
        intro record member
        obtain ⟨value, read⟩ := read_records held record member
        exact parts type List.mem_cons_self value record read
      exact congrArg (Option.getD · []) again
  | recordsIfGiven type =>
      cases value with
      | none => rfl
      | some records =>
          obtain ⟨value, _, read⟩ := Option.bind_eq_some_iff.mp held
          apply Json.list?_ofList
          intro record member
          obtain ⟨value, read⟩ := Json.mem_of_list? read record member
          exact parts type List.mem_cons_self value record read

theorem read_null (shape : Shape) : shape.read (some .null) = shape.read none := by
  rw [read_of_misses .null, read_of_misses .absent]

end Shape

namespace RecordType

/-- Reading under a name what is written for a record. -/
theorem read_lookup_members (type : RecordType) (record : type.Value) :
    ∀ entry ∈ type.attributes record,
      entry.2.shape.read ((type.members record).lookup entry.1) =
        entry.2.shape.read (some entry.2.toJson) := by
  intro entry member
  rcases type.lookup_members record entry member with written | ⟨omitted, null⟩
  · rw [written]
  · rw [omitted, null, Shape.read_null]

theorem ofFields_members (type : RecordType)
    (parts : ∀ entry ∈ type.layout, ∀ part ∈ entry.2.parts, part.ReadsBack) (fields : Fields) :
    type.ofFields (.ofMembers (type.members (type.ofFields fields))) = type.ofFields fields := by
  apply ofFields_congr
  intro entry member
  have held : (entry.1, ⟨entry.2, entry.2.read (fields entry.1)⟩) ∈
      type.attributes (type.ofFields fields) := by
    rw [attributes_ofFields]
    exact List.mem_map_of_mem
      (f := fun entry => (entry.1, Attribute.mk entry.2 (entry.2.read (fields entry.1)))) member
  have written := type.read_lookup_members (type.ofFields fields) _ held
  exact written.trans (entry.2.read_write_read (parts entry member) (fields entry.1))

theorem readsBack (type : RecordType) : type.ReadsBack := by
  induction type using nested_induction with
  | step type parts =>
      intro value record read
      rw [read?_eq, Option.map_eq_some_iff] at read
      obtain ⟨fields, _, rfl⟩ := read
      rw [toJson_eq, read?_object, type.ofFields_members parts fields]

end RecordType

end ReviewFeed
