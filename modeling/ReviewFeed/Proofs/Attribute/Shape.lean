import ReviewFeed.Attribute.Change
import ReviewFeed.Attribute.PatchSet
import ReviewFeed.Attribute.Provider
import ReviewFeed.Attribute.RefUpdate
import ReviewFeed.Proofs.Association
import ReviewFeed.Proofs.Time.Timestamp

/-!
# Attributes by shape

Every attribute has one of a few shapes.  The shape says which JSON values are
read, as what, and what an attribute holds when there is no such value.
-/

namespace ReviewFeed

/-- The records that occur in events and answers. -/
inductive RecordType
  | account
  | comment
  | change
  | approval
  | patchSetFile
  | patchSet
  | refUpdate
  | provider
  deriving DecidableEq, Repr

namespace RecordType

abbrev Value : RecordType → Type
  | .account => Account
  | .comment => Comment
  | .change => Change
  | .approval => Approval
  | .patchSetFile => PatchSetFile
  | .patchSet => PatchSet
  | .refUpdate => RefUpdate
  | .provider => Provider

def fieldNames : RecordType → List String
  | .account => Account.fieldNames
  | .comment => Comment.fieldNames
  | .change => Change.fieldNames
  | .approval => Approval.fieldNames
  | .patchSetFile => PatchSetFile.fieldNames
  | .patchSet => PatchSet.fieldNames
  | .refUpdate => RefUpdate.fieldNames
  | .provider => Provider.fieldNames

def ofFields : (type : RecordType) → Fields → type.Value
  | .account => Account.ofFields
  | .comment => Comment.ofFields
  | .change => Change.ofFields
  | .approval => Approval.ofFields
  | .patchSetFile => PatchSetFile.ofFields
  | .patchSet => PatchSet.ofFields
  | .refUpdate => RefUpdate.ofFields
  | .provider => Provider.ofFields

def read? : (type : RecordType) → Json → Option type.Value
  | .account => Account.read?
  | .comment => Comment.read?
  | .change => Change.read?
  | .approval => Approval.read?
  | .patchSetFile => PatchSetFile.read?
  | .patchSet => PatchSet.read?
  | .refUpdate => RefUpdate.read?
  | .provider => Provider.read?

def toJson : (type : RecordType) → type.Value → Json
  | .account => Account.toJson
  | .comment => Comment.toJson
  | .change => Change.toJson
  | .approval => Approval.toJson
  | .patchSetFile => PatchSetFile.toJson
  | .patchSet => PatchSet.toJson
  | .refUpdate => RefUpdate.toJson
  | .provider => Provider.toJson

theorem read?_eq (type : RecordType) (value : Json) :
    type.read? value = (Fields.ofJson? type.fieldNames value).map type.ofFields := by
  cases type <;> rfl

end RecordType

/-- How an attribute is read. -/
inductive Shape
  | text
  | scalarText
  | texts
  | flag
  | status
  | time
  | integer (low high : Int)
  | record (type : RecordType)
  | records (type : RecordType)
  | recordsIfGiven (type : RecordType)
  deriving DecidableEq, Repr

namespace Shape

/-- What a single JSON value is read as. -/
abbrev Reading : Shape → Type
  | .text | .scalarText => String
  | .texts => List String
  | .flag => Bool
  | .status => Status
  | .time => Timestamp
  | .integer _ _ => Int
  | .record type => type.Value
  | .records type | .recordsIfGiven type => List type.Value

/-- What an attribute holds, read or not. -/
abbrev Value : Shape → Type
  | .text | .scalarText => Option String
  | .texts => List String
  | .flag => Bool
  | .status => Option Status
  | .time => Option Timestamp
  | .integer _ _ => Option Int
  | .record type => Option type.Value
  | .records type => List type.Value
  | .recordsIfGiven type => Option (List type.Value)

def read? : (shape : Shape) → Json → Option shape.Reading
  | .text => Json.string?
  | .scalarText => Json.scalarText?
  | .texts => Json.strings?
  | .flag => fun
    | .bool value => some value
    | _ => none
  | .status => Status.read?
  | .time => Timestamp.read?
  | .integer low high => Json.integerIn? low high
  | .record type => type.read?
  | .records type | .recordsIfGiven type => Json.list? type.read?

/-- What an attribute holds after an attempt to read it. -/
def hold : (shape : Shape) → Option shape.Reading → shape.Value
  | .text, reading | .scalarText, reading => reading
  | .texts, reading => reading.getD []
  | .flag, reading => reading == some true
  | .status, reading => reading
  | .time, reading => reading
  | .integer _ _, reading => reading
  | .record _, reading => reading
  | .records _, reading => reading.getD []
  | .recordsIfGiven _, reading => reading

/-- What an attribute holds, given the value found under its name. -/
def read (shape : Shape) (found : Option Json) : shape.Value :=
  shape.hold (found.bind shape.read?)

/-- An attribute that was not read: unset, empty or false. -/
def blank : (shape : Shape) → shape.Value
  | .text | .scalarText | .status | .time | .integer _ _ | .record _ | .recordsIfGiven _ => none
  | .texts | .records _ => []
  | .flag => false

def write : (shape : Shape) → shape.Value → Json
  | .text, value | .scalarText, value => .ofOption .string value
  | .texts, values => .ofList .string values
  | .flag, value => .bool value
  | .status, value => .ofOption Status.toJson value
  | .time, value => .ofOption Timestamp.toJson value
  | .integer _ _, value => .ofOption .ofInt value
  | .record type, value => .ofOption type.toJson value
  | .records type, values => .ofList type.toJson values
  | .recordsIfGiven type, values => .ofOption (Json.ofList type.toJson) values

theorem read_eq_blank (shape : Shape) {found : Option Json}
    (unread : found.bind shape.read? = none) : shape.read found = shape.blank := by
  rw [read, unread]
  cases shape <;> rfl

/-- The JSON values of a shape: those that it can be read from. -/
inductive Fits : Shape → Json → Prop
  | text (text : String) : Fits .text (.string text)
  | textAsScalar (text : String) : Fits .scalarText (.string text)
  | numberAsScalar (number : JsonNumber) : Fits .scalarText (.number number)
  | flagAsScalar (value : Bool) : Fits .scalarText (.bool value)
  | texts {items : List Json} (each : ∀ item ∈ items, Fits .text item) :
      Fits .texts (.array items)
  | flag (value : Bool) : Fits .flag (.bool value)
  | statusName (name : String) : Fits .status (.string name)
  | statusVariant (name : String) : Fits .status (.object [(name, .null)])
  | time {value : Json} {seconds : Int} (stated : Timestamp.statedSeconds? value = some seconds)
      (inCalendar : -8334601228800 ≤ seconds ∧ seconds ≤ 8210266876799) : Fits .time value
  | integer {low high n : Int} (inRange : low ≤ n ∧ n ≤ high) :
      Fits (.integer low high) (.number (.integer n))
  | recordOfObject (type : RecordType) (members : Members) :
      Fits (.record type) (.object members)
  | recordOfArray {type : RecordType} {items : List Json}
      (fewEnough : items.length ≤ type.fieldNames.length) : Fits (.record type) (.array items)
  | records {type : RecordType} {items : List Json}
      (each : ∀ item ∈ items, Fits (.record type) item) : Fits (.records type) (.array items)
  | recordsIfGiven {type : RecordType} {items : List Json}
      (each : ∀ item ∈ items, Fits (.record type) item) :
      Fits (.recordsIfGiven type) (.array items)

theorem text_fits_iff {value : Json} :
    (Shape.text.read? value).isSome = true ↔ Shape.text.Fits value := by
  constructor
  · intro readable
    cases value with
    | string text => exact .text text
    | null | bool _ | number _ | array _ | object _ => cases readable
  · rintro ⟨⟩
    rfl

theorem scalarText_fits_iff {value : Json} :
    (scalarText.read? value).isSome = true ↔ scalarText.Fits value := by
  constructor
  · intro readable
    cases value with
    | string text => exact .textAsScalar text
    | number number => exact .numberAsScalar number
    | bool value => exact .flagAsScalar value
    | null | array _ | object _ => cases readable
  · intro fits
    cases fits with
    | textAsScalar text => rfl
    | numberAsScalar number => rfl
    | flagAsScalar value => cases value <;> rfl

theorem flag_fits_iff {value : Json} : (flag.read? value).isSome = true ↔ flag.Fits value := by
  constructor
  · intro readable
    cases value with
    | bool value => exact .flag value
    | null | number _ | string _ | array _ | object _ => cases readable
  · rintro ⟨⟩
    rfl

theorem status_fits_iff {value : Json} :
    (status.read? value).isSome = true ↔ status.Fits value := by
  constructor
  · intro readable
    simp only [Shape.read?] at readable
    unfold Status.read? at readable
    split at readable
    · exact .statusName _
    · exact .statusVariant _
    · cases readable
  · rintro ⟨⟩ <;> rfl

theorem time_fits_iff {value : Json} : (time.read? value).isSome = true ↔ time.Fits value := by
  rw [Option.isSome_iff_exists]
  constructor
  · rintro ⟨time, found⟩
    exact .time (Timestamp.read?_eq_some_iff.mp found) time.inCalendar
  · intro fits
    cases fits with
    | time stated inCalendar => exact ⟨⟨_, inCalendar⟩, Timestamp.read?_eq_some_iff.mpr stated⟩

theorem integer_fits_iff {low high : Int} {value : Json} :
    ((integer low high).read? value).isSome = true ↔ (integer low high).Fits value := by
  constructor
  · intro readable
    simp only [Shape.read?] at readable
    unfold Json.integerIn? at readable
    split at readable
    · split at readable
      · rename_i inRange
        exact .integer inRange
      · cases readable
    · cases readable
  · intro fits
    cases fits with
    | integer inRange =>
        simp only [Shape.read?, Json.integerIn?, if_pos inRange, Option.isSome_some]

theorem record_fits_iff {type : RecordType} {value : Json} :
    ((record type).read? value).isSome = true ↔ (record type).Fits value := by
  rw [Shape.read?, RecordType.read?_eq, Option.isSome_map]
  constructor
  · intro readable
    cases value with
    | object members => exact .recordOfObject type members
    | array items =>
        rw [Fields.ofJson?] at readable
        split at readable
        · rename_i fewEnough
          exact .recordOfArray fewEnough
        · cases readable
    | null | bool _ | number _ | string _ => cases readable
  · intro fits
    cases fits with
    | recordOfObject type members => rfl
    | recordOfArray fewEnough =>
        rw [Fields.ofJson?, if_pos fewEnough]
        rfl

theorem isSome_mapM_iff {reader : Json → Option α} {items : List Json} :
    (items.mapM reader).isSome = true ↔ ∀ item ∈ items, (reader item).isSome = true := by
  induction items with
  | nil => simp
  | cons item rest induction =>
      rw [List.forall_mem_cons, ← induction, List.mapM_cons]
      cases reader item <;> cases rest.mapM reader <;> simp

theorem isSome_list?_iff {reader : Json → Option α} {value : Json} :
    (Json.list? reader value).isSome = true ↔
      ∃ items, value = .array items ∧ ∀ item ∈ items, (reader item).isSome = true := by
  constructor
  · intro readable
    cases value with
    | array items => exact ⟨items, rfl, isSome_mapM_iff.mp readable⟩
    | null | bool _ | number _ | string _ | object _ => cases readable
  · rintro ⟨items, rfl, each⟩
    exact isSome_mapM_iff.mpr each

/-- A shape is read from exactly the values that fit it. -/
theorem fits_iff {shape : Shape} {value : Json} :
    (shape.read? value).isSome = true ↔ shape.Fits value := by
  cases shape with
  | text => exact text_fits_iff
  | scalarText => exact scalarText_fits_iff
  | flag => exact flag_fits_iff
  | status => exact status_fits_iff
  | time => exact time_fits_iff
  | integer low high => exact integer_fits_iff
  | record type => exact record_fits_iff
  | texts =>
      refine isSome_list?_iff.trans ⟨?_, ?_⟩
      · rintro ⟨items, rfl, each⟩
        exact .texts (fun item member => text_fits_iff.mp (each item member))
      · intro fits
        cases fits with
        | texts each => exact ⟨_, rfl, fun item member => text_fits_iff.mpr (each item member)⟩
  | records type =>
      refine isSome_list?_iff.trans ⟨?_, ?_⟩
      · rintro ⟨items, rfl, each⟩
        exact .records (fun item member => record_fits_iff.mp (each item member))
      · intro fits
        cases fits with
        | records each =>
            exact ⟨_, rfl, fun item member => record_fits_iff.mpr (each item member)⟩
  | recordsIfGiven type =>
      refine isSome_list?_iff.trans ⟨?_, ?_⟩
      · rintro ⟨items, rfl, each⟩
        exact .recordsIfGiven (fun item member => record_fits_iff.mp (each item member))
      · intro fits
        cases fits with
        | recordsIfGiven each =>
            exact ⟨_, rfl, fun item member => record_fits_iff.mpr (each item member)⟩

theorem not_fits_null (shape : Shape) : ¬ shape.Fits .null := by
  intro fits
  cases fits with
  | time stated _ => cases stated

/-- No value is found that can be read: there is none, or it is null or of another
shape. -/
inductive Misses (shape : Shape) : Option Json → Prop
  | absent : Misses shape none
  | null : Misses shape (some .null)
  | unfit {value : Json} (other : ¬ shape.Fits value) : Misses shape (some value)

theorem read_of_misses {shape : Shape} {found : Option Json} (misses : shape.Misses found) :
    shape.read found = shape.blank := by
  have unread : ∀ value, ¬ shape.Fits value → shape.read? value = none := by
    intro value other
    rwa [← fits_iff, Option.not_isSome_iff_eq_none] at other
  apply read_eq_blank
  cases misses with
  | absent => rfl
  | null => exact unread .null shape.not_fits_null
  | unfit other => exact unread _ other

end Shape

/-- A value together with its shape. -/
structure Attribute where
  shape : Shape
  value : shape.Value

def Attribute.toJson (held : Attribute) : Json :=
  held.shape.write held.value

/-- The names under which attributes are found, with their shapes. -/
abbrev Layout := List (String × Shape)

end ReviewFeed
