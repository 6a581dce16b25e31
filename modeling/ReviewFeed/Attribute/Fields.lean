import ReviewFeed.Time.Timestamp

/-!
# Fields of an attribute record

A record is read from an object by the names of its fields, or from an array by
their order.  A field that is absent, null or unreadable is simply unset and
never spoils the record around it; a list with an unreadable item is no list.
-/

namespace ReviewFeed

/-- What a record binds to the names of its fields. -/
abbrev Fields := String → Option Json

/-- The fields of a record with these names: those of an object, or the items of
an array that has at most as many. -/
def Fields.ofJson? (names : List String) : Json → Option Fields
  | .object members => some (fun name => members.lookup name)
  | .array items =>
      if items.length ≤ names.length then some (fun name => (names.zip items).lookup name)
      else none
  | _ => none

/-- The fields of an object given by its members. -/
def Fields.ofMembers (members : Members) : Fields :=
  fun name => members.lookup name

namespace Fields

/-- The value of a field, if it is there and can be read. -/
def read (fields : Fields) (name : String) (reader : Json → Option α) : Option α :=
  (fields name).bind reader

/-- The items of a list field; an unreadable list is empty. -/
def list (fields : Fields) (name : String) (reader : Json → Option (List α)) : List α :=
  (fields.read name reader).getD []

/-- A truth value, false unless it is set. -/
def flag (fields : Fields) (name : String) : Bool :=
  fields.read name (fun | .bool value => some value | _ => none) == some true

end Fields

namespace Json

/-- A string as it is; a number or a truth value as it is written. -/
def scalarText? : Json → Option String
  | .string text => some text
  | .number value => some (String.ofList value.text)
  | .bool true => some "true"
  | .bool false => some "false"
  | _ => none

def integerIn? (low high : Int) : Json → Option Int
  | .number (.integer n) => if low ≤ n ∧ n ≤ high then some n else none
  | _ => none

def word? (value : Json) : Option Int :=
  value.integerIn? (-9223372036854775808) 9223372036854775807

/-- An array all items of which can be read. -/
def list? (reader : Json → Option α) : Json → Option (List α)
  | .array items => items.mapM reader
  | _ => none

def strings? (value : Json) : Option (List String) :=
  value.list? string?

/-- A list, item by item. -/
def ofList (write : α → Json) (items : List α) : Json :=
  .array (items.map write)

end Json

end ReviewFeed
