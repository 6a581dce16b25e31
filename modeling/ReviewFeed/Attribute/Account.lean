import ReviewFeed.Attribute.Fields

/-!
# Accounts
-/

namespace ReviewFeed

structure Account where
  name : Option String
  email : Option String
  username : Option String
  deriving DecidableEq, Repr

namespace Account

/-- The names of the fields, in order. -/
def fieldNames : List String := ["name", "email", "username"]

def ofFields (fields : Fields) : Account :=
  { name := fields.read "name" Json.string?
    email := fields.read "email" Json.string?
    username := fields.read "username" Json.string? }

def read? (value : Json) : Option Account :=
  (Fields.ofJson? fieldNames value).map ofFields

/-- A member for a field that is set, and none for one that is not. -/
def member (name : String) : Option String → Members
  | some text => [(name, .string text)]
  | none => []

/-- Fields that are not set are left out. -/
def toJson (account : Account) : Json :=
  .object (member "name" account.name ++ member "email" account.email ++
    member "username" account.username)

/-- An account known by display name and address. -/
def ofNameAndEmail (name email : String) : Account :=
  { name := some name, email := some email, username := none }

/-- The name in quotes and the address in angle brackets.  There is no text when
neither is known, and an empty one when both are empty. -/
def nameAndEmail? (account : Account) : Option String :=
  match account.name, account.email with
  | none, none => none
  | name, email =>
      if name = some "" ∧ email = some "" then some ""
      else some ("\"" ++ name.getD "" ++ "\" <" ++ email.getD "" ++ ">")

end Account

end ReviewFeed
