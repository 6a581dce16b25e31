import ReviewFeed.Attribute.Fields

/-!
# Ref updates
-/

namespace ReviewFeed

/-- An update of a ref pushed to a project. -/
structure RefUpdate where
  oldRev : Option String
  newRev : Option String
  refName : Option String
  project : Option String
  deriving DecidableEq, Repr

namespace RefUpdate

/-- The names of the fields, in order. -/
def fieldNames : List String := ["oldRev", "newRev", "refName", "project"]

def ofFields (fields : Fields) : RefUpdate :=
  { oldRev := fields.read "oldRev" Json.string?
    newRev := fields.read "newRev" Json.string?
    refName := fields.read "refName" Json.string?
    project := fields.read "project" Json.string? }

def read? (value : Json) : Option RefUpdate :=
  (Fields.ofJson? fieldNames value).map ofFields

def toJson (update : RefUpdate) : Json :=
  .object
    [("oldRev", .ofOption .string update.oldRev),
      ("newRev", .ofOption .string update.newRev),
      ("refName", .ofOption .string update.refName),
      ("project", .ofOption .string update.project)]

end RefUpdate

end ReviewFeed
