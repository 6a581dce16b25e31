/-!
# Associations

Values under text keys, in the order of the keys.  A key occurs at most once.
-/

namespace ReviewFeed

abbrev Association (α : Type) := List (String × α)

namespace Association

/-- Binds a key, replacing an earlier value of it. -/
def bind (key : String) (value : α) : Association α → Association α
  | [] => [(key, value)]
  | (other, old) :: rest =>
      if key = other then (key, value) :: rest
      else if key < other then (key, value) :: (other, old) :: rest
      else (other, old) :: bind key value rest

/-- The association of pairs that came in this order: of a repeated key the last
value counts. -/
def ofPairs (pairs : List (String × α)) : Association α :=
  pairs.foldl (fun entries (key, value) => bind key value entries) []

end Association

end ReviewFeed
