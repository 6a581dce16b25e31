/-!
# TOML values

A table remembers how it came to be, which decides whether later lines may still
extend it.  Of floating-point numbers and points in time only that they are there
is kept.
-/

namespace ReviewFeed

/-- How a table came to be. -/
inductive TableOrigin
  /-- By a header of its own. -/
  | header
  /-- By being named within a longer header. -/
  | implied
  /-- By being named within a dotted key. -/
  | dotted
  /-- By being written in braces. -/
  | inline
  deriving DecidableEq, Repr

inductive Toml
  | string (text : String)
  | integer (value : Int)
  | float
  | bool (value : Bool)
  | time
  | array (items : List Toml)
  /-- An array of tables, built by headers in double brackets. -/
  | tables (items : List Toml)
  | table (origin : TableOrigin) (entries : List (String × Toml))
  deriving Repr

namespace Toml

/-- The entries of a table, in the order in which they were made. -/
abbrev Entries := List (String × Toml)

/-- Replaces the value of a key that is there. -/
def replace (key : String) (value : Toml) (entries : Entries) : Entries :=
  entries.map (fun (other, old) => if other = key then (other, value) else (other, old))

end Toml

end ReviewFeed
