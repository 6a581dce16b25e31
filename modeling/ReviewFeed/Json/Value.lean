import ReviewFeed.Association
import ReviewFeed.Number.Shortest
import ReviewFeed.Text.Numeral

/-!
# JSON values

A number is kept as an integer when its text is one and it fits into 64 bits,
and as a floating-point number otherwise.  The members of an object are kept in
the order of their keys when they were read, and in the order of declaration
when a record was written.
-/

namespace ReviewFeed

inductive JsonNumber
  | integer (value : Int)
  | float (value : Binary64)
  deriving DecidableEq, Repr

def JsonNumber.text : JsonNumber → List Char
  | .integer value => Text.signedDigits value
  | .float value => value.text

inductive Json
  | null
  | bool (value : Bool)
  | number (value : JsonNumber)
  | string (value : String)
  | array (items : List Json)
  | object (members : List (String × Json))
  deriving Repr

abbrev Members := List (String × Json)

namespace Json

def members? : Json → Option Members
  | .object members => some members
  | _ => none

def items? : Json → Option (List Json)
  | .array items => some items
  | _ => none

def string? : Json → Option String
  | .string text => some text
  | _ => none

/-- The value that an object binds to a key. -/
def get? (key : String) : Json → Option Json
  | .object members => members.lookup key
  | _ => none

def isObject : Json → Bool
  | .object _ => true
  | _ => false

def isString : Json → Bool
  | .string _ => true
  | _ => false

/-- An optional value, with `null` for none. -/
def ofOption (write : α → Json) : Option α → Json
  | some value => write value
  | none => .null

def ofNat (n : Nat) : Json :=
  .number (.integer n)

def ofInt (n : Int) : Json :=
  .number (.integer n)

end Json

end ReviewFeed
