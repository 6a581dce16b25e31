import ReviewFeed.Json.Value

/-!
# Reading JSON text

The grammar is the strict one: blanks are space, tab, line feed and carriage
return, strings hold no raw control character and no half of a surrogate pair,
nothing follows the value, and arrays and objects nest at most 127 deep.  A
number too large for a floating-point number is no JSON number here.
-/

namespace ReviewFeed.Json

def isSpace (c : Char) : Bool :=
  c == ' ' || c == '\t' || c == '\n' || c == '\r'

def skipSpace (chars : List Char) : List Char :=
  chars.dropWhile isSpace

/-- A piece of a string: a character, or a UTF-16 unit given by its number. -/
inductive Piece
  | char (c : Char)
  | unit (n : Nat)

/-- The character that follows a backslash, other than `u`. -/
def escaped? : Char → Option Char
  | '\x22' => some '\x22'
  | '\\' => some '\\'
  | '/' => some '/'
  | 'b' => some '\x08'
  | 'f' => some '\x0c'
  | 'n' => some '\n'
  | 'r' => some '\r'
  | 't' => some '\t'
  | _ => none

/-- The pieces of a string after its opening quote, and the text after its
closing one. -/
def pieces : List Char → Option (List Piece × List Char)
  | [] => none
  | '\x22' :: rest => some ([], rest)
  | '\\' :: 'u' :: a :: b :: c :: d :: rest => do
      let unit ← Text.readHex? [a, b, c, d]
      let (more, rest) ← pieces rest
      some (.unit unit :: more, rest)
  | '\\' :: e :: rest => do
      let c ← escaped? e
      let (more, rest) ← pieces rest
      some (.char c :: more, rest)
  | c :: rest =>
      if c.toNat < 0x20 || c == '\\' then none
      else do
        let (more, rest) ← pieces rest
        some (.char c :: more, rest)

/-- The leading units of surrogate pairs. -/
def isLeading (unit : Nat) : Bool :=
  0xD800 ≤ unit && unit < 0xDC00

/-- The trailing units of surrogate pairs. -/
def isTrailing (unit : Nat) : Bool :=
  0xDC00 ≤ unit && unit < 0xE000

/-- Joins the surrogate pairs among the pieces.  A half without its other half
has no character. -/
def joinPieces : List Piece → Option (List Char)
  | [] => some []
  | .char c :: rest => (joinPieces rest).map (c :: ·)
  | .unit n :: .unit m :: rest =>
      if isLeading n then
        if isTrailing m then
          (joinPieces rest).map (Char.ofNat (0x10000 + (n - 0xD800) * 0x400 + (m - 0xDC00)) :: ·)
        else none
      else if isTrailing n then none
      else (joinPieces (.unit m :: rest)).map (Char.ofNat n :: ·)
  | .unit n :: rest =>
      if isLeading n || isTrailing n then none else (joinPieces rest).map (Char.ofNat n :: ·)

/-- A string after its opening quote. -/
def readString (chars : List Char) : Option (String × List Char) := do
  let (found, rest) ← pieces chars
  let text ← joinPieces found
  some (String.ofList text, rest)

/-- The parts of a number's text: the whole digits, the digits after the point
and the exponent.  Without the last two it is an integer. -/
structure NumberText where
  negative : Bool
  whole : List Char
  fraction : List Char
  exponent : Int
  isInteger : Bool

/-- The greatest number in a word of 64 bits. -/
def greatestWord : Nat := 18446744073709551615

/-- Puts digits behind a number as long as it fits into 64 bits.  The result is the number
and how many digits are left. -/
def appendDigits (value : Nat) : List Char → Nat × Nat
  | [] => (value, 0)
  | digit :: rest =>
      let longer := 10 * value + Text.digitValue digit
      if longer ≤ greatestWord then appendDigits longer rest else (value, rest.length + 1)

/-- The value of a number that is no integer of 64 bits.  Only the first digits count, as
many as fit into 64 bits, and an exponent of more than 31 bits leads to zero or nowhere. -/
def NumberText.float? (text : NumberText) : Option Binary64 :=
  let (whole, more) := appendDigits 0 text.whole
  let (significand, left) := appendDigits whole text.fraction
  let power : Int := more - (text.fraction.length - left)
  if text.exponent.natAbs ≤ 2147483647 then
    Binary64.ofParts? text.negative significand (power + text.exponent)
  else if significand = 0 || text.exponent < 0 then some (Binary64.zero text.negative)
  else none

/-- The value of a number: an integer that fits into 64 bits, with a sign only
below zero, is kept as it is. -/
def NumberText.value? (text : NumberText) : Option JsonNumber :=
  let whole := Text.digitsValue text.whole
  if text.isInteger && !text.negative && whole ≤ 18446744073709551615 then some (.integer whole)
  else if text.isInteger && text.negative && 0 < whole && whole ≤ 9223372036854775808 then
    some (.integer (-(whole : Int)))
  else text.float?.map .float

/-- Digits, at least one, and the text after them. -/
def readDigitRow (chars : List Char) : Option (List Char × List Char) :=
  let row := chars.takeWhile Char.isDigit
  if row.isEmpty then none else some (row, chars.dropWhile Char.isDigit)

/-- The exponent part of a number, if there is one. -/
def readExponent (chars : List Char) : Option (Option Int × List Char) :=
  match chars with
  | e :: rest =>
      if e == 'e' || e == 'E' then
        match rest with
        | '-' :: rest => (readDigitRow rest).map
            (fun (row, rest) => (some (-(Text.digitsValue row : Int)), rest))
        | '+' :: rest => (readDigitRow rest).map
            (fun (row, rest) => (some (Text.digitsValue row : Int), rest))
        | _ => (readDigitRow rest).map
            (fun (row, rest) => (some (Text.digitsValue row : Int), rest))
      else some (none, chars)
  | [] => some (none, [])

/-- The digits after the point of a number, if there is a point. -/
def readFraction (chars : List Char) : Option (Option (List Char) × List Char) :=
  match chars with
  | '.' :: rest => (readDigitRow rest).map (fun (row, rest) => (some row, rest))
  | _ => some (none, chars)

/-- The whole part of a number: no zero stands before another digit. -/
def readWhole (chars : List Char) : Option (List Char × List Char) :=
  match chars with
  | '0' :: rest => some (['0'], rest)
  | _ => readDigitRow chars

def readNumber (chars : List Char) : Option (JsonNumber × List Char) := do
  let negative := chars.head? == some '-'
  let (whole, chars) ← readWhole (if negative then chars.drop 1 else chars)
  let (fraction, chars) ← readFraction chars
  let (exponent, chars) ← readExponent chars
  let text : NumberText :=
    { negative, whole
      fraction := fraction.getD []
      exponent := exponent.getD 0
      isInteger := fraction.isNone && exponent.isNone }
  let value ← text.value?
  some (value, chars)

/-- Items separated by commas, up to the closing bracket. -/
def readItems (item : List Char → Option (Json × List Char)) :
    Nat → List Char → Option (List Json × List Char)
  | 0, _ => none
  | fuel + 1, chars => do
      let (value, chars) ← item chars
      match skipSpace chars with
      | ',' :: rest =>
          let (more, rest) ← readItems item fuel rest
          some (value :: more, rest)
      | ']' :: rest => some ([value], rest)
      | _ => none

/-- Members separated by commas, up to the closing brace. -/
def readMembers (item : List Char → Option (Json × List Char)) :
    Nat → List Char → Option (List (String × Json) × List Char)
  | 0, _ => none
  | fuel + 1, chars =>
      match skipSpace chars with
      | '\x22' :: chars => do
          let (key, chars) ← readString chars
          match skipSpace chars with
          | ':' :: chars =>
              let (value, chars) ← item chars
              match skipSpace chars with
              | ',' :: rest =>
                  let (more, rest) ← readMembers item fuel rest
                  some ((key, value) :: more, rest)
              | '\x7d' :: rest => some ([(key, value)], rest)
              | _ => none
          | _ => none
      | _ => none

def readScalar (chars : List Char) : Option (Json × List Char) :=
  match chars with
  | '\x22' :: rest => (readString rest).map (fun (text, rest) => (.string text, rest))
  | 'n' :: 'u' :: 'l' :: 'l' :: rest => some (.null, rest)
  | 't' :: 'r' :: 'u' :: 'e' :: rest => some (.bool true, rest)
  | 'f' :: 'a' :: 'l' :: 's' :: 'e' :: rest => some (.bool false, rest)
  | _ => (readNumber chars).map (fun (value, rest) => (.number value, rest))

/-- A value in which arrays and objects nest at most as deep as given. -/
def readValue : Nat → List Char → Option (Json × List Char)
  | 0, chars =>
      match skipSpace chars with
      | '[' :: _ => none
      | '\x7b' :: _ => none
      | chars => readScalar chars
  | depth + 1, chars =>
      match skipSpace chars with
      | '[' :: rest =>
          match skipSpace rest with
          | ']' :: rest => some (.array [], rest)
          | rest => (readItems (fun chars => readValue depth chars) rest.length rest).map
              (fun (items, rest) => (.array items, rest))
      | '\x7b' :: rest =>
          match skipSpace rest with
          | '\x7d' :: rest => some (.object [], rest)
          | rest => (readMembers (fun chars => readValue depth chars) rest.length rest).map
              (fun (pairs, rest) => (.object (Association.ofPairs pairs), rest))
      | chars => readScalar chars

/-- How deep arrays and objects may nest. -/
def deepest : Nat := 127

/-- The value of a JSON text, or `none` if it is not one. -/
def read? (text : String) : Option Json := do
  let (value, rest) ← readValue deepest text.toList
  if rest.all isSpace then some value else none

/-- The members of a JSON text that is an object. -/
def readObject? (text : String) : Option Members :=
  (read? text).bind members?

end ReviewFeed.Json
