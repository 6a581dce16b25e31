import ReviewFeed.Number.Binary64
import ReviewFeed.Text.Numeral
import ReviewFeed.Toml.Value

/-!
# TOML atoms

The values that are a single word: truth values, numbers and points in time.
-/

namespace ReviewFeed.Toml

/-- The digits of a row in which an underscore may stand between two digits. -/
def ungrouped? (isDigit : Char → Bool) : List Char → Option (List Char)
  | [] => none
  | [c] => if isDigit c then some [c] else none
  | c :: '_' :: rest => if isDigit c then (ungrouped? isDigit rest).map (c :: ·) else none
  | c :: rest => if isDigit c then (ungrouped? isDigit rest).map (c :: ·) else none

/-- The sign in front of a word, and the rest of it. -/
def splitSign : List Char → Bool × List Char
  | '-' :: rest => (true, rest)
  | '+' :: rest => (false, rest)
  | rest => (false, rest)

/-- The digits of a whole number, which has no zero in front of another digit. -/
def wholeDigits? (chars : List Char) : Option (List Char) :=
  match chars with
  | ['0'] => some ['0']
  | '0' :: _ => none
  | chars => ungrouped? Char.isDigit chars

/-- An integer that fits into a signed 64-bit word. -/
def word? (value : Int) : Option Toml :=
  if -9223372036854775808 ≤ value ∧ value ≤ 9223372036854775807 then some (.integer value)
  else none

/-- The value of a row of digits in a base. -/
def inBase (base : Nat) (digits : List Char) : Int :=
  digits.foldl (fun value c => base * value + (Text.hexValue? c).getD 0) 0

/-- An integer, in decimal or with the mark of its base. -/
def integer? (chars : List Char) : Option Toml :=
  match chars with
  | '0' :: 'x' :: row =>
      (ungrouped? (fun c => (Text.hexValue? c).isSome) row).bind (fun row => word? (inBase 16 row))
  | '0' :: 'o' :: row =>
      (ungrouped? (fun c => '0' ≤ c && c ≤ '7') row).bind (fun row => word? (inBase 8 row))
  | '0' :: 'b' :: row =>
      (ungrouped? (fun c => c == '0' || c == '1') row).bind (fun row => word? (inBase 2 row))
  | chars =>
      let (negative, row) := splitSign chars
      (wholeDigits? row).bind
        (fun row => word? (if negative then -inBase 10 row else inBase 10 row))

def exponent? (chars : List Char) : Option Int :=
  let (negative, row) := splitSign chars
  (ungrouped? Char.isDigit row).map (fun row => if negative then -inBase 10 row else inBase 10 row)

/-- A floating-point number, with a fraction or an exponent.  A positive one must
not be too large. -/
def float? (chars : List Char) : Option Toml :=
  let (negative, rest) := splitSign chars
  if rest = "inf".toList ∨ rest = "nan".toList then some .float
  else do
    let isMark (c : Char) : Bool := c == 'e' || c == 'E'
    let significand := rest.takeWhile (fun c => !isMark c)
    let whole ← wholeDigits? (significand.takeWhile (· != '.'))
    let fraction ←
      match significand.dropWhile (· != '.') with
      | [] => some []
      | _ :: row => ungrouped? Char.isDigit row
    let exponent ←
      match rest.dropWhile (fun c => !isMark c) with
      | [] => if fraction.isEmpty then none else some 0
      | _ :: row => exponent? row
    let value := Binary64.ofDecimal? negative (Text.digitsValue (whole ++ fraction))
      (exponent - fraction.length)
    if value.isSome || negative then some .float else none

/-- A number of exactly two digits up to a bound. -/
def twoDigits? (bound : Nat) (a b : Char) : Option Nat :=
  (Text.readDigits? [a, b]).filter (· ≤ bound)

def daysOfMonth (year month : Nat) : Nat :=
  if month = 2 then
    if year % 4 = 0 ∧ (year % 100 ≠ 0 ∨ year % 400 = 0) then 29 else 28
  else if month ∈ [4, 6, 9, 11] then 30
  else 31

/-- Whether a word is a date, and the rest of it. -/
def splitDate? : List Char → Option (List Char)
  | y :: e :: a :: r :: '-' :: m :: o :: '-' :: d :: t :: rest => do
      let year ← Text.readDigits? [y, e, a, r]
      let month ← twoDigits? 12 m o
      let day ← twoDigits? 31 d t
      if 1 ≤ month ∧ 1 ≤ day ∧ day ≤ daysOfMonth year month then some rest else none
  | _ => none

/-- Whether a word is a time of day, and the rest of it. -/
def splitTime? : List Char → Option (List Char)
  | h :: o :: ':' :: m :: i :: ':' :: s :: e :: rest => do
      let _ ← twoDigits? 23 h o
      let _ ← twoDigits? 59 m i
      let _ ← twoDigits? 60 s e
      match rest with
      | '.' :: rest =>
          if rest.head?.any Char.isDigit then some (rest.dropWhile Char.isDigit) else none
      | rest => some rest
  | _ => none

/-- Whether a word is nothing or an offset from universal time. -/
def isOffset : List Char → Bool
  | [] => true
  | ['Z'] => true
  | ['z'] => true
  | [sign, h, o, ':', m, i] =>
      (sign == '+' || sign == '-') && (twoDigits? 23 h o).isSome && (twoDigits? 59 m i).isSome
  | _ => false

/-- Whether a word is a time of day with or without an offset. -/
def isOffsetTime (chars : List Char) : Bool :=
  (splitTime? chars).any isOffset

def isDate (chars : List Char) : Bool :=
  splitDate? chars == some []

def time? (chars : List Char) : Option Toml :=
  let isTime :=
    match splitDate? chars with
    | some [] => true
    | some (mark :: clock) => (mark == 'T' || mark == 't') && isOffsetTime clock
    | none => splitTime? chars == some []
  if isTime then some .time else none

def atom? (chars : List Char) : Option Toml :=
  if chars = "true".toList then some (.bool true)
  else if chars = "false".toList then some (.bool false)
  else (time? chars).or ((float? chars).or (integer? chars))

end ReviewFeed.Toml
