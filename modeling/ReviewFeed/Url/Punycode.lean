/-!
# Punycode

The ASCII form of a label with other characters: its ASCII characters, and behind
the last hyphen the others as numbers in a base of 36 with variable digits.  Each
number says how far the next character lies from the one before, counted over all
code points and places.
-/

namespace ReviewFeed.Punycode

def digit? (c : Char) : Option Nat :=
  if 'a' ≤ c && c ≤ 'z' then some (c.toNat - 'a'.toNat)
  else if '0' ≤ c && c ≤ '9' then some (c.toNat - '0'.toNat + 26)
  else none

/-- The threshold of a digit: a digit below it is the last one of its number. -/
def threshold (position bias : Nat) : Nat :=
  if position ≤ bias then 1 else if bias + 26 ≤ position then 26 else position - bias

/-- Divides a distance until it is small, and counts the base for each time. -/
def reduce (distance bias : Nat) : Nat × Nat :=
  if 455 < distance then reduce (distance / 35) (bias + 36) else (distance, bias)
termination_by distance
decreasing_by exact Nat.div_lt_self (by omega) (by omega)

/-- The bias after a distance, with this many characters in place. -/
def adapt (distance count : Nat) (first : Bool) : Nat :=
  let scaled := if first then distance / 700 else distance / 2
  let (rest, bias) := reduce (scaled + scaled / count) 0
  bias + 36 * rest / (rest + 38)

/-- A number from its digits, lowest first, and the digits after it. -/
def number (bias : Nat) : List Char → Nat → Nat → Option (Nat × List Char)
  | [], _, _ => none
  | c :: rest, position, weight =>
      match digit? c with
      | none => none
      | some digit =>
          let limit := threshold position bias
          if digit < limit then some (digit * weight, rest)
          else
            (number bias rest (position + 36) (weight * (36 - limit))).map
              (fun (more, rest) => (digit * weight + more, rest))

/-- Inserts the characters given by numbers into those in place. -/
def insertAll : Nat → List Char → List Char → Nat → Nat → Nat → Bool → Option (List Char)
  | 0, _, _, _, _, _, _ => none
  | fuel + 1, digits, chars, code, place, bias, first =>
      if digits.isEmpty then some chars
      else
        match number bias digits 36 1 with
        | none => none
        | some (distance, digits) =>
            let count := chars.length + 1
            let next := place + distance
            let code := code + next / count
            let place := next % count
            if code < 0x110000 && !(0xD800 ≤ code && code < 0xE000) then
              insertAll fuel digits (chars.take place ++ Char.ofNat code :: chars.drop place)
                code (place + 1) (adapt distance count first) false
            else none

/-- The characters of an encoded label.  There is none with a hyphen at its end,
which would have no character to add. -/
def decode? (label : List Char) : Option (List Char) :=
  let digits := (label.reverse.takeWhile (· != '-')).reverse
  let basic := label.take (label.length - digits.length - 1)
  if digits.isEmpty then none
  else if basic.isEmpty && digits.length < label.length then none
  else insertAll (digits.length + 1) digits basic 128 0 72 true

end ReviewFeed.Punycode
