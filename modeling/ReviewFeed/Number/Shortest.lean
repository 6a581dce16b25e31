import ReviewFeed.Number.Binary64

/-!
# The shortest decimal of a floating-point number

A floating-point number is written with the fewest digits that still read back
as the same number, and with the nearest such digits; of two equally near the
even last digit is taken.  All comparisons are between whole numbers.
-/

namespace ReviewFeed

namespace Binary64

/-- A positive number `numerator / denominator`, with the ends of the interval
of reals that round to it, over four times the denominator. -/
structure RoundingInterval where
  low : Nat
  value : Nat
  high : Nat
  unit : Nat
  closed : Bool

/-- The reals that round to `mantissa * 2 ^ exponent`.  Below the least mantissa
of a binade the neighbour is only half as far away. -/
def roundingInterval (mantissa : Nat) (exponent : Int) : RoundingInterval :=
  let up := Nat.pow 2 exponent.toNat
  let down := Nat.pow 2 (-exponent).toNat
  let below := if mantissa = Nat.pow 2 52 && leastExponent < exponent then 1 else 2
  { low := (4 * mantissa - below) * up
    value := 4 * mantissa * up
    high := (4 * mantissa + 2) * up
    unit := 4 * down
    closed := mantissa % 2 == 0 }

/-- Whether the decimal `digits * 10 ^ power` rounds to the number. -/
def RoundingInterval.contains (interval : RoundingInterval) (digits : Nat) (power : Int) : Bool :=
  let point := digits * Nat.pow 10 power.toNat * interval.unit
  let scale := Nat.pow 10 (-power).toNat
  if interval.closed then interval.low * scale ≤ point && point ≤ interval.high * scale
  else interval.low * scale < point && point < interval.high * scale

/-- The power of ten of the leading digit. -/
def RoundingInterval.leadingPower (interval : RoundingInterval) : Int :=
  if interval.unit ≤ interval.value then
    (Nat.toDigits 10 (interval.value / interval.unit)).length - 1
  else
    let scaled := interval.value * Nat.pow 10 400 / interval.unit
    (Nat.toDigits 10 scaled).length - 401

/-- The better of the two neighbours of the number on the grid of multiples of
`10 ^ power`, if one of them rounds to it. -/
def RoundingInterval.onGrid? (interval : RoundingInterval) (power : Int) : Option Nat :=
  let scaled := interval.value * Nat.pow 10 (-power).toNat
  let step := interval.unit * Nat.pow 10 power.toNat
  let floor := scaled / step
  let rest := 2 * (scaled % step)
  let floorFits := interval.contains floor power
  let ceilingFits := interval.contains (floor + 1) power
  match floorFits, ceilingFits with
  | false, false => none
  | true, false => some floor
  | false, true => some (floor + 1)
  | true, true =>
      if rest < step || (rest == step && floor % 2 == 0) then some floor else some (floor + 1)

/-- The first grid that has a point in the interval, from the given power of
ten down. -/
def RoundingInterval.search (interval : RoundingInterval) : Nat → Int → Nat × Int
  | 0, power => (0, power)
  | more + 1, power =>
      match interval.onGrid? power with
      | some digits => (digits, power)
      | none => interval.search more (power - 1)

/-- Digits and power of ten of the shortest decimal of a positive number;
seventeen digits always suffice. -/
def shortest (mantissa : Nat) (exponent : Int) : Nat × Int :=
  let interval := roundingInterval mantissa exponent
  interval.search 18 interval.leadingPower

/-- A row of digits without the zeros at its end. -/
def dropTrailingZeros (digits : List Char) : List Char :=
  (digits.reverse.dropWhile (· == '0')).reverse

/-- The digits and the power of ten of the leading one, written positionally
for powers from `-5` to `15` and with a signed exponent otherwise. -/
def positional (digits : List Char) (leading : Int) : List Char :=
  if -5 ≤ leading && leading < 0 then
    '0' :: '.' :: (List.replicate (-leading - 1).toNat '0' ++ digits)
  else if 0 ≤ leading && leading ≤ 15 then
    let whole := leading.toNat + 1
    let padded := digits ++ List.replicate (whole - digits.length) '0'
    let fraction := padded.drop whole
    padded.take whole ++ '.' :: (if fraction.isEmpty then ['0'] else fraction)
  else
    let fraction := digits.drop 1
    let sign := if leading < 0 then '-' else '+'
    digits.take 1 ++ (if fraction.isEmpty then [] else '.' :: fraction) ++
      'e' :: sign :: Nat.toDigits 10 leading.natAbs

def text (number : Binary64) : List Char :=
  let sign := if number.negative then ['-'] else []
  if number.mantissa = 0 then sign ++ ['0', '.', '0']
  else
    let (value, power) := shortest number.mantissa number.exponent
    let digits := Nat.toDigits 10 value
    sign ++ positional (dropTrailingZeros digits) (power + digits.length - 1)

end Binary64

end ReviewFeed
