/-!
# Binary floating-point numbers

A finite 64-bit number is a sign and `mantissa * 2 ^ exponent`.  A decimal is
taken to the nearest of them; a value half-way between two goes to the one
with the even mantissa.  A quicker way to read a decimal rounds the digits and the
power of ten first and then their product or quotient, and may miss the nearest one
by a little.
-/

namespace ReviewFeed

/-- A finite 64-bit floating-point number.  Either the exponent is the least
one, `-1074`, or the mantissa has 53 bits. -/
structure Binary64 where
  negative : Bool
  mantissa : Nat
  exponent : Int
  deriving DecidableEq, Repr

namespace Binary64

/-- The exponent of the subnormal numbers. -/
def leastExponent : Int := -1074

/-- The exponent of the largest numbers. -/
def greatestExponent : Int := 971

/-- The quotient rounded to the nearest whole number, a half to the even one. -/
def roundHalfEven (numerator denominator : Nat) : Nat :=
  let quotient := numerator / denominator
  let rest := 2 * (numerator % denominator)
  if rest < denominator || (rest == denominator && quotient % 2 == 0) then quotient
  else quotient + 1

/-- The fraction for `numerator / denominator / 2 ^ exponent`. -/
def scaleDown (numerator denominator : Nat) (exponent : Int) : Nat × Nat :=
  if 0 ≤ exponent then (numerator, denominator * Nat.pow 2 exponent.toNat)
  else (numerator * Nat.pow 2 (-exponent).toNat, denominator)

/-- Mantissa and exponent of the number nearest to a positive fraction, or
`none` when it lies above the largest finite number. -/
def nearest? (numerator denominator : Nat) : Option (Nat × Int) :=
  let guess : Int := numerator.log2 - denominator.log2 - 53
  let low := max leastExponent guess
  let (scaled, unit) := scaleDown numerator denominator low
  let exponent := if scaled / unit < Nat.pow 2 53 then low else low + 1
  let (scaled, unit) := scaleDown numerator denominator exponent
  let mantissa := roundHalfEven scaled unit
  let (mantissa, exponent) :=
    if mantissa = Nat.pow 2 53 then (Nat.pow 2 52, exponent + 1) else (mantissa, exponent)
  if exponent ≤ greatestExponent then some (mantissa, exponent) else none

/-- Zero of either sign. -/
def zero (negative : Bool) : Binary64 :=
  ⟨negative, 0, leastExponent⟩

/-- The number nearest to `significand * 10 ^ power`, or `none` when it lies
above the largest finite number.  The two outer bounds keep the powers of ten
small: beyond them the answer is known from the number of digits alone. -/
def ofDecimal? (negative : Bool) (significand : Nat) (power : Int) : Option Binary64 :=
  if significand = 0 then some (zero negative)
  else
    let magnitude : Int := (Nat.toDigits 10 significand).length + power
    if 310 < magnitude then none
    else if magnitude < -330 then some (zero negative)
    else
      let fraction :=
        if 0 ≤ power then nearest? (significand * Nat.pow 10 power.toNat) 1
        else nearest? significand (Nat.pow 10 (-power).toNat)
      fraction.map (fun (mantissa, exponent) => ⟨negative, mantissa, exponent⟩)

/-- The fraction for `mantissa / divisor * 2 ^ exponent`. -/
def scaleUp (mantissa divisor : Nat) (exponent : Int) : Nat × Nat :=
  if 0 ≤ exponent then (mantissa * Nat.pow 2 exponent.toNat, divisor)
  else (mantissa, divisor * Nat.pow 2 (-exponent).toNat)

/-- The rounded product of two positive numbers, if it is finite. -/
def times? (number factor : Nat × Int) : Option (Nat × Int) :=
  let (numerator, denominator) := scaleUp (number.1 * factor.1) 1 (number.2 + factor.2)
  nearest? numerator denominator

/-- The rounded quotient of two positive numbers. -/
def divided? (number divisor : Nat × Int) : Option (Nat × Int) :=
  let (numerator, denominator) := scaleUp number.1 divisor.1 (number.2 - divisor.2)
  nearest? numerator denominator

/-- The greatest power of ten that is a finite number. -/
def greatestPower : Nat := 308

/-- `significand * 10 ^ power` by rounded numbers: a product, or one or two quotients, of
which three would leave nothing.  The result is `none` when it lies above the largest
finite number. -/
def ofParts? (negative : Bool) (significand : Nat) (power : Int) : Option Binary64 := do
  let tenTo (power : Nat) : Option (Nat × Int) := nearest? (Nat.pow 10 power) 1
  let start ← nearest? significand 1
  if significand = 0 then some (zero negative)
  else if 0 ≤ power then
    if power.toNat ≤ greatestPower then
      let (mantissa, exponent) ← times? start (← tenTo power.toNat)
      some ⟨negative, mantissa, exponent⟩
    else none
  else
    let places := (-power).toNat
    if places ≤ greatestPower then
      let (mantissa, exponent) ← divided? start (← tenTo places)
      some ⟨negative, mantissa, exponent⟩
    else if places ≤ 2 * greatestPower then
      let first ← divided? start (← tenTo greatestPower)
      let (mantissa, exponent) ← divided? first (← tenTo (places - greatestPower))
      some ⟨negative, mantissa, exponent⟩
    else some (zero negative)

end Binary64

end ReviewFeed
