/-!
# Decimal numerals

Numbers are written in decimal without leading zeros, and read with any number
of them.  A signed numeral has at most one sign and at least one digit.
-/

namespace ReviewFeed.Text

/-- The decimal digits of a number, without leading zeros. -/
def digits (n : Nat) : List Char :=
  Nat.toDigits 10 n

/-- The decimal text of an integer, with a sign only when it is negative. -/
def signedDigits : Int → List Char
  | .ofNat n => digits n
  | .negSucc n => '-' :: digits (n + 1)

def numeral (n : Nat) : String :=
  String.ofList (digits n)

/-- The value of one decimal digit; other characters count from `0` too. -/
def digitValue (c : Char) : Nat :=
  c.toNat - '0'.toNat

/-- The number that a row of digits stands for. -/
def digitsValue (chars : List Char) : Nat :=
  chars.foldl (fun value c => 10 * value + digitValue c) 0

/-- The value of a row of at least one digit. -/
def readDigits? (chars : List Char) : Option Nat :=
  if !chars.isEmpty && chars.all Char.isDigit then some (digitsValue chars) else none

/-- The value of a numeral with an optional sign. -/
def readSigned? : List Char → Option Int
  | '+' :: chars => (readDigits? chars).map Int.ofNat
  | '-' :: chars => (readDigits? chars).map (fun n => -(Int.ofNat n))
  | chars => (readDigits? chars).map Int.ofNat

/-- The value of a hexadecimal digit of either case. -/
def hexValue? (c : Char) : Option Nat :=
  if '0' ≤ c && c ≤ '9' then some (c.toNat - '0'.toNat)
  else if 'a' ≤ c && c ≤ 'f' then some (c.toNat - 'a'.toNat + 10)
  else if 'A' ≤ c && c ≤ 'F' then some (c.toNat - 'A'.toNat + 10)
  else none

/-- The number that a row of hexadecimal digits stands for. -/
def readHex? (chars : List Char) : Option Nat :=
  if chars.isEmpty then none
  else chars.foldlM (fun value c => (hexValue? c).map (16 * value + ·)) 0

def hexDigit (n : Nat) : Char :=
  if n < 10 then Char.ofNat ('0'.toNat + n) else Char.ofNat ('a'.toNat + (n - 10))

def hexDigitUpper (n : Nat) : Char :=
  if n < 10 then Char.ofNat ('0'.toNat + n) else Char.ofNat ('A'.toNat + (n - 10))

end ReviewFeed.Text
