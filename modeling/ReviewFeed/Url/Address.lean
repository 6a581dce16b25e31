import ReviewFeed.Text.Numeral

/-!
# Internet addresses

A host name that ends in a number is an IPv4 address: up to four numbers, decimal,
octal or hexadecimal, the last of which fills the bytes that are left.  An IPv6
address is eight groups of hexadecimal digits, of which a double colon leaves out
one or more; an IPv4 address may stand for the last two.
-/

namespace ReviewFeed.Url

/-- The pieces of a text between the dots. -/
def splitDots : List Char → List (List Char)
  | [] => [[]]
  | c :: rest =>
      if c = '.' then [] :: splitDots rest
      else
        match splitDots rest with
        | [] => [[c]]
        | piece :: more => (c :: piece) :: more

/-- The pieces of a text between the dots, without an empty one at the end. -/
def addressParts (chars : List Char) : List (List Char) :=
  let parts := splitDots chars
  if parts.getLast? = some [] then parts.dropLast else parts

/-- A row of digits in a base up to ten; an empty row counts as zero. -/
def readRow? (base : Nat) (chars : List Char) : Option Nat :=
  chars.foldlM (fun value c =>
    if c.isDigit && Text.digitValue c < base then some (base * value + Text.digitValue c)
    else none) 0

/-- One number of an IPv4 address: hexadecimal after `0x`, octal after `0`. -/
def addressNumber? : List Char → Option Nat
  | [] => none
  | '0' :: 'x' :: row => if row.isEmpty then some 0 else Text.readHex? row
  | '0' :: 'X' :: row => if row.isEmpty then some 0 else Text.readHex? row
  | '0' :: row => readRow? 8 row
  | row => readRow? 10 row

/-- Whether the last part of a host name is a number. -/
def endsInNumber (chars : List Char) : Bool :=
  match (addressParts chars).getLast? with
  | some part =>
      (!part.isEmpty && part.all Char.isDigit) || (addressNumber? part).isSome
  | none => false

/-- Whether a host name that ends in a number is an IPv4 address. -/
def isIpv4 (chars : List Char) : Bool :=
  let parts := addressParts chars
  match parts.mapM addressNumber? with
  | some numbers =>
      parts.length ≤ 4 && numbers.dropLast.all (· ≤ 255) &&
        (numbers.getLast?).any (· < Nat.pow 256 (5 - parts.length))
  | none => false

/-- Whether a text is a number up to 255 without leading zeros. -/
def isByteNumeral (chars : List Char) : Bool :=
  (Text.readDigits? chars).any (· ≤ 255) && (chars.length == 1 || chars.head? != some '0')

/-- Whether a text is four numbers with dots between them. -/
def isDottedQuad (chars : List Char) : Bool :=
  let parts := splitDots chars
  parts.length == 4 && parts.all isByteNumeral

/-- Whether the groups of an IPv6 address can go on like this, after some groups
and with or without a double colon among them. -/
def groups (chars : List Char) (seen : Nat) (compressed : Bool) : Bool :=
  match chars with
  | [] => compressed || seen == 8
  | ':' :: rest =>
      if seen == 8 || compressed then false else groups rest (seen + 1) true
  | c :: rest =>
      let digits := (c :: rest).takeWhile (fun c => (Text.hexValue? c).isSome)
      let row := digits.take 4
      if seen == 8 then false
      else if row.isEmpty then false
      else
        match h : (c :: rest).drop row.length with
        | [] => compressed || seen + 1 == 8
        | ':' :: next =>
            if next.isEmpty then false
            else groups next (seen + 1) compressed
        | '.' :: _ =>
            seen ≤ 6 && isDottedQuad (c :: rest) && (compressed || seen + 2 == 8)
        | _ => false
termination_by chars.length
decreasing_by
  · simp
  · have shorter : ((c :: rest).drop row.length).length ≤ (c :: rest).length := by
      simp only [List.length_drop]
      omega
    rw [h] at shorter
    simp only [List.length_cons] at shorter ⊢
    omega

def isIpv6 (chars : List Char) : Bool :=
  match chars with
  | ':' :: ':' :: rest => groups rest 1 true
  | ':' :: _ => false
  | chars => 2 ≤ chars.length && groups chars 0 false

end ReviewFeed.Url
