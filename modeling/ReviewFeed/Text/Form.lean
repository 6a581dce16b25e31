import ReviewFeed.Text.Numeral
import ReviewFeed.Text.Utf8

/-!
# Form encoding

The encoding of a text as one part of a URL: ASCII letters, digits and `*-._`
stand for themselves, a space becomes a plus, and every other byte of the text
becomes a percent sign and two hexadecimal digits.
-/

namespace ReviewFeed.Form

/-- The characters that stand for themselves. -/
def isPlain (c : Char) : Bool :=
  c.isAlphanum || c == '*' || c == '-' || c == '.' || c == '_'

/-- A byte as a percent sign and two hexadecimal digits. -/
def escapeByte (byte : UInt8) : List Char :=
  ['%', Text.hexDigitUpper (byte.toNat / 16), Text.hexDigitUpper (byte.toNat % 16)]

def encodeChar (c : Char) : List Char :=
  if isPlain c then [c]
  else if c == ' ' then ['+']
  else (String.utf8EncodeChar c).flatMap escapeByte

def encode (text : String) : List Char :=
  text.toList.flatMap encodeChar

end ReviewFeed.Form
