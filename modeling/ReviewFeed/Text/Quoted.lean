import ReviewFeed.Text.Numeral
import ReviewFeed.Text.Printable

/-!
# Quoted texts

A text quoted inside of a message: quotes and backslashes have a backslash in
front, and a character that cannot be shown by itself is written as its code
point in braces.
-/

namespace ReviewFeed.Text

/-- The hexadecimal digits of a number, without leading zeros. -/
def hexDigits (n : Nat) : List Char :=
  Nat.toDigits 16 n

/-- A character as its code point in braces. -/
def codePoint (c : Char) : List Char :=
  '\\' :: 'u' :: '\x7b' :: (hexDigits c.toNat ++ ['\x7d'])

/-- A character as it stands inside of quotes. -/
def quoteChar (c : Char) : List Char :=
  match c with
  | '\x00' => ['\\', '0']
  | '\t' => ['\\', 't']
  | '\r' => ['\\', 'r']
  | '\n' => ['\\', 'n']
  | '\\' => ['\\', '\\']
  | '\x22' => ['\\', '\x22']
  | c => if isExtending c || !isPrintable c then codePoint c else [c]

def quoted (text : String) : String :=
  String.ofList ('\x22' :: (text.toList.flatMap quoteChar ++ ['\x22']))

end ReviewFeed.Text
