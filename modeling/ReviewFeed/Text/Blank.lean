/-!
# Blank characters

A character is blank when it has the Unicode property `White_Space`.  Trimming
and the test for a blank line go by this property; the byte order mark and the
zero-width space do not have it.
-/

namespace ReviewFeed.Text

/-- The Unicode property `White_Space`. -/
def isBlank (c : Char) : Bool :=
  let code := c.toNat
  (0x9 ≤ code && code ≤ 0xD) || code == 0x20 || code == 0x85 || code == 0xA0 ||
    code == 0x1680 || (0x2000 ≤ code && code ≤ 0x200A) || code == 0x2028 ||
    code == 0x2029 || code == 0x202F || code == 0x205F || code == 0x3000

def trimList (chars : List Char) : List Char :=
  ((chars.dropWhile isBlank).reverse.dropWhile isBlank).reverse

def trim (text : String) : String :=
  String.ofList (trimList text.toList)

/-- A line of blank characters only, or of none. -/
def isBlankLine (text : String) : Bool :=
  text.toList.all isBlank

end ReviewFeed.Text
