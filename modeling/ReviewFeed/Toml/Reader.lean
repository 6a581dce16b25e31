import ReviewFeed.Toml.Atom
import ReviewFeed.Toml.Table

/-!
# Reading TOML

Version 1.0 of the language: one binding or header a line, strings of four forms,
arrays over several lines, tables in braces on one line.  Arrays and tables in
braces nest at most 79 deep.
-/

namespace ReviewFeed.Toml

def isSpace (c : Char) : Bool :=
  c == ' ' || c == '\t'

def skipSpace (chars : List Char) : List Char :=
  chars.dropWhile isSpace

/-- The characters of comments and strings: no control character but the tab. -/
def isText (c : Char) : Bool :=
  c == '\t' || (0x20 ≤ c.toNat && c.toNat != 0x7F)

def skipBreak? : List Char → Option (List Char)
  | '\n' :: rest => some rest
  | '\r' :: '\n' :: rest => some rest
  | _ => none

/-- The text after a comment, if one begins here. -/
def skipComment : List Char → List Char
  | '#' :: rest => rest.dropWhile isText
  | chars => chars

/-- The text after the end of a line that holds nothing more than a comment. -/
def skipLineEnd? (chars : List Char) : Option (List Char) :=
  match skipComment (skipSpace chars) with
  | [] => some []
  | chars => skipBreak? chars

/-- The text after blanks, comments and line breaks. -/
def skipLines : Nat → List Char → List Char
  | 0, chars => chars
  | fuel + 1, chars =>
      match skipBreak? (skipComment (skipSpace chars)) with
      | some rest => skipLines fuel rest
      | none => skipSpace chars

/-- The character that a letter behind a backslash stands for. -/
def escaped? : Char → Option Char
  | 'b' => some '\x08'
  | 't' => some '\t'
  | 'n' => some '\n'
  | 'f' => some '\x0c'
  | 'r' => some '\r'
  | '\x22' => some '\x22'
  | '\\' => some '\\'
  | _ => none

/-- The character of a code point in hexadecimal. -/
def codePoint? (digits : List Char) : Option Char := do
  let code ← Text.readHex? digits
  if code < 0xD800 ∨ (0xE000 ≤ code ∧ code < 0x110000) then some (Char.ofNat code) else none

/-- An escape after its backslash, and the text after it. -/
def readEscape : List Char → Option (Char × List Char)
  | 'u' :: a :: b :: c :: d :: rest => (codePoint? [a, b, c, d]).map (·, rest)
  | 'U' :: a :: b :: c :: d :: e :: f :: g :: h :: rest =>
      (codePoint? [a, b, c, d, e, f, g, h]).map (·, rest)
  | c :: rest => (escaped? c).map (·, rest)
  | [] => none

/-- A basic string on one line, after its opening quote. -/
def readBasic : Nat → List Char → Option (List Char × List Char)
  | 0, _ => none
  | fuel + 1, chars =>
      match chars with
      | [] => none
      | '\x22' :: rest => some ([], rest)
      | '\\' :: rest => do
          let (c, rest) ← readEscape rest
          let (more, rest) ← readBasic fuel rest
          some (c :: more, rest)
      | c :: rest =>
          if isText c then (readBasic fuel rest).map (fun (more, rest) => (c :: more, rest))
          else none

/-- A literal string on one line, after its opening quote. -/
def readLiteral : List Char → Option (List Char × List Char)
  | [] => none
  | '\x27' :: rest => some ([], rest)
  | c :: rest =>
      if isText c then (readLiteral rest).map (fun (more, rest) => (c :: more, rest)) else none

/-- The end of a string over several lines: of three to five quotes the last three
close it, and the others belong to it. -/
def closing? (quote : Char) (chars : List Char) : Option (List Char × List Char) :=
  let quotes := (chars.takeWhile (· == quote)).length
  if 3 ≤ quotes then
    let extra := min (quotes - 3) 2
    some (List.replicate extra quote, chars.drop (extra + 3))
  else none

/-- The text after a backslash at the end of a line and the blanks and line breaks
that it joins. -/
def skipJoin? (chars : List Char) : Option (List Char) :=
  (skipBreak? (skipSpace chars)).map
    (fun rest => rest.dropWhile (fun c => isSpace c || c == '\n' || c == '\r'))

/-- A string over several lines, with or without escapes, after its opening quotes.
A line break counts as one line feed. -/
def readLong (quote : Char) (escapes : Bool) : Nat → List Char → Option (List Char × List Char)
  | 0, _ => none
  | fuel + 1, chars =>
      match closing? quote chars with
      | some closed => some closed
      | none =>
          match skipBreak? chars with
          | some rest =>
              (readLong quote escapes fuel rest).map (fun (more, rest) => ('\n' :: more, rest))
          | none =>
              match chars with
              | [] => none
              | c :: rest =>
                  if c == '\\' && escapes then
                    match skipJoin? rest with
                    | some rest => readLong quote escapes fuel rest
                    | none => do
                        let (c, rest) ← readEscape rest
                        let (more, rest) ← readLong quote escapes fuel rest
                        some (c :: more, rest)
                  else if isText c then
                    (readLong quote escapes fuel rest).map
                      (fun (more, rest) => (c :: more, rest))
                  else none

/-- The text after a line break right behind the opening quotes. -/
def skipFirstBreak (chars : List Char) : List Char :=
  (skipBreak? chars).getD chars

def readShortString (chars : List Char) : Option (String × List Char) :=
  let found :=
    match chars with
    | '\x22' :: rest => readBasic (rest.length + 1) rest
    | '\x27' :: rest => readLiteral rest
    | _ => none
  found.map (fun (text, rest) => (String.ofList text, rest))

def readString (chars : List Char) : Option (String × List Char) :=
  match chars with
  | '\x22' :: '\x22' :: '\x22' :: rest =>
      (readLong '\x22' true (rest.length + 1) (skipFirstBreak rest)).map
        (fun (text, rest) => (String.ofList text, rest))
  | '\x27' :: '\x27' :: '\x27' :: rest =>
      (readLong '\x27' false (rest.length + 1) (skipFirstBreak rest)).map
        (fun (text, rest) => (String.ofList text, rest))
  | chars => readShortString chars

def isBare (c : Char) : Bool :=
  c.isAlphanum || c == '_' || c == '-'

def readKeyPart (chars : List Char) : Option (String × List Char) :=
  match chars with
  | '\x22' :: _ => readShortString chars
  | '\x27' :: _ => readShortString chars
  | _ =>
      let part := chars.takeWhile isBare
      if part.isEmpty then none else some (String.ofList part, chars.dropWhile isBare)

/-- The parts of a key, joined by dots, and the text after it and its blanks. -/
def readKey : Nat → List Char → Option (List String × List Char)
  | 0, _ => none
  | fuel + 1, chars => do
      let (part, rest) ← readKeyPart (skipSpace chars)
      match skipSpace rest with
      | '.' :: rest => (readKey fuel rest).map (fun (more, rest) => (part :: more, rest))
      | rest => some ([part], rest)

/-- The characters of numbers, truth values and points in time. -/
def isAtom (c : Char) : Bool :=
  c.isAlphanum || c == '_' || c == '+' || c == '-' || c == '.' || c == ':'

/-- A value that is a single word.  A date and a time of day with one space between
them are one point in time. -/
def readAtom (chars : List Char) : Option (Toml × List Char) :=
  let word := chars.takeWhile isAtom
  let rest := chars.dropWhile isAtom
  match rest with
  | ' ' :: next =>
      let clock := next.takeWhile isAtom
      if isDate word && isOffsetTime clock then some (.time, next.dropWhile isAtom)
      else (atom? word).map (·, rest)
  | _ => (atom? word).map (·, rest)

/-- The items of an array, up to the closing bracket.  A comma may stand behind the
last one. -/
def readItems (value : List Char → Option (Toml × List Char)) :
    Nat → List Char → Option (List Toml × List Char)
  | 0, _ => none
  | fuel + 1, chars =>
      match skipLines chars.length chars with
      | ']' :: rest => some ([], rest)
      | chars => do
          let (item, rest) ← value chars
          match skipLines rest.length rest with
          | ',' :: rest => do
              let (more, rest) ← readItems value fuel rest
              some (item :: more, rest)
          | ']' :: rest => some ([item], rest)
          | _ => none

/-- A binding: its key, the equals sign and its value. -/
def readBinding (value : List Char → Option (Toml × List Char)) (chars : List Char) :
    Option (Binding × List Char) := do
  let (parts, rest) ← readKey (chars.length + 1) chars
  match rest with
  | '=' :: rest =>
      let (value, rest) ← value (skipSpace rest)
      some ({ path := parts.dropLast, key := parts.getLast?.getD "", value }, rest)
  | _ => none

/-- The bindings of a table in braces, up to the closing one.  No comma stands
behind the last. -/
def readInline (value : List Char → Option (Toml × List Char)) :
    Nat → List Char → Option (List Binding × List Char)
  | 0, _ => none
  | fuel + 1, chars => do
      let (line, rest) ← readBinding value chars
      match skipSpace rest with
      | ',' :: rest => do
          let (more, rest) ← readInline value fuel rest
          some (line :: more, rest)
      | '\x7d' :: rest => some ([line], rest)
      | _ => none

/-- A value in which arrays and tables in braces nest at most as deep as given. -/
def readValue : Nat → List Char → Option (Toml × List Char)
  | depth, chars =>
      match chars with
      | '\x22' :: _ => (readString chars).map (fun (text, rest) => (.string text, rest))
      | '\x27' :: _ => (readString chars).map (fun (text, rest) => (.string text, rest))
      | '[' :: rest =>
          match depth with
          | 0 => none
          | depth + 1 =>
              (readItems (fun chars => readValue depth chars) (rest.length + 1) rest).map
                (fun (items, rest) => (.array items, rest))
      | '\x7b' :: rest =>
          match depth with
          | 0 => none
          | depth + 1 =>
              match skipSpace rest with
              | '\x7d' :: rest => some (.table .inline [], rest)
              | rest => do
                  let (lines, rest) ←
                    readInline (fun chars => readValue depth chars) (rest.length + 1) rest
                  let entries ← bindAll [] lines
                  some (.table .inline entries, rest)
      | chars => readAtom chars

/-- How deep arrays and tables in braces may nest. -/
def deepest : Nat := 79

/-- A header: its path, and whether it is in double brackets. -/
def readHeader (chars : List Char) : Option (Part × List Char) := do
  let (isArray, body) :=
    match chars with
    | '[' :: '[' :: rest => (true, rest)
    | rest => (false, rest.drop 1)
  let (parts, rest) ← readKey (body.length + 1) body
  let rest ←
    match isArray, rest with
    | true, ']' :: ']' :: rest => some rest
    | false, ']' :: rest => some rest
    | _, _ => none
  some ({ path := parts.dropLast, key := parts.getLast?.getD "", isArray, lines := [] }, rest)

/-- The lines above the first header and the tables of the headers, from the text
of a document. -/
def readLines : Nat → List Char → Option (List Binding × List Part)
  | 0, _ => none
  | fuel + 1, chars =>
      match skipLines chars.length chars with
      | [] => some ([], [])
      | '#' :: rest => if rest.all isText then some ([], []) else none
      | '[' :: rest => do
          let (part, rest) ← readHeader ('[' :: rest)
          let rest ← skipLineEnd? rest
          let (lines, parts) ← readLines fuel rest
          some ([], { part with lines } :: parts)
      | chars => do
          let (line, rest) ← readBinding (readValue deepest) chars
          let rest ← skipLineEnd? rest
          let (lines, parts) ← readLines fuel rest
          some (line :: lines, parts)

/-- The text of a document without a byte order mark in front. -/
def withoutMark : List Char → List Char
  | '\uFEFF' :: rest => rest
  | chars => chars

/-- The entries of a document, or `none` if it is not TOML. -/
def read? (text : String) : Option Entries := do
  let chars := withoutMark text.toList
  let (lines, parts) ← readLines (chars.length + 1) chars
  document lines parts

end ReviewFeed.Toml
