/-!
# UTF-8

Bytes are decoded by a machine that remembers how many bytes of a character are
still owed and between which bounds the next one lies.  A byte that cannot follow
ends the sequence begun before it and is looked at afresh, so that an invalid
sequence is never longer than what could have become a character.
-/

namespace ReviewFeed.Utf8

def encode (chars : List Char) : List UInt8 :=
  chars.flatMap String.utf8EncodeChar

/-- Where the decoder stands: between characters, or inside of one, with the
bytes owed, the bounds of the next byte and the bits so far. -/
inductive State
  | between
  | inside (owed low high bits : Nat)
  deriving DecidableEq, Repr

/-- What is found between characters: a character of one byte, the beginning of a
longer one, or a byte that begins none. -/
def begin (byte : Nat) : List (Option Char) × State :=
  if byte < 0x80 then ([some (Char.ofNat byte)], .between)
  else if 0xC2 ≤ byte && byte ≤ 0xDF then ([], .inside 1 0x80 0xBF (byte - 0xC0))
  else if byte == 0xE0 then ([], .inside 2 0xA0 0xBF 0)
  else if byte == 0xED then ([], .inside 2 0x80 0x9F 0xD)
  else if 0xE1 ≤ byte && byte ≤ 0xEF then ([], .inside 2 0x80 0xBF (byte - 0xE0))
  else if byte == 0xF0 then ([], .inside 3 0x90 0xBF 0)
  else if 0xF1 ≤ byte && byte ≤ 0xF3 then ([], .inside 3 0x80 0xBF (byte - 0xF0))
  else if byte == 0xF4 then ([], .inside 3 0x80 0x8F 4)
  else ([none], .between)

/-- The characters completed by a byte, with `none` for an invalid sequence, and
the state after it. -/
def advance (state : State) (byte : Nat) : List (Option Char) × State :=
  match state with
  | .between => begin byte
  | .inside owed low high bits =>
      if low ≤ byte && byte ≤ high then
        let bits := bits * 0x40 + (byte - 0x80)
        if owed == 1 then ([some (Char.ofNat bits)], .between)
        else ([], .inside (owed - 1) 0x80 0xBF bits)
      else
        let (found, next) := begin byte
        (none :: found, next)

/-- The characters of bytes, with `none` for each invalid sequence. -/
def scan : State → List UInt8 → List (Option Char)
  | .between, [] => []
  | .inside .., [] => [none]
  | state, byte :: rest =>
      let (found, next) := advance state byte.toNat
      found ++ scan next rest

def decode? (bytes : List UInt8) : Option (List Char) :=
  (scan .between bytes).mapM id

/-- The text of any bytes, with U+FFFD for each invalid sequence. -/
def decodeLossy (bytes : List UInt8) : List Char :=
  (scan .between bytes).map (·.getD '\uFFFD')

end ReviewFeed.Utf8
