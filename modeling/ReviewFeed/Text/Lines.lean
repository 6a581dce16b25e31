import ReviewFeed.Text.Utf8

/-!
# Lines of bytes

Output is cut into lines behind every line feed; what follows the last one is a
line too, unless it is empty.  A line is decoded without its terminator, which is
one line feed and at most one carriage return before it.
-/

namespace ReviewFeed.Lines

def lineFeed : UInt8 := 10

def carriageReturn : UInt8 := 13

/-- The lines of some bytes, each with its terminator. -/
def split : List UInt8 → List (List UInt8)
  | [] => []
  | byte :: rest =>
      if byte = lineFeed then [byte] :: split rest
      else
        match split rest with
        | [] => [[byte]]
        | line :: more => (byte :: line) :: more

/-- The first line of some bytes, with its terminator, and what is behind it. -/
def cut : List UInt8 → List UInt8 × List UInt8
  | [] => ([], [])
  | byte :: rest =>
      if byte = lineFeed then ([byte], rest) else (byte :: (cut rest).1, (cut rest).2)

def isTerminated (line : List UInt8) : Bool :=
  line.getLast? = some lineFeed

/-- Bytes up to the last line feed. -/
def terminated (bytes : List UInt8) : List UInt8 :=
  (bytes.reverse.dropWhile (· != lineFeed)).reverse

/-- Bytes without one byte at the end, if it is this one. -/
def dropEnd (byte : UInt8) (bytes : List UInt8) : List UInt8 :=
  if bytes.getLast? = some byte then bytes.dropLast else bytes

def decode (line : List UInt8) : String :=
  String.ofList (Utf8.decodeLossy (dropEnd carriageReturn (dropEnd lineFeed line)))

/-- The texts of the lines of some bytes. -/
def read (bytes : List UInt8) : List String :=
  (split bytes).map decode

end ReviewFeed.Lines
