import ReviewFeed.Json.Value
import ReviewFeed.Text.Blank

/-!
# Points in time

Timestamps are whole seconds after the epoch, within the range of the calendar.
An instant also has nanoseconds; a leap second is written as a second with a
thousand million nanoseconds or more.
-/

namespace ReviewFeed

/-- Seconds after the epoch, from the first to the last day of the calendar. -/
structure Timestamp where
  seconds : Int
  inCalendar : -8334601228800 ≤ seconds ∧ seconds ≤ 8210266876799
  deriving DecidableEq, Repr

namespace Timestamp

/-- The timestamp of a number of seconds, if the calendar has it. -/
def ofSeconds? (seconds : Int) : Option Timestamp :=
  if inCalendar : -8334601228800 ≤ seconds ∧ seconds ≤ 8210266876799 then
    some ⟨seconds, inCalendar⟩
  else none

/-- Whether an integer fits into a signed 64-bit word. -/
def fitsWord (n : Int) : Bool :=
  -9223372036854775808 ≤ n && n ≤ 9223372036854775807

/-- The seconds that a JSON value states: an integer, or a string that holds a
numeral between blanks. -/
def statedSeconds? : Json → Option Int
  | .number (.integer n) => some n
  | .string text => Text.readSigned? (Text.trimList text.toList)
  | _ => none

/-- Reads a timestamp.  Floating-point numbers are not seconds. -/
def read? (value : Json) : Option Timestamp :=
  match statedSeconds? value with
  | some n => if fitsWord n then ofSeconds? n else none
  | none => none

/-- The seconds, as an integer. -/
def toJson (time : Timestamp) : Json :=
  .ofInt time.seconds

end Timestamp

/-- A point in time with nanoseconds.  Only the last second of a minute can be a
leap second. -/
structure Instant where
  time : Timestamp
  nanoseconds : Nat
  inSecond : nanoseconds < 1000000000 ∨
    (nanoseconds < 2000000000 ∧ time.seconds % 60 = 59)
  deriving DecidableEq, Repr

def Instant.epoch : Instant :=
  { time := ⟨0, by decide⟩, nanoseconds := 0, inSecond := by decide }

/-- The instant given by seconds and nanoseconds, if there is one. -/
def Instant.ofParts? (seconds : Int) (nanoseconds : Nat) : Option Instant :=
  match Timestamp.ofSeconds? seconds with
  | none => none
  | some time =>
      if inSecond : nanoseconds < 1000000000 ∨
          (nanoseconds < 2000000000 ∧ time.seconds % 60 = 59) then
        some ⟨time, nanoseconds, inSecond⟩
      else none

end ReviewFeed
