import ReviewFeed.Time.Timestamp

/-!
# Calendar dates

The proleptic Gregorian calendar in UTC, and the RFC 3339 text of an instant.
Years are counted from March, so that the leap day is the last day of a year.
-/

namespace ReviewFeed

structure Date where
  year : Int
  month : Nat
  day : Nat
  deriving DecidableEq, Repr

/-- The date of a day counted from the epoch.  An era is 400 years, which is
146097 days; day 719468 before the epoch begins year zero in March. -/
def Date.ofEpochDay (epochDay : Int) : Date :=
  let shifted := epochDay + 719468
  let era := shifted.fdiv 146097
  let dayOfEra := (shifted.fmod 146097).toNat
  let yearOfEra := (dayOfEra - dayOfEra / 1460 + dayOfEra / 36524 - dayOfEra / 146096) / 365
  let dayOfYear := dayOfEra - (365 * yearOfEra + yearOfEra / 4 - yearOfEra / 100)
  let monthFromMarch := (5 * dayOfYear + 2) / 153
  let day := dayOfYear - (153 * monthFromMarch + 2) / 5 + 1
  let month := if monthFromMarch < 10 then monthFromMarch + 3 else monthFromMarch - 9
  let year := era * 400 + yearOfEra + (if month ≤ 2 then 1 else 0)
  { year, month, day }

/-- A number with zeros in front of it up to a width. -/
def padded (width n : Nat) : List Char :=
  let digits := Text.digits n
  List.replicate (width - digits.length) '0' ++ digits

/-- A year has four digits; outside of these it has a sign too. -/
def Date.yearText (year : Int) : List Char :=
  if 0 ≤ year && year ≤ 9999 then padded 4 year.toNat
  else (if year < 0 then '-' else '+') :: padded 4 year.natAbs

/-- The fraction of a second with none, three, six or nine digits. -/
def fractionText (nanoseconds : Nat) : List Char :=
  if nanoseconds = 0 then []
  else if nanoseconds % 1000000 = 0 then '.' :: padded 3 (nanoseconds / 1000000)
  else if nanoseconds % 1000 = 0 then '.' :: padded 6 (nanoseconds / 1000)
  else '.' :: padded 9 nanoseconds

/-- The RFC 3339 text of an instant in UTC. -/
def Instant.text (instant : Instant) : String :=
  let seconds := instant.time.seconds
  let date := Date.ofEpochDay (seconds.fdiv 86400)
  let ofDay := (seconds.fmod 86400).toNat
  let leap := 1000000000 ≤ instant.nanoseconds
  let second := ofDay % 60 + (if leap then 1 else 0)
  let nanoseconds := instant.nanoseconds - (if leap then 1000000000 else 0)
  String.ofList
    (Date.yearText date.year ++ '-' :: padded 2 date.month ++ '-' :: padded 2 date.day ++
      'T' :: padded 2 (ofDay / 3600) ++ ':' :: padded 2 (ofDay / 60 % 60) ++
      ':' :: padded 2 second ++ fractionText nanoseconds ++ ['Z'])

end ReviewFeed
