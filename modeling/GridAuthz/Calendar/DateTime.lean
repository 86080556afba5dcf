import GridAuthz.Calendar.Duration

/-!
# Dates and times of day

A date and time of day in the Gregorian calendar, in universal time, from 1970 to 9999.
`DateTime.unixSeconds` counts the seconds since the beginning of 1970, with days of 86400
seconds, and `DateTime.ofUnixSeconds?` goes back.
-/

namespace GridAuthz

namespace DateTime

/-- Every fourth year is a leap year, but of the full centuries only every fourth. -/
def isLeapYear (year : Nat) : Bool := year % 4 = 0 && (year % 100 ≠ 0 || year % 400 = 0)

/-- The days of a year. -/
def daysInYear (year : Nat) : Nat := if isLeapYear year then 366 else 365

/-- The days of a month, the first being month 1. -/
def daysInMonth (year month : Nat) : Nat :=
  match month with
  | 2 => if isLeapYear year then 29 else 28
  | 4 | 6 | 9 | 11 => 30
  | _ => 31

/-- The days of the first `n` years from 1970 on. -/
def daysBeforeYear : (n : Nat) → Nat
  | 0 => 0
  | n + 1 => daysBeforeYear n + daysInYear (1970 + n)

/-- The days of the first `n` months of a year. -/
def daysBeforeMonth (year : Nat) : (n : Nat) → Nat
  | 0 => 0
  | n + 1 => daysBeforeMonth year n + daysInMonth year (n + 1)

/-- The day and the time exist. -/
def isValid (year month day hour minute second : Nat) : Bool :=
  1970 ≤ year && year ≤ 9999 && 1 ≤ month && month ≤ 12 && 1 ≤ day &&
    day ≤ daysInMonth year month && hour ≤ 23 && minute ≤ 59 && second ≤ 59

end DateTime

/-- A date and a time of day. -/
structure DateTime where
  /-- The year, from 1970 to 9999. -/
  year : Nat
  /-- The month, from 1 to 12. -/
  month : Nat
  /-- The day of the month. -/
  day : Nat
  /-- The hour, from 0 to 23. -/
  hour : Nat
  /-- The minute. -/
  minute : Nat
  /-- The second, from 0 to 59. -/
  second : Nat
  /-- The day and the time exist. -/
  valid : DateTime.isValid year month day hour minute second = true
  deriving DecidableEq

namespace DateTime

/-- The date and time with the given parts. -/
def ofParts? (year month day hour minute second : Nat) : Option DateTime :=
  if h : isValid year month day hour minute second = true then
    some ⟨year, month, day, hour, minute, second, h⟩
  else none

/-- The seconds since the beginning of 1970. -/
def unixSeconds (t : DateTime) : Nat :=
  let days := daysBeforeYear (t.year - 1970) + daysBeforeMonth t.year (t.month - 1) + (t.day - 1)
  ((days * 24 + t.hour) * 60 + t.minute) * 60 + t.second

/-- The moment, as the time passed since the beginning of 1970. -/
def moment (t : DateTime) : Duration := Duration.ofSeconds t.unixSeconds

/-- The year, at least `year`, that the given day falls in, and the day in that year. Days are
counted from zero. -/
def yearOfDay : (fuel year day : Nat) → Nat × Nat
  | 0, year, day => (year, day)
  | fuel + 1, year, day =>
    if day < daysInYear year then (year, day)
    else yearOfDay fuel (year + 1) (day - daysInYear year)

/-- The month, at least `month`, that the given day falls in, and the day in that month. -/
def monthOfDay (year : Nat) : (fuel month day : Nat) → Nat × Nat
  | 0, month, day => (month, day)
  | fuel + 1, month, day =>
    if day < daysInMonth year month then (month, day)
    else monthOfDay year fuel (month + 1) (day - daysInMonth year month)

/-- The date and time a number of seconds after the beginning of 1970, up to the end of the
year 9999. -/
def ofUnixSeconds? (seconds : Nat) : Option DateTime :=
  let (year, day) := yearOfDay 8030 1970 (seconds / 86400)
  let (month, day) := monthOfDay year 11 1 day
  ofParts? year month (day + 1) (seconds / 3600 % 24) (seconds / 60 % 60) (seconds % 60)

/-- The last second of the year 9999, counted from the beginning of 1970. -/
def lastSecond : Nat := 253402300799

/-- The date and time of a moment up to the last second of the year 9999. A fraction of a second
is dropped. -/
def ofMoment? (moment : Duration) : Option DateTime :=
  if moment ≤ .ofSeconds lastSecond then ofUnixSeconds? moment.seconds else none

/-- A number in decimal, with zeros in front up to the given width. -/
def padded (width n : Nat) : String :=
  let digits := Nat.toDigits 10 n
  String.ofList (List.replicate (width - digits.length) '0' ++ digits)

/-- The text of a date and time, such as `2024-01-01T00:00:00Z`. -/
def toText (t : DateTime) : String :=
  padded 4 t.year ++ "-" ++ padded 2 t.month ++ "-" ++ padded 2 t.day ++ "T" ++
    padded 2 t.hour ++ ":" ++ padded 2 t.minute ++ ":" ++ padded 2 t.second ++ "Z"

end DateTime

end GridAuthz
