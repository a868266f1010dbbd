import SearchIndex.Decimal.Integer

/-!
Contract: times as text.

A time is a number of seconds since the first of January 1970, and is written to the second in
universal time. Years are counted from March, so that the day that only leap years have is the
last of its year; four hundred years have the same number of days wherever they begin.
-/

namespace SearchIndex.Timestamp

/-- A day of the calendar. -/
structure Date where
  year : Nat
  month : Nat
  day : Nat
deriving DecidableEq, Repr

/-- The days of four hundred years. -/
def cycleDays : Nat := 146097

/-- The days from the first of March of the year 0 to the first of January 1970. -/
def daysBefore1970 : Nat := 719468

def yearOfCycle (day : Nat) : Nat :=
  (day - day / 1460 + day / 36524 - day / 146096) / 365

def daysBeforeYear (year : Nat) : Nat := 365 * year + year / 4 - year / 100

def monthOfYear (day : Nat) : Nat := (5 * day + 2) / 153

def daysBeforeMonth (month : Nat) : Nat := (153 * month + 2) / 5

/-- The date a number of days after the first of January 1970. -/
def dateOf (days : Nat) : Date :=
  let count := days + daysBefore1970
  let cycle := count / cycleDays
  let dayOfCycle := count % cycleDays
  let year := yearOfCycle dayOfCycle
  let dayOfYear := dayOfCycle - daysBeforeYear year
  let month := monthOfYear dayOfYear
  let isNextYear := 10 ≤ month
  { year := 400 * cycle + year + if isNextYear then 1 else 0
    month := if isNextYear then month - 9 else month + 3
    day := dayOfYear - daysBeforeMonth month + 1 }

/-- A number with zeros in front up to a width. -/
def padded (width n : Nat) : String :=
  let digits := Decimal.natural n
  String.ofList (List.replicate (width - digits.length) '0') ++ digits

def ofSeconds (seconds : Nat) : String :=
  let date := dateOf (seconds / 86400)
  let time := seconds % 86400
  padded 4 date.year ++ "-" ++ padded 2 date.month ++ "-" ++ padded 2 date.day ++ "T" ++
    padded 2 (time / 3600) ++ ":" ++ padded 2 (time / 60 % 60) ++ ":" ++ padded 2 (time % 60) ++
    "Z"

end SearchIndex.Timestamp
