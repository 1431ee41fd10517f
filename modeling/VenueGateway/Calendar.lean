/-! # The Gregorian calendar

Days of the proleptic Gregorian calendar are numbered from the first of January 1970. `dayNumber`
numbers a date and `ofDayNumber` names the date of a number.
-/

namespace VenueGateway

/-- A year, a month from 1 and a day of the month from 1. -/
structure CivilDate where
  year : Int
  month : Nat
  day : Nat
deriving DecidableEq

namespace Calendar

/-- Every fourth year is a leap year, of the full centuries only every fourth. -/
def isLeap (year : Int) : Bool := year % 4 = 0 && (year % 100 ≠ 0 || year % 400 = 0)

def monthLengths (year : Int) : List Nat :=
  [31, if isLeap year then 29 else 28, 31, 30, 31, 30, 31, 31, 30, 31, 30, 31]

/-- Length of a month, zero for a month that does not exist. -/
def monthLength (year : Int) (month : Nat) : Nat :=
  if month = 0 then 0 else ((monthLengths year)[month - 1]?).getD 0

def hasDate (date : CivilDate) : Bool := 1 ≤ date.day && date.day ≤ monthLength date.year date.month

/-- Days from the first of January of year 1 to that of a year. -/
def daysBeforeYear (year : Int) : Int :=
  let past := year - 1
  365 * past + past / 4 - past / 100 + past / 400

/-- The number of the day before the first of January of year 1. -/
def dayOfEra : Int := 719162

def dayNumber (date : CivilDate) : Int :=
  daysBeforeYear date.year - dayOfEra + ((monthLengths date.year).take (date.month - 1)).foldl Nat.add 0 +
    date.day - 1

/-- The year of a day counted from the first of January of year 1, and the days since it began. -/
def splitYear (day : Int) : Int × Nat :=
  let inCycle := (day % 146097).toNat
  let century := min 3 (inCycle / 36524)
  let inCentury := inCycle - century * 36524
  let fours := inCentury / 1461
  let inFours := inCentury - fours * 1461
  let years := min 3 (inFours / 365)
  (1 + 400 * (day / 146097) + 100 * century + 4 * fours + years, inFours - years * 365)

/-- The month and the day of a day of the year, given the lengths of the months from `month` on. -/
def splitMonth (month : Nat) : List Nat → Nat → Nat × Nat
  | [], days => (month, days + 1)
  | length :: lengths, days =>
    if days < length then (month, days + 1) else splitMonth (month + 1) lengths (days - length)

def ofDayNumber (number : Int) : CivilDate :=
  let (year, days) := splitYear (number + dayOfEra)
  let (month, day) := splitMonth 1 (monthLengths year) days
  ⟨year, month, day⟩

/-- The dates that an instant can have: years -262143 to 262142. -/
def inRange (year : Int) : Bool := -262143 ≤ year && year ≤ 262142

end Calendar

end VenueGateway
