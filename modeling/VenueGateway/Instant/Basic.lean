import VenueGateway.Calendar
import VenueGateway.Decimal.Basic

/-! # Instants

An instant of universal time: a day, a second of the day and nanoseconds. The nanoseconds go on past
a second only in a leap second, which is shown as second 60.
-/

namespace VenueGateway

/-- A point in universal time. -/
structure Instant where
  day : Int
  second : Fin 86400
  nanos : Fin 2000000000
deriving DecidableEq

namespace Instant

def unixSeconds (t : Instant) : Int := t.day * 86400 + t.second.val

def inLeapSecond (t : Instant) : Bool := 1000000000 ≤ t.nanos.val

/-- The instant of a date and a time of day. Second 60 is the leap second behind second 59. -/
def ofCivil (date : CivilDate) (hour : Fin 24) (minute : Fin 60) (second : Fin 61)
    (nanos : Fin 1000000000) : Instant :=
  if leap : second.val = 60 then
    ⟨Calendar.dayNumber date, ⟨hour.val * 3600 + minute.val * 60 + 59, by omega⟩,
      ⟨1000000000 + nanos.val, by omega⟩⟩
  else
    ⟨Calendar.dayNumber date, ⟨hour.val * 3600 + minute.val * 60 + second.val, by omega⟩,
      ⟨nanos.val, by omega⟩⟩

/-- The instant some seconds later, for a negative count earlier; the nanoseconds stay. -/
def addSeconds (t : Instant) (seconds : Int) : Instant :=
  let total := t.second.val + seconds
  ⟨t.day + total / 86400, ⟨(total % 86400).toNat, by omega⟩, t.nanos⟩

/-- A year in at least four digits; outside 0 to 9999 with its sign. -/
def yearText (year : Int) : List Char :=
  let digits := Nat.toDigits 10 year.natAbs
  let padded := List.replicate (4 - digits.length) '0' ++ digits
  if 0 ≤ year ∧ year ≤ 9999 then padded else (if year < 0 then '-' else '+') :: padded

/-- A fraction of a second in 3, 6 or 9 digits, the fewest that are exact; nothing for zero. -/
def fractionText (nanos : Nat) : List Char :=
  if nanos = 0 then []
  else if nanos % 1000000 = 0 then '.' :: Decimal.lastDigits 3 (nanos / 1000000)
  else if nanos % 1000 = 0 then '.' :: Decimal.lastDigits 6 (nanos / 1000)
  else '.' :: Decimal.lastDigits 9 nanos

/-- The instant as an RFC 3339 text in universal time. -/
def text (t : Instant) : String :=
  let date := Calendar.ofDayNumber t.day
  let second := t.second.val % 60 + if t.inLeapSecond then 1 else 0
  String.ofList <|
    yearText date.year ++
    '-' :: Decimal.lastDigits 2 date.month ++ '-' :: Decimal.lastDigits 2 date.day ++
    'T' :: Decimal.lastDigits 2 (t.second.val / 3600) ++
    ':' :: Decimal.lastDigits 2 (t.second.val / 60 % 60) ++ ':' :: Decimal.lastDigits 2 second ++
    fractionText (t.nanos.val % 1000000000) ++ ['Z']

end Instant

end VenueGateway
