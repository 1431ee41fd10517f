import VenueGateway.Instant.Basic
import VenueGateway.Text.Blank
import VenueGateway.Text.Digits

/-! # Reading instants

Exchange timestamps are universal time without an offset, written as a date, a `T`, a time and
perhaps a fraction of a second. Instants in JSON carry an offset, by which they are moved to
universal time. Items are read from left to right, and the first that cannot be read is the error.
-/

namespace VenueGateway.Instant

/-- Why a text is not an instant. -/
inductive ReadError
  | outOfRange
  | impossible
  | invalid
  | tooShort
  | tooLong
deriving DecidableEq

def ReadError.message : ReadError → String
  | outOfRange => "input is out of range"
  | impossible => "no possible date and time matching input"
  | invalid => "input contains invalid characters"
  | tooShort => "premature end of input"
  | tooLong => "trailing input"

/-- One to `most` digits. -/
def readNumber (most : Nat) : List Char → Except ReadError (List Char × List Char)
  | [] => .error .tooShort
  | c :: rest =>
    if c.isDigit then
      let digits := ((c :: rest).take most).takeWhile Char.isDigit
      .ok (digits, (c :: rest).drop digits.length)
    else .error .invalid

/-- A number from `low` on and below `high`, in one or two digits behind any blanks. -/
def readField (low high : Nat) (cs : List Char) :
    Except ReadError ({ n : Nat // low ≤ n ∧ n < high } × List Char) := do
  let (digits, rest) ← readNumber 2 (Text.trimStart cs)
  if h : low ≤ Text.digitsValue digits ∧ Text.digitsValue digits < high then
    return (⟨Text.digitsValue digits, h⟩, rest)
  else throw .outOfRange

/-- A year behind any blanks: up to four digits, or a sign and any number of digits. -/
def readYear (cs : List Char) : Except ReadError (Int × List Char) := do
  let (year, rest) ← match Text.trimStart cs with
    | '-' :: rest => do
      let (digits, rest) ← readNumber rest.length rest
      pure (-(Text.digitsValue digits : Int), rest)
    | '+' :: rest => do
      let (digits, rest) ← readNumber rest.length rest
      pure ((Text.digitsValue digits : Int), rest)
    | cs => do
      let (digits, rest) ← readNumber 4 cs
      pure ((Text.digitsValue digits : Int), rest)
  if -2147483648 ≤ year ∧ year < 2147483648 then return (year, rest) else throw .outOfRange

def readMark (mark : Char) : List Char → Except ReadError (List Char)
  | [] => .error .tooShort
  | c :: rest => if c = mark then .ok rest else .error .invalid

/-- Whether blanks may stand in front of the marks between the items. -/
inductive Layout
  | tight
  | spaced
deriving DecidableEq

def Layout.mark (layout : Layout) (mark : Char) (cs : List Char) : Except ReadError (List Char) :=
  match layout with
  | .tight => readMark mark cs
  | .spaced => readMark mark (Text.trimStart cs)

/-- A year, a month and a day. Whether the calendar has the date is not asked yet. -/
def readDate (layout : Layout) (cs : List Char) : Except ReadError (CivilDate × List Char) := do
  let (year, cs) ← readYear cs
  let cs ← layout.mark '-' cs
  let (month, cs) ← readField 1 13 cs
  let cs ← layout.mark '-' cs
  let (day, cs) ← readField 1 32 cs
  return (⟨year, month, day⟩, cs)

/-- A time of day to the second. -/
structure Clock where
  hour : Fin 24
  minute : Fin 60
  second : Fin 61

/-- An hour, a minute and a second, where second 60 is a leap second. -/
def readClock (layout : Layout) (cs : List Char) : Except ReadError (Clock × List Char) := do
  let (hour, cs) ← readField 0 24 cs
  let cs ← layout.mark ':' cs
  let (minute, cs) ← readField 0 60 cs
  let cs ← layout.mark ':' cs
  let (second, cs) ← readField 0 61 cs
  return (⟨⟨hour, hour.2.2⟩, ⟨minute, minute.2.2⟩, ⟨second, second.2.2⟩⟩, cs)

/-- The nanoseconds that fraction digits mean: the first nine of them, padded with zeros. -/
def nanosOf (digits : List Char) : Fin 1000000000 :=
  Fin.ofNat 1000000000 (Text.digitsValue (digits.take 9 ++ List.replicate (9 - digits.length) '0'))

/-- A point and at least one digit, or nothing. -/
def readFraction : List Char → Except ReadError (Fin 1000000000 × List Char)
  | '.' :: rest => do
    let (digits, rest) ← readNumber rest.length rest
    return (nanosOf digits, rest)
  | cs => .ok (0, cs)

/-- The instant of a date that the calendar has. -/
def ofDateAndClock (date : CivilDate) (clock : Clock) (nanos : Fin 1000000000) :
    Except ReadError Instant :=
  if Calendar.inRange date.year && Calendar.hasDate date then
    .ok (ofCivil date clock.hour clock.minute clock.second nanos)
  else .error .outOfRange

/-- A whole text without an offset, with or without a fraction of a second. -/
def readLocal (withFraction : Bool) (cs : List Char) : Except ReadError Instant := do
  let (date, cs) ← readDate .tight cs
  let cs ← readMark 'T' cs
  let (clock, cs) ← readClock .tight cs
  let (nanos, cs) ← if withFraction then readFraction cs else pure (0, cs)
  if cs.isEmpty then ofDateAndClock date clock nanos else throw .tooLong

/-- An exchange timestamp without blanks around it. When the form with a fraction cannot be read,
the error is that of the form without. -/
def readTimestamp (s : String) : Except ReadError Instant :=
  match readLocal true s.toList with
  | .ok t => .ok t
  | .error _ => readLocal false s.toList

/-- Two characters of an offset; a byte of another character cannot be a digit. -/
def readPair : List Char → Except ReadError (Char × Char × List Char)
  | a :: b :: rest => .ok (a, b, rest)
  | [a] => if a.utf8Size < 2 then .error .tooShort else .error .invalid
  | [] => .error .tooShort

/-- Hours and minutes of an offset from universal time, in seconds. -/
def readOffsetAmount (cs : List Char) : Except ReadError (Nat × List Char) := do
  let (h₁, h₂, cs) ← readPair cs
  if !(h₁.isDigit && h₂.isDigit) then throw .invalid
  let cs := cs.dropWhile fun c => c = ':' || Text.isBlank c
  let (m₁, m₂, cs) ← readPair cs
  if !(m₁.isDigit && m₂.isDigit) then throw .invalid
  if '6' ≤ m₁ then throw .outOfRange
  return (Text.digitsValue [h₁, h₂] * 3600 + Text.digitsValue [m₁, m₂] * 60, cs)

/-- An offset from universal time, in seconds. -/
def readOffset : List Char → Except ReadError (Int × List Char)
  | [] => .error .tooShort
  | c :: rest => do
    if c = 'Z' || c = 'z' then return (0, rest)
    else if c = '+' then
      let (seconds, rest) ← readOffsetAmount rest
      return (seconds, rest)
    else if c = '-' || c = '−' then
      let (seconds, rest) ← readOffsetAmount rest
      return (-seconds, rest)
    else throw .invalid

def readZone (cs : List Char) : Except ReadError (Int × List Char) :=
  if (cs.take 3).map Char.toUpper = ['U', 'T', 'C'] then .ok (0, cs.drop 3) else readOffset cs

/-- The mark between a date and a time. -/
def readDateMark : List Char → Except ReadError (List Char)
  | [] => .error .tooShort
  | c :: rest => if c = 'T' || c = 't' || c = ' ' then .ok rest else .error .invalid

/-- An instant with an offset of less than a day, moved to universal time. -/
def readWithOffset (s : String) : Except ReadError Instant := do
  let (date, cs) ← readDate .spaced s.toList
  let cs ← readDateMark cs
  let (clock, cs) ← readClock .spaced cs
  let (nanos, cs) ← readFraction cs
  let (offset, cs) ← readZone (Text.trimStart cs)
  if !(Text.trimStart cs).isEmpty then throw .tooLong
  let t ← ofDateAndClock date clock nanos
  if 86400 ≤ offset.natAbs then throw .outOfRange
  let moved := t.addSeconds (-offset)
  if Calendar.inRange (Calendar.ofDayNumber moved.day).year then return moved else throw .impossible

end VenueGateway.Instant
