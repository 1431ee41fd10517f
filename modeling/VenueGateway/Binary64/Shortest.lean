import VenueGateway.Binary64.Basic

/-! # The shortest text of a double

The digits of a double are the fewest that read back as the same double, and of those the nearest to
it. They are found grid by grid: of each decimal grid only the two neighbours of the double can lie
in the interval that rounds to it. Two texts are made of the digits: one that turns to an exponent
for very large and very small doubles, and a plain one that never does. They differ also in which
neighbour they take when both are equally near.
-/

namespace VenueGateway.Binary64

/-- The interval of reals that round to a double, in quarters of its last place. -/
structure Interval where
  value : Nat
  low : Nat
  high : Nat
  den : Nat
  closed : Bool

/-- The interval of a nonzero magnitude. Below a power of two the doubles lie twice as close. -/
def interval (significand : Nat) (exponent : Int) : Interval :=
  let below := if significand = Nat.pow 2 52 ∧ -1074 < exponent then 1 else 2
  let quarter := fun quarters => (fraction quarters (exponent - 2)).1
  { value := quarter (4 * significand)
    low := quarter (4 * significand - below)
    high := quarter (4 * significand + 2)
    den := (fraction 1 (exponent - 2)).2
    closed := significand % 2 = 0 }

/-- A multiple of `10 ^ unit` beside a fraction, both over one denominator. -/
def onGrid (multiple : Nat) (unit : Int) (num den : Nat) : Nat × Nat :=
  if 0 ≤ unit then (multiple * Nat.pow 10 unit.toNat * den, num)
  else (multiple * den, num * Nat.pow 10 (-unit).toNat)

/-- Whether a multiple of `10 ^ unit` rounds to the double. -/
def Interval.holds (i : Interval) (multiple : Nat) (unit : Int) : Bool :=
  let (point, low) := onGrid multiple unit i.low i.den
  let (_, high) := onGrid multiple unit i.high i.den
  if i.closed then low ≤ point && point ≤ high else low < point && point < high

/-- How far a multiple of `10 ^ unit` lies from the double. -/
def Interval.distance (i : Interval) (multiple : Nat) (unit : Int) : Nat :=
  let (point, value) := onGrid multiple unit i.value i.den
  (point - value) + (value - point)

/-- The multiple of `10 ^ unit` at or below the double. -/
def Interval.floorOn (i : Interval) (unit : Int) : Nat :=
  if 0 ≤ unit then i.value / (i.den * Nat.pow 10 unit.toNat) else i.value * Nat.pow 10 (-unit).toNat / i.den

/-- The better neighbour on a grid, if one of them rounds to the double. -/
def Interval.onUnit? (tie : Decimal.Tie) (i : Interval) (unit : Int) : Option Nat :=
  let below := i.floorOn unit
  let above := below + 1
  match i.holds below unit, i.holds above unit with
  | true, true =>
    if i.distance below unit < i.distance above unit then some below
    else if i.distance above unit < i.distance below unit then some above
    else
      match tie with
      | .even => some (below + below % 2)
      | .away => some above
  | true, false => some below
  | false, true => some above
  | false, false => none

/-- The decimal exponent of the leading digit of a positive fraction. -/
def leadingExponent (num den : Nat) : Int :=
  if den ≤ num then ((Nat.toDigits 10 (num / den)).length : Int) - 1
  else
    let places := (Nat.toDigits 10 (den / num)).length - 1
    if den ≤ num * Nat.pow 10 places then -places else -(places + 1)

/-- Drop trailing zeros, raising the unit. -/
def stripZeros : Nat → Nat → Int → Nat × Int
  | 0, digits, unit => (digits, unit)
  | fuel + 1, digits, unit =>
    if digits % 10 = 0 then stripZeros fuel (digits / 10) (unit + 1) else (digits, unit)

/-- The digits and the unit of the shortest decimal that reads back as a nonzero double: of the
grids with 1, 2, … 17 digits the first with a hit. -/
def shortest (tie : Decimal.Tie) (x : Binary64) : Nat × Int :=
  let i := interval x.significand x.exponent
  let top := leadingExponent i.value i.den
  let hit := (List.range 17).findSome? fun (more : Nat) =>
    (Interval.onUnit? tie i (top - more)).map fun digits => (digits, top - (more : Int))
  match hit with
  | some (digits, unit) => stripZeros 18 digits unit
  | none => (0, 0)

/-- Digits with a point after the first `whole` of them, padded with zeros on either side. -/
def positional (digits : List Char) (whole : Int) : List Char × List Char :=
  if whole ≤ 0 then (['0'], List.replicate (-whole).toNat '0' ++ digits)
  else
    let padded := digits ++ List.replicate (whole.toNat - digits.length) '0'
    (padded.take whole.toNat, padded.drop whole.toNat)

def signText (x : Binary64) : List Char := if x.negative then ['-'] else []

/-- The shortest text without an exponent; of two digits equally near the one away from zero. -/
def plainText (x : Binary64) : List Char :=
  x.signText ++
    if x.isZero then ['0']
    else
      let (digits, unit) := x.shortest .away
      let ds := Nat.toDigits 10 digits
      let (whole, fraction) := positional ds (ds.length + unit)
      whole ++ if fraction.isEmpty then [] else '.' :: fraction

/-- The shortest text: positional with at least one fraction digit when the leading digit stands
between the 5th place behind the point and the 16th before it, otherwise with an exponent. Of two
digits equally near it takes the even one. -/
def text (x : Binary64) : String :=
  String.ofList <| x.signText ++
    if x.isZero then ['0', '.', '0']
    else
      let (digits, unit) := x.shortest .even
      let ds := Nat.toDigits 10 digits
      let leading : Int := ds.length + unit - 1
      if -5 ≤ leading ∧ leading ≤ 15 then
        let (whole, fraction) := positional ds (leading + 1)
        whole ++ '.' :: if fraction.isEmpty then ['0'] else fraction
      else
        let (whole, fraction) := positional ds 1
        whole ++ (if fraction.isEmpty then [] else '.' :: fraction) ++
          'e' :: (if leading < 0 then '-' else '+') :: Nat.toDigits 10 leading.natAbs

end VenueGateway.Binary64
