import VenueGateway.Json.Basic
import VenueGateway.Json.Fault
import VenueGateway.Text.Digits

/-! # Reading JSON numbers

A number whose digits fit in 64 bits is whole. Any other is a double, formed by a short rule that is
not the nearest double in every case: the digits go into a 64-bit significand until the next one
would not fit, and the significand is then multiplied or divided once by a power of ten.
-/

namespace VenueGateway.Json

/-- What a reader gives: a value and the characters behind it, or a fault. -/
abbrev Reading (α : Type) := Except Fault (α × List Char)

/-- Digits gathered into a significand below `2 ^ 64`. -/
structure Gathered where
  significand : Nat
  kept : Nat
  dropped : Nat
  left : List Char

/-- Gather digits while they fit, then drop the rest of them. -/
def gather (significand kept dropped : Nat) : List Char → Gathered
  | [] => ⟨significand, kept, dropped, []⟩
  | c :: rest =>
    if c.isDigit then
      let longer := significand * 10 + Text.digitValue c
      if dropped = 0 && longer < UInt64.size then gather longer (kept + 1) 0 rest
      else gather significand kept (dropped + 1) rest
    else ⟨significand, kept, dropped, c :: rest⟩

/-- Divide by `10 ^ 308` until nothing is left of the exponent, or of the number. -/
def divideDown : Nat → Binary64 → Binary64
  | 0, x => x
  | times + 1, x =>
    if x.isZero then x
    else divideDown times (((Binary64.powTen? 308).bind x.div?).getD (.zero false))

/-- The double made of a significand and a power of ten; none beyond the finite range. -/
def scaled? (significand : Nat) (exponent : Int) : Option Binary64 := do
  let x ← Binary64.ofNat? significand
  if 0 ≤ exponent then
    if exponent ≤ 308 then x.mul? (← Binary64.powTen? exponent.toNat)
    else if x.isZero then some x
    else none
  else
    let places := (-exponent).toNat
    let times := (places - 1) / 308
    let x := divideDown times x
    if x.isZero then some x else x.div? (← Binary64.powTen? (places - 308 * times))

/-- The double with a sign, or the fault behind the number. -/
def toFloat (negative : Bool) (significand : Nat) (exponent : Int) (left : List Char) :
    Reading Json :=
  match scaled? significand exponent with
  | some x => .ok (.float (if negative then x.neg else x), left)
  | none => .error (.behind .numberOutOfRange left)

/-- The digits of an exponent, from the first that would pass `2 ^ 31 - 1` on left unread. -/
def exponentDigits (exponent : Nat) : List Char → Nat × List Char
  | [] => (exponent, [])
  | c :: rest =>
    if c.isDigit then
      let longer := exponent * 10 + Text.digitValue c
      if longer < Nat.pow 2 31 then exponentDigits longer rest else (longer, rest)
    else (exponent, c :: rest)

/-- An exponent behind its mark, and the number it ends. -/
def readExponent (negative : Bool) (significand : Nat) (shift : Int) (cs : List Char) :
    Reading Json :=
  let (down, cs) := match cs with
    | '+' :: rest => (false, rest)
    | '-' :: rest => (true, rest)
    | cs => (false, cs)
  match cs with
  | [] => .error (.behind .endInValue [])
  | c :: rest =>
    if c.isDigit then
      let (exponent, left) := exponentDigits (Text.digitValue c) rest
      if exponent < Nat.pow 2 31 then
        toFloat negative significand (if down then shift - exponent else shift + exponent) left
      else if significand ≠ 0 && !down then .error (.behind .numberOutOfRange left)
      else .ok (.float (.zero negative), left.dropWhile Char.isDigit)
    else .error (.next .invalidNumber (c :: rest))

/-- An exponent, if one follows, ends the number. -/
def finishFloat (negative : Bool) (significand : Nat) (shift : Int) : List Char → Reading Json
  | c :: rest =>
    if c = 'e' || c = 'E' then readExponent negative significand shift rest
    else toFloat negative significand shift (c :: rest)
  | [] => toFloat negative significand shift []

/-- The fraction digits behind a point. -/
def readFraction (negative : Bool) (significand shift : Nat) (cs : List Char) : Reading Json :=
  match cs with
  | [] => .error (.behind .endInValue [])
  | c :: _ =>
    if c.isDigit then
      let digits := gather significand 0 0 cs
      finishFloat negative digits.significand (shift - digits.kept) digits.left
    else .error (.next .invalidNumber cs)

/-- What the whole part turns into: a whole number, unless a point or an exponent follows, digits
had to be dropped, or a negative number is zero or below the 64 bits with a sign. -/
def finishNumber (negative : Bool) (digits : Gathered) : Reading Json :=
  match digits.left with
  | '.' :: rest => readFraction negative digits.significand digits.dropped rest
  | left =>
    let exponentFollows := match left with
      | c :: _ => c = 'e' || c = 'E'
      | [] => false
    if exponentFollows || digits.dropped ≠ 0 then
      finishFloat negative digits.significand digits.dropped left
    else if !negative then .ok (.int digits.significand, left)
    else if digits.significand = 0 || Nat.pow 2 63 < digits.significand then
      toFloat true digits.significand 0 left
    else .ok (.int (-digits.significand), left)

/-- The digits of a number behind its sign. A second digit behind a leading zero is a fault. -/
def readDigits (negative : Bool) : List Char → Reading Json
  | [] => .error (.behind .endInValue [])
  | '0' :: rest =>
    match rest with
    | c :: more =>
      if c.isDigit then .error (.next .invalidNumber (c :: more))
      else finishNumber negative ⟨0, 1, 0, c :: more⟩
    | [] => finishNumber negative ⟨0, 1, 0, []⟩
  | c :: rest =>
    if c.isDigit then finishNumber negative (gather 0 0 0 (c :: rest))
    else .error (.next .invalidNumber (c :: rest))

end VenueGateway.Json
