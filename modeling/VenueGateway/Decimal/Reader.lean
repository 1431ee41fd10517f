import VenueGateway.Decimal.Rounding
import VenueGateway.Text.Digits

/-! # Reading amounts

An amount is written with an optional sign, digits, at most one point, and underscores anywhere
after the first digit. Digits beyond the 28th fraction digit, or beyond what the mantissa holds, are
checked but only the first of them counts: it rounds the amount. An underscore in its place counts
as a zero in a short amount and is passed in a long one. A text that does not read this way but
holds an `e` or `E` is read as a base and a power of ten.
-/

namespace VenueGateway.Decimal

/-- Why a text is not an amount. -/
inductive ReadError
  | empty
  | noDigits
  | secondPoint
  | leadingSeparator
  | unknownCharacter
  | tooManyDigits
  | roundingOverflow
  | unreadableExponent
  | scaleTooLarge (scale : Nat)
  | tooLarge
deriving DecidableEq

def ReadError.message : ReadError → String
  | empty => "Invalid decimal: empty"
  | noDigits => "Invalid decimal: no digits found"
  | secondPoint => "Invalid decimal: two decimal points"
  | leadingSeparator => "Invalid decimal: must start lead with a number"
  | unknownCharacter => "Invalid decimal: unknown character"
  | tooManyDigits => "Invalid decimal: overflow from too many digits"
  | roundingOverflow => "Invalid decimal: overflow from mantissa after rounding"
  | unreadableExponent => "Failed to parse"
  | scaleTooLarge scale =>
    "Scale exceeds the maximum precision allowed: " ++ toString scale ++ " > 28"
  | tooLarge => "Number exceeds maximum value that can be represented."

/-- One more digit at the end, after the point if one was read. -/
def push? (x : Decimal) (afterPoint : Bool) (digit : Nat) : Option Decimal :=
  ofParts? x.negative (x.mantissa * 10 + digit) (if afterPoint then x.scale + 1 else x.scale)

/-- What a character that is not a digit means where it cannot stand. -/
def strayCharacter (c : Char) : ReadError :=
  if c = '.' then .secondPoint else if c = '_' then .leadingSeparator else .unknownCharacter

/-- The fraction digits that no longer count must still be digits and underscores. -/
def checkTail : List Char → Except ReadError Unit
  | [] => .ok ()
  | c :: rest => if c.isDigit || c = '_' then checkTail rest else .error (strayCharacter c)

/-- Round by the first digit that no longer counts. -/
def roundBy (x : Decimal) (digit : Nat) : Except ReadError Decimal :=
  if digit < 5 then .ok x
  else if h : x.mantissa + 1 < bound then .ok ⟨x.negative, x.mantissa + 1, x.scale, h, x.scale_le⟩
  else if x.scale = 0 then .error .roundingOverflow
  else
    .ok ⟨x.negative, (x.mantissa + 5) / 10, x.scale - 1,
      by have := x.mantissa_lt; omega, by have := x.scale_le; omega⟩

/-- Whether an amount is short: its digits but the last write a number with a good distance from
`2 ^ 64 / 10`. -/
def isShort (x : Decimal) : Bool := x.mantissa / 10 < (UInt64.size - 1) / 10 - 255

/-- Read the characters after the sign. -/
def readDigits (x : Decimal) (seenPoint seenDigit : Bool) : List Char → Except ReadError Decimal
  | [] => if seenDigit then .ok x.unsignedZero else .error .noDigits
  | c :: rest =>
    match Text.digit? c with
    | some digit =>
      match push? x seenPoint digit with
      | some longer => readDigits longer seenPoint true rest
      | none =>
        if seenPoint then do
          let rounded ← roundBy x digit
          checkTail rest
          return rounded.unsignedZero
        else .error .tooManyDigits
    | none =>
      if c = '.' && !seenPoint then readDigits x true seenDigit rest
      else if c = '_' && seenDigit then
        if seenPoint && x.scale = 28 && x.isShort then do
          checkTail rest
          return x.unsignedZero
        else readDigits x seenPoint true rest
      else .error (strayCharacter c)

/-- Read an amount without an exponent. -/
def readPlain : List Char → Except ReadError Decimal
  | [] => .error .empty
  | '-' :: rest => readDigits { zero with negative := true } false false rest
  | '+' :: rest => readDigits zero false false rest
  | cs => readDigits zero false false cs

/-- An exponent: an optional minus, an optional plus, and a number below `2 ^ 32`. -/
def readExponent (cs : List Char) : Except ReadError (Bool × Nat) :=
  let (negative, cs) := match cs with
    | '-' :: rest => (true, rest)
    | cs => (false, cs)
  let cs := match cs with
    | '+' :: rest => rest
    | cs => cs
  match Text.readNat? cs with
  | some n => if n < UInt32.size then .ok (negative, n) else .error .unreadableExponent
  | none => .error .unreadableExponent

/-- Divide by `10 ^ places`: more fraction digits, or the base rounded where they do not fit. -/
def shiftRight (x : Decimal) (places : Nat) : Decimal :=
  if fits : x.scale + places ≤ 28 then { x with scale := x.scale + places, scale_le := fits }
  else
    { x.roundTo .away (28 - places) with scale := 28, scale_le := by decide }

/-- Multiply by a power of ten. -/
def scaleBy (x : Decimal) (negative : Bool) (places : Nat) : Except ReadError Decimal :=
  if negative then
    if places ≤ 28 then .ok (x.shiftRight places) else .error (.scaleTooLarge places)
  else if h : places ≤ x.scale then
    .ok { x with scale := x.scale - places, scale_le := by have := x.scale_le; omega }
  else if h : places ≤ 28 then
    match x.shiftLeft? places h with
    | some shifted => .ok shifted.normalize
    | none => .error .tooLarge
  else .error (.scaleTooLarge places)

def isExponentMark (c : Char) : Bool := c = 'e' || c = 'E'

/-- Read an amount, with or without an exponent. -/
def readChars (cs : List Char) : Except ReadError Decimal :=
  match readPlain cs with
  | .ok x => .ok x
  | .error e =>
    match cs.dropWhile (!isExponentMark ·) with
    | [] => .error e
    | _ :: exponent => do
      let base ← readPlain (cs.takeWhile (!isExponentMark ·))
      let (negative, places) ← readExponent exponent
      base.scaleBy negative places

/-- Read an amount from a text. -/
def read (s : String) : Except ReadError Decimal := readChars s.toList

end VenueGateway.Decimal
