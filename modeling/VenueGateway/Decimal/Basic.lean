/-! # Decimal amounts

An amount is a sign, a mantissa below `2 ^ 96` and a scale of at most 28 fraction digits. Amounts of
one value but different scales are different amounts: the scale is visible in their text. `units`
gives the value as a whole number of units of the 28th place, and comparison goes through it.
-/

namespace VenueGateway

/-- What every mantissa is below: `2 ^ 96`. -/
abbrev Decimal.bound : Nat := 79228162514264337593543950336

/-- A decimal amount: `mantissa / 10 ^ scale`, with a sign. -/
structure Decimal where
  negative : Bool
  mantissa : Nat
  scale : Nat
  mantissa_lt : mantissa < Decimal.bound
  scale_le : scale ≤ 28
deriving DecidableEq

namespace Decimal

/-- The amount with these parts, if the mantissa and the scale are within their limits. -/
def ofParts? (negative : Bool) (mantissa scale : Nat) : Option Decimal :=
  if h : mantissa < bound ∧ scale ≤ 28 then some ⟨negative, mantissa, scale, h.1, h.2⟩ else none

/-- The whole amount `n`, for an `n` that fits in 64 bits. -/
def ofWord (negative : Bool) (n : Nat) (h : n < UInt64.size) : Decimal :=
  ⟨negative, n, 0, Nat.lt_trans h (by decide), by decide⟩

def zero : Decimal := ⟨false, 0, 0, by decide, by decide⟩

instance : Inhabited Decimal := ⟨zero⟩

/-- The power of ten `10 ^ k`, as a whole amount. -/
def powTen (k : Nat) (h : k ≤ 28) : Decimal :=
  ⟨false, Nat.pow 10 k, 0, Nat.lt_of_le_of_lt (Nat.pow_le_pow_right (by decide) h) (by decide), by decide⟩

/-- The value as a whole number of units of the 28th place. -/
def units (x : Decimal) : Int :=
  let magnitude : Int := (x.mantissa * Nat.pow 10 (28 - x.scale) : Nat)
  if x.negative then -magnitude else magnitude

def isPositive (x : Decimal) : Bool := decide (0 < x.units)

def abs (x : Decimal) : Decimal := { x with negative := false }

/-- An amount of zero loses its sign, any other stays as it is. -/
def unsignedZero (x : Decimal) : Decimal := if x.mantissa = 0 then x.abs else x

/-- Drop trailing zeros of the mantissa while there are fraction digits to drop. -/
def stripZeros (mantissa : Nat) : Nat → Nat × Nat
  | 0 => (mantissa, 0)
  | scale + 1 =>
    if mantissa % 10 = 0 then stripZeros (mantissa / 10) scale else (mantissa, scale + 1)

theorem stripZeros_fst_le (mantissa scale : Nat) : (stripZeros mantissa scale).1 ≤ mantissa := by
  induction scale generalizing mantissa with
  | zero => simp [stripZeros]
  | succ scale ih =>
    rw [stripZeros]
    split
    · exact Nat.le_trans (ih _) (Nat.div_le_self _ _)
    · exact Nat.le_refl _

theorem stripZeros_snd_le (mantissa scale : Nat) : (stripZeros mantissa scale).2 ≤ scale := by
  induction scale generalizing mantissa with
  | zero => simp [stripZeros]
  | succ scale ih =>
    rw [stripZeros]
    split
    · exact Nat.le_succ_of_le (ih _)
    · exact Nat.le_refl _

/-- The amount of the same value with the smallest scale; zero also loses its sign. -/
def normalize (x : Decimal) : Decimal :=
  if x.mantissa = 0 then zero
  else
    ⟨x.negative, (stripZeros x.mantissa x.scale).1, (stripZeros x.mantissa x.scale).2,
      Nat.lt_of_le_of_lt (stripZeros_fst_le _ _) x.mantissa_lt,
      Nat.le_trans (stripZeros_snd_le _ _) x.scale_le⟩

/-- The last `count` decimal digits of a number, with leading zeros. -/
def lastDigits : Nat → Nat → List Char
  | 0, _ => []
  | count + 1, n => lastDigits count (n / 10) ++ [Nat.digitChar (n % 10)]

/-- The digits of an amount: the whole part, and a point with exactly `scale` digits after it. -/
def magnitudeText (mantissa scale : Nat) : List Char :=
  Nat.toDigits 10 (mantissa / Nat.pow 10 scale) ++
    if scale = 0 then [] else '.' :: lastDigits scale mantissa

def text (x : Decimal) : String :=
  String.ofList ((if x.negative then ['-'] else []) ++ magnitudeText x.mantissa x.scale)

instance : ToString Decimal := ⟨text⟩

end Decimal

end VenueGateway
