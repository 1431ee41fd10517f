import VenueGateway.Decimal.Rounding

/-! # Finite doubles

A `Binary64` is a finite IEEE 754 double, kept as a sign, a significand below `2 ^ 53` and an
exponent of two. Arithmetic is exact on natural numbers, followed by one rounding to the nearest
double, half to even. What would be infinite has no value here.
-/

namespace VenueGateway

/-- The pairs of significand and exponent that denote a finite double in its one normal form. -/
def Binary64.Canonical (significand : Nat) (exponent : Int) : Prop :=
  significand < Nat.pow 2 53 ∧ -1074 ≤ exponent ∧ exponent ≤ 971 ∧
    (Nat.pow 2 52 ≤ significand ∨ exponent = -1074)

instance (significand : Nat) (exponent : Int) :
    Decidable (Binary64.Canonical significand exponent) :=
  inferInstanceAs (Decidable (_ ∧ _ ∧ _ ∧ _))

/-- A finite double: `significand * 2 ^ exponent`, with a sign. -/
structure Binary64 where
  negative : Bool
  significand : Nat
  exponent : Int
  canonical : Binary64.Canonical significand exponent
deriving DecidableEq

namespace Binary64

def zero (negative : Bool) : Binary64 := ⟨negative, 0, -1074, by decide⟩

instance : Inhabited Binary64 := ⟨zero false⟩

def isZero (x : Binary64) : Bool := x.significand = 0

/-- The magnitude as a fraction with the given multiple of the significand. -/
def fraction (significand : Nat) (exponent : Int) : Nat × Nat :=
  if 0 ≤ exponent then (significand * Nat.pow 2 exponent.toNat, 1)
  else (significand, Nat.pow 2 (-exponent).toNat)

def ratio (x : Binary64) : Nat × Nat := fraction x.significand x.exponent

def unscale (num den : Nat) (exponent : Int) : Nat × Nat :=
  if 0 ≤ exponent then (num, den * Nat.pow 2 exponent.toNat) else (num * Nat.pow 2 (-exponent).toNat, den)

/-- The exponent at which the quotient has 53 significant bits, or the least exponent. -/
def exponentFor (num den : Nat) : Int :=
  let guess : Int := max ((num.log2 : Int) - den.log2 - 53) (-1074)
  let (n, d) := unscale num den guess
  if Nat.pow 2 53 ≤ n / d then guess + 1 else guess

/-- The double nearest to `num / den`, half to even; none beyond the finite range. -/
def round? (negative : Bool) (num den : Nat) : Option Binary64 :=
  if num = 0 then some (zero negative)
  else
    let exponent := exponentFor num den
    let (n, d) := unscale num den exponent
    let rounded := Decimal.roundDiv .even n d
    let (significand, exponent) :=
      if rounded = Nat.pow 2 53 then (Nat.pow 2 52, exponent + 1) else (rounded, exponent)
    if h : Canonical significand exponent then some ⟨negative, significand, exponent, h⟩ else none

def ofNat? (n : Nat) : Option Binary64 := round? false n 1

/-- The product, rounded. -/
def mul? (x y : Binary64) : Option Binary64 :=
  let (a, b) := x.ratio
  let (c, d) := y.ratio
  round? (x.negative != y.negative) (a * c) (b * d)

/-- The quotient by a nonzero double, rounded. -/
def div? (x y : Binary64) : Option Binary64 :=
  let (a, b) := x.ratio
  let (c, d) := y.ratio
  round? (x.negative != y.negative) (a * d) (b * c)

def neg (x : Binary64) : Binary64 := { x with negative := !x.negative }

/-- The double nearest to a power of ten. -/
def powTen? (k : Nat) : Option Binary64 := round? false (Nat.pow 10 k) 1

end Binary64

end VenueGateway
