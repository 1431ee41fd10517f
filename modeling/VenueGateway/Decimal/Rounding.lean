import VenueGateway.Decimal.Basic

/-! # Rounding amounts, products and percentages

`roundDiv` rounds a quotient to the nearest whole number and leaves ties to a rule. A product keeps
as many fraction digits as fit, and has no amount at all when its whole part does not fit.
-/

namespace VenueGateway.Decimal

/-- Which neighbour of a tie is taken. -/
inductive Tie
  | even
  | away
deriving DecidableEq

/-- The whole number nearest to `num / den`. -/
def roundDiv (tie : Tie) (num den : Nat) : Nat :=
  let quotient := num / den
  let twice := 2 * (num % den)
  if den < twice then quotient + 1
  else if twice = den then
    match tie with
    | .even => quotient + quotient % 2
    | .away => quotient + 1
  else quotient

theorem roundDiv_le (tie : Tie) (num den : Nat) : roundDiv tie num den ≤ num / den + 1 := by
  unfold roundDiv
  dsimp only
  split
  · omega
  · split
    · cases tie <;> dsimp only <;> omega
    · omega

/-- A quotient that is no more than a whole number does not round above it. -/
theorem roundDiv_le_of_le_mul (tie : Tie) {num den k : Nat} (pos : 0 < den) (h : num ≤ k * den) :
    roundDiv tie num den ≤ k := by
  have quotient_le : num / den ≤ k := Nat.div_le_of_le_mul (by rwa [Nat.mul_comm])
  rcases Nat.lt_or_eq_of_le quotient_le with below | same
  · exact Nat.le_trans (roundDiv_le tie num den) below
  · have split := Nat.div_add_mod num den
    have exact : num % den = 0 := by
      rw [same, Nat.mul_comm] at split
      omega
    simp [roundDiv, exact, same, Nat.ne_of_lt pos]

theorem roundDiv_pow_lt (tie : Tie) (x : Decimal) {k : Nat} (h : 0 < k) :
    roundDiv tie x.mantissa (Nat.pow 10 k) < bound := by
  have mantissa_lt := x.mantissa_lt
  have ten : 10 ≤ Nat.pow 10 k := Nat.le_self_pow (by omega) 10
  have small : x.mantissa / Nat.pow 10 k ≤ x.mantissa / 10 := Nat.div_le_div_left ten (by decide)
  have := roundDiv_le tie x.mantissa (Nat.pow 10 k)
  rw [bound] at mantissa_lt ⊢
  omega

/-- Round to at most `places` fraction digits. -/
def roundTo (tie : Tie) (places : Nat) (x : Decimal) : Decimal :=
  if h : places < x.scale then
    ⟨x.negative, roundDiv tie x.mantissa (Nat.pow 10 (x.scale - places)), places,
      roundDiv_pow_lt tie x (by omega), by have := x.scale_le; omega⟩
  else x

/-- A product that rounds to zero. Of two short factors, both below `2 ^ 32`, it has no sign, and no
fraction digits either when the factors have more than 47 between them. -/
def settleZero (x y product : Decimal) : Decimal :=
  if product.mantissa = 0 ∧ x.mantissa < UInt32.size ∧ y.mantissa < UInt32.size then
    if 47 < x.scale + y.scale then zero else product.abs
  else product

/-- The product, rounded half to even by the fewest digits that make it an amount. There is none
when dropping every fraction digit is not enough. A zero factor gives plain zero. -/
def mul? (x y : Decimal) : Option Decimal :=
  if x.mantissa = 0 ∨ y.mantissa = 0 then some zero
  else
    ((List.range (x.scale + y.scale + 1)).findSome? fun dropped =>
      ofParts? (x.negative != y.negative) (roundDiv .even (x.mantissa * y.mantissa) (Nat.pow 10 dropped))
        (x.scale + y.scale - dropped)).map (settleZero x y)

/-- The amount shifted to the left by `places ≤ 28`, in steps of at most 19 places. -/
def shiftLeft? (x : Decimal) (places : Nat) (h : places ≤ 28) : Option Decimal :=
  if small : places ≤ 19 then x.mul? (powTen places (by omega))
  else do
    let shifted ← x.mul? (powTen 19 (by decide))
    shifted.mul? (powTen (places - 19) (by omega))

/-- A hundredth of the magnitude in units of the 28th place, half to even. -/
def hundredth (x : Decimal) : Nat :=
  roundDiv .even (x.mantissa * Nat.pow 10 (28 - x.scale)) 100

/-- A hundredth of the magnitude in units of the 8th place, a half of the 28 places away from
zero. -/
def hundredthTo8 (x : Decimal) : Nat := roundDiv .away (hundredth x) (Nat.pow 10 20)

end VenueGateway.Decimal
