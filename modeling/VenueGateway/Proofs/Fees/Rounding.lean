import VenueGateway.Proofs.Decimal.Value
import VenueGateway.Proofs.Fees

/-! # Fees and their exact fractions

A fee is meant to be a hundredth of its percentage, half up to 8 places. It is rounded twice, to 28
places and then to 8, and the first rounding can reach a tie from below: then the fee is one unit of
the last place too high. That takes a percentage with more than 26 digits behind the point.
-/

namespace VenueGateway.Fees

/-- The fraction that a percentage means: a hundredth of it, half up to 8 places. -/
def exactFraction (x : Decimal) : ℚ := round (x.value / 100 * 10 ^ 8) / 10 ^ 8

/-- A number that is less than a tie of the 8th place, by half a unit of the 28th place at most. -/
def BelowTie (q : ℚ) : Prop :=
  ∃ k : ℕ, (k + 1 / 2) / 10 ^ 8 - 1 / 2 / 10 ^ 28 ≤ q ∧ q < (k + 1 / 2) / 10 ^ 8

/-! ## In units of the 28th place -/

/-- Rounding twice differs from rounding once where the first rounding reaches the tie of the second. That
tie is even, so that it is reached from half a hundred below on. -/
theorem roundDiv_twice (n : ℕ) :
    Decimal.roundDiv .away (Decimal.roundDiv .even n 100) (10 ^ 20) =
      Decimal.roundDiv .away n (10 ^ 22) +
        if 5 * 10 ^ 21 ≤ n % 10 ^ 22 + 50 ∧ n % 10 ^ 22 < 5 * 10 ^ 21 then 1 else 0 := by
  have reaches : n / 10 ^ 22 * 10 ^ 20 + 5 * 10 ^ 19 ≤ Decimal.roundDiv .even n 100 ↔
      5 * 10 ^ 21 ≤ n % 10 ^ 22 + 50 := by
    rw [Decimal.le_roundDiv_even_iff (by decide) (by omega)]
    omega
  have lower : n / 10 ^ 22 * 10 ^ 20 ≤ Decimal.roundDiv .even n 100 := by
    rw [Decimal.le_roundDiv_even_iff (by decide) (by omega)]
    omega
  have upper := Decimal.roundDiv_le .even n 100
  rw [Decimal.roundDiv_away_eq (by decide), Decimal.roundDiv_away_eq (by decide)]
  split
  · omega
  · omega

section Percentage

variable {x : Decimal} (unsigned : x.negative = false)
include unsigned

theorem value_div_hundred :
    x.value / 100 = (x.mantissa * 10 ^ (28 - x.scale) : ℕ) / 10 ^ 30 := by
  rw [Decimal.value_of_unsigned unsigned, Decimal.div_pow_eq x.scale_le]
  ring

theorem exactFraction_eq : exactFraction x =
    (Decimal.roundDiv .away (x.mantissa * 10 ^ (28 - x.scale)) (10 ^ 22) : ℕ) / 10 ^ 8 := by
  have places : x.value / 100 * 10 ^ 8 =
      (x.mantissa * 10 ^ (28 - x.scale) : ℕ) / (10 ^ 22 : ℕ) := by
    rw [value_div_hundred unsigned]
    push_cast
    ring
  rw [exactFraction, places, ← Decimal.roundDiv_away (by decide), Int.cast_natCast]

theorem belowTie_iff : BelowTie (x.value / 100) ↔
    5 * 10 ^ 21 ≤ x.mantissa * 10 ^ (28 - x.scale) % 10 ^ 22 + 50 ∧
      x.mantissa * 10 ^ (28 - x.scale) % 10 ^ 22 < 5 * 10 ^ 21 := by
  rw [BelowTie, value_div_hundred unsigned]
  generalize x.mantissa * 10 ^ (28 - x.scale) = n
  have low : ∀ k : ℕ, ((k + 1 / 2) / 10 ^ 8 - 1 / 2 / 10 ^ 28 : ℚ) ≤ n / 10 ^ 30 ↔
      k * 10 ^ 22 + 5 * 10 ^ 21 ≤ n + 50 := by
    intro k
    rw [← Nat.cast_le (α := ℚ)]
    push_cast
    constructor <;> intro bound <;> linarith
  have high : ∀ k : ℕ, (n / 10 ^ 30 : ℚ) < (k + 1 / 2) / 10 ^ 8 ↔ n < k * 10 ^ 22 + 5 * 10 ^ 21 := by
    intro k
    rw [← Nat.cast_lt (α := ℚ)]
    push_cast
    constructor <;> intro bound <;> linarith
  simp only [low, high]
  constructor
  · rintro ⟨k, reached, missed⟩
    omega
  · rintro ⟨reached, missed⟩
    exact ⟨n / 10 ^ 22, by omega, by omega⟩

/-- A percentage with at most 26 digits behind the point is not just below a tie. -/
theorem not_belowTie_of_scale_le (few : x.scale ≤ 26) : ¬ BelowTie (x.value / 100) := by
  have hundreds : x.mantissa * 10 ^ (28 - x.scale) = 100 * (x.mantissa * 10 ^ (26 - x.scale)) := by
    rw [show 28 - x.scale = 26 - x.scale + 2 by omega, pow_add]
    ring
  rw [belowTie_iff unsigned, hundreds]
  omega

/-- The fraction of a percentage is the exact one, or one unit of the 8th place more. -/
theorem value_fraction (percentage : isPercentage x = true) :
    (¬ BelowTie (x.value / 100) → (fraction x percentage).value = exactFraction x) ∧
      (BelowTie (x.value / 100) → (fraction x percentage).value = exactFraction x + 1 / 10 ^ 8) := by
  have twice := roundDiv_twice (x.mantissa * 10 ^ (28 - x.scale))
  have fraction_eq : (fraction x percentage).value = (Decimal.roundDiv .away
      (Decimal.roundDiv .even (x.mantissa * 10 ^ (28 - x.scale)) 100) (10 ^ 20) : ℕ) / 10 ^ 8 :=
    Decimal.value_of_unsigned rfl
  rw [fraction_eq, twice, exactFraction_eq unsigned, belowTie_iff unsigned]
  constructor
  · intro apart
    rw [if_neg apart, Nat.add_zero]
  · intro below
    rw [if_pos below]
    push_cast
    ring

end Percentage

/-! ## Texts -/

variable {entry percent : String} {x : Decimal}

theorem readPercentage_of_percentage (read : Decimal.read (Text.trim percent) = .ok x)
    (percentage : isPercentage x = true) :
    readPercentage entry percent = .ok (fraction x percentage) := by
  rw [readPercentage, read]
  exact dif_pos percentage

theorem readPercentage_of_other (read : Decimal.read (Text.trim percent) = .ok x)
    (other : isPercentage x = false) :
    readPercentage entry percent = .error (.outOfRange entry percent) := by
  rw [readPercentage, read]
  exact dif_neg (by rw [other]; decide)

theorem isPercentage_of_unsigned (unsigned : x.negative = false) (upper : x.value ≤ 100) :
    isPercentage x = true := by
  rw [Decimal.value_of_unsigned unsigned, div_le_iff₀ (by positivity)] at upper
  rw [isPercentage_iff]
  exact ⟨unsigned, by exact_mod_cast upper⟩

/-- A percentage from zero to a hundred gives its exact fraction, unless that is just below a tie: then
the fee is one unit of the 8th place more. Only a zero that kept a minus sign gives no fee. -/
theorem readPercentage_rounds (entry : String)
    (read : Decimal.read (Text.trim percent) = .ok x) (lower : 0 ≤ x.value) (upper : x.value ≤ 100) :
    (x.negative = false → ∃ fee, readPercentage entry percent = .ok fee ∧ fee.scale = 8 ∧
      (¬ BelowTie (x.value / 100) → fee.value = exactFraction x) ∧
      (BelowTie (x.value / 100) → fee.value = exactFraction x + 1 / 10 ^ 8)) ∧
    (x.negative = true → x.mantissa = 0 ∧
      readPercentage entry percent = .error (.outOfRange entry percent)) := by
  constructor
  · intro unsigned
    have percentage := isPercentage_of_unsigned unsigned upper
    exact ⟨_, readPercentage_of_percentage read percentage, rfl, value_fraction unsigned percentage⟩
  · intro signed
    have other : isPercentage x = false := by
      rw [← Bool.not_eq_true, isPercentage_iff, signed]
      exact fun percentage => nomatch percentage.1
    refine ⟨?_, readPercentage_of_other read other⟩
    rw [Decimal.value_of_signed signed] at lower
    have zero : (x.mantissa / 10 ^ x.scale : ℚ) = 0 := by
      have magnitude : (0 : ℚ) ≤ x.mantissa / 10 ^ x.scale := by positivity
      linarith
    rcases div_eq_zero_iff.mp zero with zero | zero
    · exact_mod_cast zero
    · exact absurd zero (by positivity)

def tiePercentage : Decimal := .ofPlaces 125 7

/-- A fraction at a tie is lifted once, as it should be. -/
theorem readPercentage_rounds_tie :
    Decimal.read (Text.trim " 0.0000125") = .ok tiePercentage ∧ 0 ≤ tiePercentage.value ∧
      tiePercentage.value ≤ 100 ∧ ∃ fee, readPercentage buyEntry " 0.0000125" = .ok fee ∧
        fee.value = exactFraction tiePercentage ∧ fee.value = 13 / 10 ^ 8 := by
  have read : Decimal.read (Text.trim " 0.0000125") = .ok tiePercentage := by decide +kernel
  have value : tiePercentage.value = 125 / 10 ^ 7 := by
    rw [tiePercentage, Decimal.value_ofPlaces (by decide)]
    norm_num
  have lower : 0 ≤ tiePercentage.value := by rw [value]; norm_num
  have upper : tiePercentage.value ≤ 100 := by rw [value]; norm_num
  have apart : ¬ BelowTie (tiePercentage.value / 100) := not_belowTie_of_scale_le rfl (by decide)
  have rounded : Decimal.roundDiv .away
      (tiePercentage.mantissa * 10 ^ (28 - tiePercentage.scale)) (10 ^ 22) = 13 := by decide
  obtain ⟨fee, made, -, exact, -⟩ := (readPercentage_rounds buyEntry read lower upper).1 rfl
  refine ⟨read, lower, upper, fee, made, exact apart, ?_⟩
  rw [exact apart, exactFraction_eq rfl, rounded]
  norm_num

/-- The largest percentage whose fraction is below half a unit of the 8th place. -/
def untiedPercentage : Decimal := .ofPlaces 4999999999999999999999 28

/-- Its fraction is nothing, to 8 places, but its fee is a unit of the 8th place. -/
theorem readPercentage_ne_exactFraction :
    Decimal.read (Text.trim "0.0000004999999999999999999999") = .ok untiedPercentage ∧
      0 ≤ untiedPercentage.value ∧ untiedPercentage.value ≤ 100 ∧
      exactFraction untiedPercentage = 0 ∧ ∃ fee,
        readPercentage buyEntry "0.0000004999999999999999999999" = .ok fee ∧
          fee.value = 1 / 10 ^ 8 := by
  have value : untiedPercentage.value = 4999999999999999999999 / 10 ^ 28 := by
    rw [untiedPercentage, Decimal.value_ofPlaces (by decide)]
    norm_num
  have rounded : Decimal.roundDiv .away
      (untiedPercentage.mantissa * 10 ^ (28 - untiedPercentage.scale)) (10 ^ 22) = 0 := by decide
  refine ⟨by decide +kernel, ?_, ?_, ?_, .ofPlaces 1 8, by decide +kernel, ?_⟩
  · rw [value]
    norm_num
  · rw [value]
    norm_num
  · rw [exactFraction_eq rfl, rounded]
    norm_num
  · rw [Decimal.value_ofPlaces (by decide)]
    norm_num

end VenueGateway.Fees
