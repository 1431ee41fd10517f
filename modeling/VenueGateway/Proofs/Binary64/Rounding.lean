import Mathlib.Algebra.Order.Field.Power
import VenueGateway.Binary64.Basic
import VenueGateway.Proofs.Decimal.Value

/-! # Rounding to doubles

A number in the range of the normal doubles is scaled until it has 53 bits in front of the point and
rounded there, half to even. A whole number below `2 ^ 53` is its own double.
-/

namespace VenueGateway.Binary64

open Decimal (NearestEven roundDiv nearestEven_roundDiv)

variable {num den : ℕ} {exponent : ℤ} {negative : Bool} {x : Binary64} {q : ℚ}

/-- The number that a double is, without its sign. -/
def magnitude (x : Binary64) : ℚ := x.significand * 2 ^ x.exponent

/-! ## Fractions -/

theorem fraction_spec (significand : ℕ) (exponent : ℤ) :
    0 < (fraction significand exponent).2 ∧
      ((fraction significand exponent).1 / (fraction significand exponent).2 : ℚ) =
        significand * 2 ^ exponent := by
  rw [fraction]
  split
  · rename_i up
    obtain ⟨places, rfl⟩ := Int.eq_ofNat_of_zero_le up
    simp
  · rename_i down
    obtain ⟨places, rfl⟩ := Int.exists_eq_neg_ofNat (Int.le_of_lt (Int.not_le.mp down))
    simp [div_eq_mul_inv]

theorem unscale_spec (num : ℕ) (pos : 0 < den) (exponent : ℤ) :
    0 < (unscale num den exponent).2 ∧
      ((unscale num den exponent).1 / (unscale num den exponent).2 : ℚ) = num / den / 2 ^ exponent := by
  rw [unscale]
  split
  · rename_i up
    obtain ⟨places, rfl⟩ := Int.eq_ofNat_of_zero_le up
    simp [pos, div_div]
  · rename_i down
    obtain ⟨places, rfl⟩ := Int.exists_eq_neg_ofNat (Int.le_of_lt (Int.not_le.mp down))
    simp [pos, div_eq_mul_inv, mul_right_comm]

theorem div_lt_natCast_iff (pos : 0 < den) {bound : ℕ} :
    num / den < bound ↔ (num / den : ℚ) < bound := by
  have positive : (0 : ℚ) < den := by exact_mod_cast pos
  rw [Nat.div_lt_iff_lt_mul pos, div_lt_iff₀ positive]
  exact_mod_cast Iff.rfl

theorem num_pos (positive : (0 : ℚ) < num / den) : 0 < num := by
  apply Nat.pos_of_ne_zero
  rintro rfl
  rw [Nat.cast_zero, zero_div] at positive
  exact lt_irrefl _ positive

/-! ## The exponent of a quotient -/

theorem pow_log2_le {n : ℕ} (pos : 0 < n) : (2 : ℚ) ^ n.log2 ≤ n ∧ (n : ℚ) < 2 ^ (n.log2 + 1) := by
  constructor
  · exact_mod_cast Nat.log2_self_le pos.ne'
  · exact_mod_cast Nat.lt_log2_self

/-- The numbers of bits of a numerator and a denominator give that of the quotient up to one. -/
theorem quotient_bits (numPos : 0 < num) (denPos : 0 < den) :
    (2 : ℚ) ^ ((num.log2 : ℤ) - den.log2 - 1) < num / den ∧
      (num / den : ℚ) < 2 ^ ((num.log2 : ℤ) - den.log2 + 1) := by
  obtain ⟨numLow, numHigh⟩ := pow_log2_le numPos
  obtain ⟨denLow, denHigh⟩ := pow_log2_le denPos
  have denominator : (0 : ℚ) < den := by exact_mod_cast denPos
  constructor
  · rw [lt_div_iff₀ denominator]
    calc (2 : ℚ) ^ ((num.log2 : ℤ) - den.log2 - 1) * den
      _ < 2 ^ ((num.log2 : ℤ) - den.log2 - 1) * 2 ^ (den.log2 + 1) := by gcongr
      _ = 2 ^ num.log2 := by
        rw [← zpow_natCast, ← zpow_natCast, ← zpow_add₀ (by norm_num)]
        congr 1
        push_cast
        ring
      _ ≤ num := numLow
  · rw [div_lt_iff₀ denominator]
    calc (num : ℚ)
      _ < 2 ^ (num.log2 + 1) := numHigh
      _ = 2 ^ ((num.log2 : ℤ) - den.log2 + 1) * 2 ^ den.log2 := by
        rw [← zpow_natCast, ← zpow_natCast, ← zpow_add₀ (by norm_num)]
        congr 1
        push_cast
        ring
      _ ≤ 2 ^ ((num.log2 : ℤ) - den.log2 + 1) * den := by gcongr

/-- At its exponent a quotient in the normal range has 53 bits. -/
theorem exponentFor_spec (denPos : 0 < den) (normal : (2 : ℚ) ^ (-1022 : ℤ) ≤ num / den) :
    (2 : ℚ) ^ (exponentFor num den + 52) ≤ num / den ∧
      (num / den : ℚ) < 2 ^ (exponentFor num den + 53) ∧ -1074 ≤ exponentFor num den := by
  have numPos : 0 < num := num_pos (lt_of_lt_of_le (by positivity) normal)
  obtain ⟨low, high⟩ := quotient_bits numPos denPos
  have guessed : ∃ guess : ℤ, (num.log2 : ℤ) - den.log2 - 53 ≤ guess ∧ -1074 ≤ guess ∧
      (guess = (num.log2 : ℤ) - den.log2 - 53 ∨ guess = -1074) ∧
      exponentFor num den = if Nat.pow 2 53 ≤ (unscale num den guess).1 / (unscale num den guess).2
        then guess + 1 else guess :=
    ⟨_, le_max_left _ _, le_max_right _ _, max_choice _ _, rfl⟩
  obtain ⟨guess, atLeast, least, choice, same⟩ := guessed
  have least_bits : (2 : ℚ) ^ (guess + 52) ≤ num / den := by
    rcases choice with rfl | rfl
    · exact (zpow_le_zpow_right₀ (by norm_num) (by omega)).trans low.le
    · exact normal
  obtain ⟨scaledPos, scaled⟩ := unscale_spec num denPos guess
  have full_iff : Nat.pow 2 53 ≤ (unscale num den guess).1 / (unscale num den guess).2 ↔
      (2 : ℚ) ^ (guess + 53) ≤ num / den := by
    rw [← not_lt, div_lt_natCast_iff scaledPos, scaled, not_lt, le_div_iff₀ (by positivity),
      zpow_add₀ (by norm_num), mul_comm]
    norm_num
  rw [same]
  split
  · rename_i full
    rw [full_iff] at full
    refine ⟨?_, ?_, by omega⟩
    · rwa [show guess + 1 + 52 = guess + 53 by ring]
    · exact high.trans_le (zpow_le_zpow_right₀ (by norm_num) (by omega))
  · rename_i free
    rw [full_iff, not_le] at free
    exact ⟨least_bits, free, least⟩

/-! ## Rounding -/

/-- How a number becomes a double: it is rounded at the exponent where it has 53 bits, and what comes
to one bit more is carried. -/
structure RoundedAt (exponent : ℤ) (q : ℚ) (x : Binary64) : Prop where
  low : (2 : ℚ) ^ (exponent + 52) ≤ q
  high : q < 2 ^ (exponent + 53)
  least : -1074 ≤ exponent
  rounds : x.exponent = exponent ∧ NearestEven (q / 2 ^ exponent) x.significand ∨
    x.exponent = exponent + 1 ∧ x.significand = 2 ^ 52 ∧ NearestEven (q / 2 ^ exponent) (2 ^ 53 : ℕ)

theorem nearestEven_natCast (n : ℕ) : NearestEven (n : ℚ) n := by
  have exact : NearestEven ((n : ℤ) + 0 : ℚ) n := Decimal.nearestEven_below le_rfl (by norm_num)
  simpa using exact

theorem pow_le_of_nearestEven {n : ℕ} (bits : ℕ) (nearest : NearestEven (q / 2 ^ exponent) n)
    (low : (2 : ℚ) ^ (exponent + bits) ≤ q) : 2 ^ bits ≤ n := by
  rw [zpow_add₀ (by norm_num), ← le_div_iff₀' (by positivity), zpow_natCast] at low
  exact_mod_cast (nearestEven_natCast (2 ^ bits)).mono nearest (by exact_mod_cast low)

theorem le_pow_of_nearestEven {n : ℕ} (bits : ℕ) (nearest : NearestEven (q / 2 ^ exponent) n)
    (high : q ≤ 2 ^ (exponent + bits)) : n ≤ 2 ^ bits := by
  rw [zpow_add₀ (by norm_num), ← div_le_iff₀' (by positivity), zpow_natCast] at high
  exact_mod_cast nearest.mono (nearestEven_natCast (2 ^ bits)) (by exact_mod_cast high)

theorem RoundedAt.full (rounded : RoundedAt exponent q x) : 2 ^ 52 ≤ x.significand := by
  obtain ⟨low, -, -, rounds⟩ := rounded
  rcases rounds with ⟨-, nearest⟩ | ⟨-, significand, -⟩
  · exact pow_le_of_nearestEven 52 nearest low
  · exact significand.ge

/-- A number of at most 53 bits in front of the point, and not too small, has a double. -/
theorem exists_round? (negative : Bool) (denPos : 0 < den)
    (normal : (2 : ℚ) ^ (-1022 : ℤ) ≤ num / den) (small : (num / den : ℚ) < 2 ^ 53) :
    ∃ x exponent, round? negative num den = some x ∧ x.negative = negative ∧
      RoundedAt exponent (num / den) x := by
  obtain ⟨low, high, least⟩ := exponentFor_spec denPos normal
  have numPos : 0 < num := num_pos (lt_of_lt_of_le (by positivity) normal)
  have notGreat : exponentFor num den + 52 < 53 := by
    rw [← zpow_lt_zpow_iff_right₀ (a := (2 : ℚ)) (by norm_num)]
    exact_mod_cast low.trans_lt small
  obtain ⟨scaledPos, scaled⟩ := unscale_spec num denPos (exponentFor num den)
  have nearest : NearestEven (num / den / 2 ^ exponentFor num den) (roundDiv .even
      (unscale num den (exponentFor num den)).1 (unscale num den (exponentFor num den)).2 : ℕ) := by
    rw [← scaled]
    exact nearestEven_roundDiv scaledPos
  have full := pow_le_of_nearestEven 52 nearest low
  have notMore := le_pow_of_nearestEven 53 nearest high.le
  rw [round?, if_neg numPos.ne']
  dsimp only
  generalize roundDiv .even (unscale num den (exponentFor num den)).1
    (unscale num den (exponentFor num den)).2 = rounded at nearest full notMore ⊢
  rw [Nat.pow_eq, Nat.pow_eq]
  by_cases carry : rounded = 2 ^ 53
  · have canonical : Canonical (2 ^ 52) (exponentFor num den + 1) :=
      ⟨by decide, by omega, by omega, .inl le_rfl⟩
    refine ⟨⟨negative, 2 ^ 52, exponentFor num den + 1, canonical⟩, exponentFor num den, ?_, rfl,
      ⟨low, high, least, .inr ⟨rfl, rfl, carry ▸ nearest⟩⟩⟩
    simp only [if_pos carry]
    exact dif_pos canonical
  · have canonical : Canonical rounded (exponentFor num den) :=
      ⟨lt_of_le_of_ne notMore carry, least, by omega, .inl full⟩
    refine ⟨⟨negative, rounded, exponentFor num den, canonical⟩, exponentFor num den, ?_, rfl,
      ⟨low, high, least, .inl ⟨rfl, nearest⟩⟩⟩
    simp only [if_neg carry]
    exact dif_pos canonical

/-! ## Exact doubles -/

/-- A whole number that has 53 bits is not rounded. -/
theorem RoundedAt.magnitude_natCast {n : ℕ} (rounded : RoundedAt exponent n x) (small : n < 2 ^ 53) :
    x.magnitude = n := by
  obtain ⟨low, high, least, rounds⟩ := rounded
  have notUp : exponent ≤ 0 := by
    have bits : (2 : ℚ) ^ (exponent + 52) < 2 ^ (53 : ℤ) := low.trans_lt (by exact_mod_cast small)
    rw [zpow_lt_zpow_iff_right₀ (by norm_num)] at bits
    omega
  obtain ⟨places, rfl⟩ := Int.exists_eq_neg_ofNat notUp
  have whole : (n : ℚ) / 2 ^ (-(places : ℤ)) = (n * 2 ^ places : ℕ) := by
    push_cast
    rw [zpow_neg, div_inv_eq_mul, zpow_natCast]
  rw [whole] at rounds
  rcases rounds with ⟨at_, nearest⟩ | ⟨-, -, nearest⟩
  · have same : x.significand = n * 2 ^ places := by
      exact_mod_cast nearest.unique (nearestEven_natCast (n * 2 ^ places))
    rw [magnitude, at_, same, ← whole, div_mul_cancel₀ _ (by positivity)]
  · have carried : 2 ^ 53 = n * 2 ^ places := by
      exact_mod_cast nearest.unique (nearestEven_natCast (n * 2 ^ places))
    rw [zpow_add₀ (by norm_num), ← div_lt_iff₀' (by positivity), whole, ← carried] at high
    norm_num at high

theorem exists_ofNat? {n : ℕ} (pos : 0 < n) (small : n < 2 ^ 53) :
    ∃ x, ofNat? n = some x ∧ x.negative = false ∧ x.magnitude = n := by
  have whole : (n / (1 : ℕ) : ℚ) = n := by norm_num
  have least : (1 : ℚ) ≤ n := by exact_mod_cast pos
  have normal : (2 : ℚ) ^ (-1022 : ℤ) ≤ n / (1 : ℕ) := by
    rw [whole]
    exact (zpow_le_one_of_nonpos₀ one_le_two (by decide)).trans least
  have bounded : (n / (1 : ℕ) : ℚ) < 2 ^ 53 := by
    rw [whole]
    exact_mod_cast small
  obtain ⟨x, exponent, found, sign, rounded⟩ := exists_round? false one_pos normal bounded
  rw [whole] at rounded
  exact ⟨x, found, sign, rounded.magnitude_natCast small⟩

theorem powTen?_eq (k : ℕ) : powTen? k = ofNat? (10 ^ k) := rfl

theorem ratio_spec (x : Binary64) :
    0 < x.ratio.2 ∧ (x.ratio.1 / x.ratio.2 : ℚ) = x.magnitude := fraction_spec _ _

/-- A quotient of doubles is rounded once. -/
theorem exists_div? {y : Binary64} (signs : x.negative = y.negative) (positive : 0 < y.magnitude)
    (normal : (2 : ℚ) ^ (-1022 : ℤ) ≤ x.magnitude / y.magnitude)
    (small : x.magnitude / y.magnitude < 2 ^ 53) :
    ∃ z exponent, x.div? y = some z ∧ z.negative = false ∧
      RoundedAt exponent (x.magnitude / y.magnitude) z := by
  obtain ⟨xPos, xRatio⟩ := x.ratio_spec
  obtain ⟨yPos, yRatio⟩ := y.ratio_spec
  have yNum : 0 < y.ratio.1 := num_pos (yRatio ▸ positive)
  have quotient : ((x.ratio.1 * y.ratio.2 : ℕ) / (x.ratio.2 * y.ratio.1 : ℕ) : ℚ) =
      x.magnitude / y.magnitude := by
    rw [← xRatio, ← yRatio]
    push_cast
    rw [div_div_div_eq]
  rw [← quotient] at normal small ⊢
  rw [div?, signs, bne_self_eq_false]
  exact exists_round? false (Nat.mul_pos xPos yNum) normal small

end VenueGateway.Binary64
