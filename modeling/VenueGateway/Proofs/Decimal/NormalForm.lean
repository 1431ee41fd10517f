import VenueGateway.Proofs.Decimal.Value

/-! # Normal forms of amounts

An amount is normal when its last fraction digit is not zero and a zero has no sign. Of all amounts of
one value exactly one is normal.
-/

namespace VenueGateway.Decimal

variable {x y : Decimal}

/-- An amount without trailing zeros behind its point, and without the sign of a zero. -/
structure IsNormal (x : Decimal) : Prop where
  stripped : x.scale = 0 ∨ x.mantissa % 10 ≠ 0
  zero_unsigned : x.mantissa = 0 → x.negative = false

theorem stripZeros_stripped (mantissa scale : ℕ) :
    (stripZeros mantissa scale).2 = 0 ∨ (stripZeros mantissa scale).1 % 10 ≠ 0 := by
  induction scale generalizing mantissa with
  | zero => exact .inl rfl
  | succ scale ih =>
    rw [stripZeros]
    split
    · exact ih _
    · exact .inr ‹_›

theorem stripZeros_ne_zero {mantissa : ℕ} (nonzero : mantissa ≠ 0) (scale : ℕ) :
    (stripZeros mantissa scale).1 ≠ 0 := by
  induction scale generalizing mantissa with
  | zero => exact nonzero
  | succ scale ih =>
    rw [stripZeros]
    split
    · apply ih
      omega
    · exact nonzero

theorem isNormal_normalize (x : Decimal) : x.normalize.IsNormal := by
  rw [normalize]
  split
  · exact ⟨.inl rfl, fun _ => rfl⟩
  · rename_i nonzero
    exact ⟨stripZeros_stripped _ _, fun zero => absurd zero (stripZeros_ne_zero nonzero _)⟩

/-- Normal amounts of one magnitude have the same mantissa and scale: with more digits behind the point
the last one would be a zero. -/
private theorem IsNormal.scale_le (normal : x.IsNormal)
    (magnitude : (x.mantissa / 10 ^ x.scale : ℚ) = y.mantissa / 10 ^ y.scale) :
    x.scale ≤ y.scale := by
  by_contra more
  have fewer : y.scale ≤ x.scale := (not_le.mp more).le
  have mantissas : x.mantissa = y.mantissa * 10 ^ (x.scale - y.scale) := by
    rw [div_pow_eq fewer, div_left_inj' (by positivity)] at magnitude
    exact_mod_cast magnitude
  have tens : x.mantissa % 10 = 0 := by
    rw [mantissas, show x.scale - y.scale = x.scale - y.scale - 1 + 1 by omega, pow_succ, ← mul_assoc,
      Nat.mul_mod_left]
  rcases normal.stripped with whole | stripped
  · omega
  · exact stripped tens

theorem eq_of_parts (sign : x.negative = y.negative) (mantissa : x.mantissa = y.mantissa)
    (scale : x.scale = y.scale) : x = y := by
  cases x
  cases y
  cases sign
  cases mantissa
  cases scale
  rfl

/-- A value has one normal form. -/
theorem IsNormal.eq_of_value_eq (normal : x.IsNormal) (alsoNormal : y.IsNormal)
    (same : x.value = y.value) : x = y := by
  have magnitude : (x.mantissa / 10 ^ x.scale : ℚ) = y.mantissa / 10 ^ y.scale := by
    rw [← abs_value, ← abs_value, same]
  have scale : x.scale = y.scale :=
    le_antisymm (normal.scale_le magnitude) (alsoNormal.scale_le magnitude.symm)
  have mantissa : x.mantissa = y.mantissa := by
    rw [scale, div_left_inj' (by positivity)] at magnitude
    exact_mod_cast magnitude
  have sign : x.negative = y.negative := by
    by_cases zero : x.mantissa = 0
    · rw [normal.zero_unsigned zero, alsoNormal.zero_unsigned (mantissa ▸ zero)]
    · have positive : (0 : ℚ) < x.mantissa / 10 ^ x.scale := by
        have numerator : 0 < x.mantissa := Nat.pos_of_ne_zero zero
        positivity
      cases first : x.negative with
      | false =>
        rw [value_of_unsigned first] at same
        rw [unsigned_of_value_pos (same ▸ positive)]
      | true =>
        cases second : y.negative with
        | false =>
          rw [value_of_signed first, value_of_unsigned second, ← magnitude] at same
          linarith
        | true => rfl
  exact eq_of_parts sign mantissa scale

end VenueGateway.Decimal
