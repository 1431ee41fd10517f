import VenueGateway.Decimal.Rounding

/-! # When two amounts have a product

A product may drop any of its fraction digits to become an amount, so only its size can be in the
way: there is none exactly when the product of the magnitudes rounds, half to even, to a whole number
of more than 96 bits.
-/

namespace VenueGateway.Decimal

/-- Whether the product is `2 ^ 96 - 1 / 2` or more, whatever its sign. Both factors count units of
the 28th place, so that the product counts units of the 56th. -/
def TooLarge (x y : Decimal) : Prop :=
  (2 * bound - 1) * Nat.pow 10 56 ≤ 2 * (x.units * y.units).natAbs

instance (x y : Decimal) : Decidable (TooLarge x y) :=
  inferInstanceAs (Decidable ((2 * bound - 1) * Nat.pow 10 56 ≤ 2 * (x.units * y.units).natAbs))

theorem natAbs_units (x : Decimal) :
    x.units.natAbs = x.mantissa * Nat.pow 10 (28 - x.scale) := by
  rw [units]
  split
  · rw [Int.natAbs_neg]
    rfl
  · rfl

/-- The size of a product does not depend on how many fraction digits its factors have. -/
theorem tooLarge_iff (x y : Decimal) :
    TooLarge x y ↔
      (2 * bound - 1) * Nat.pow 10 (x.scale + y.scale) ≤ 2 * (x.mantissa * y.mantissa) := by
  have places : Nat.pow 10 56 = Nat.pow 10 (x.scale + y.scale) *
      (Nat.pow 10 (28 - x.scale) * Nat.pow 10 (28 - y.scale)) := by
    simp only [Nat.pow_eq]
    rw [← Nat.pow_add, ← Nat.pow_add]
    have := x.scale_le
    have := y.scale_le
    congr 1
    omega
  have units_eq : 2 * (x.units * y.units).natAbs = 2 * (x.mantissa * y.mantissa) *
      (Nat.pow 10 (28 - x.scale) * Nat.pow 10 (28 - y.scale)) := by
    rw [Int.natAbs_mul, natAbs_units, natAbs_units]
    ac_rfl
  rw [TooLarge, units_eq, places, ← Nat.mul_assoc]
  exact Nat.mul_le_mul_right_iff (Nat.mul_pos (Nat.pow_pos (by decide)) (Nat.pow_pos (by decide)))

/-- A number is reached by a quotient, or by the half that is missing. -/
private theorem half_below_iff {num den k : Nat} (pos : 0 < den) :
    (2 * k - 1) * den ≤ 2 * num ↔
      k ≤ num / den ∨ (k = num / den + 1 ∧ den ≤ 2 * (num % den)) := by
  have split := Nat.div_add_mod num den
  have rest := Nat.mod_lt num pos
  have expand : (2 * k - 1) * den = 2 * (k * den) - den := by
    rw [Nat.sub_mul, Nat.mul_assoc, Nat.one_mul]
  rw [Nat.mul_comm] at split
  rcases Nat.lt_trichotomy k (num / den + 1) with below | same | above
  · have product : k * den ≤ num / den * den := Nat.mul_le_mul_right den (by omega)
    constructor
    · exact fun _ => .inl (by omega)
    · exact fun _ => by omega
  · have product : k * den = num / den * den + den := by rw [same, Nat.add_mul, Nat.one_mul]
    omega
  · have product : (num / den + 2) * den ≤ k * den := Nat.mul_le_mul_right den above
    rw [Nat.add_mul] at product
    omega

/-- Half to even, a quotient reaches an even number from half a unit below it. -/
theorem le_roundDiv_even_iff {num den k : Nat} (pos : 0 < den)
    (even : k % 2 = 0) : k ≤ roundDiv .even num den ↔ (2 * k - 1) * den ≤ 2 * num := by
  rw [half_below_iff pos, roundDiv]
  split
  · omega
  · split <;> omega

/-- There is no product exactly when it is too large to be rounded to an amount. -/
theorem mul?_eq_none_iff (x y : Decimal) : x.mul? y = none ↔ TooLarge x y := by
  rw [tooLarge_iff, mul?]
  split
  · rename_i zero
    have product : x.mantissa * y.mantissa = 0 := Nat.mul_eq_zero.mpr zero
    have positive : 0 < (2 * bound - 1) * Nat.pow 10 (x.scale + y.scale) :=
      Nat.mul_pos (by decide) (Nat.pow_pos (by decide))
    rw [product]
    exact ⟨nofun, fun large => absurd large (Nat.not_le.mpr positive)⟩
  · have rounded : ∀ dropped,
        bound ≤ roundDiv .even (x.mantissa * y.mantissa) (Nat.pow 10 dropped) ↔
          (2 * bound - 1) * Nat.pow 10 dropped ≤ 2 * (x.mantissa * y.mantissa) :=
      fun dropped => le_roundDiv_even_iff (Nat.pow_pos (by decide)) (by decide)
    rw [Option.map_eq_none_iff, List.findSome?_eq_none_iff, ← rounded]
    constructor
    · intro none
      have last := none (x.scale + y.scale) (by simp)
      rw [Nat.sub_self, ofParts?, dite_eq_right_iff] at last
      exact Nat.le_of_not_lt fun fits => nomatch last ⟨fits, by decide⟩
    · intro large dropped member
      have fewer : Nat.pow 10 dropped ≤ Nat.pow 10 (x.scale + y.scale) :=
        Nat.pow_le_pow_right (by decide) (by simpa [Nat.lt_succ_iff] using member)
      have stays : bound ≤ roundDiv .even (x.mantissa * y.mantissa) (Nat.pow 10 dropped) :=
        (rounded dropped).mpr (Nat.le_trans (Nat.mul_le_mul_left _ fewer) ((rounded _).mp large))
      rw [ofParts?, dif_neg fun fits => Nat.not_lt.mpr stays fits.1]

end VenueGateway.Decimal
