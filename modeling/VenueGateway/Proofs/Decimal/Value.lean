import VenueGateway.Proofs.Decimal.Product
import Mathlib.Algebra.Order.Round
import Mathlib.Data.Rat.Floor
import Mathlib.Tactic.FieldSimp
import Mathlib.Tactic.Linarith
import Mathlib.Tactic.NormNum
import Mathlib.Tactic.Positivity

/-! # Amounts as numbers

`value` is the rational number that an amount stands for, whatever its scale. Rounding a quotient is
rounding of rationals: `round` of Mathlib lifts a half, and `NearestEven` sends it to the even side. A
product is exact as soon as any amount is.
-/

namespace VenueGateway.Decimal

/-- So many units of a place, and nothing where they are no amount. -/
def ofPlaces (mantissa scale : ℕ) : Decimal := (ofParts? false mantissa scale).getD zero

/-- The number that an amount stands for. -/
def value (x : Decimal) : ℚ :=
  let magnitude : ℚ := x.mantissa / 10 ^ x.scale
  if x.negative then -magnitude else magnitude

theorem value_of_unsigned {x : Decimal} (unsigned : x.negative = false) :
    x.value = x.mantissa / 10 ^ x.scale := by
  simp [value, unsigned]

theorem value_of_signed {x : Decimal} (signed : x.negative = true) :
    x.value = -(x.mantissa / 10 ^ x.scale) := by
  simp [value, signed]

theorem value_ofPlaces {mantissa scale : ℕ} (fits : mantissa < bound ∧ scale ≤ 28) :
    (ofPlaces mantissa scale).value = mantissa / 10 ^ scale := by
  rw [ofPlaces, ofParts?, dif_pos fits]
  exact value_of_unsigned rfl

/-- A fraction with more digits, all of them zeros. -/
theorem div_pow_eq {m : ℕ} {scale places : ℕ} (fewer : scale ≤ places) :
    (m / 10 ^ scale : ℚ) = (m * 10 ^ (places - scale) : ℕ) / 10 ^ places := by
  have split : (10 : ℚ) ^ places = 10 ^ (places - scale) * 10 ^ scale := by
    rw [← pow_add, Nat.sub_add_cancel fewer]
  rw [split]
  push_cast
  field_simp

theorem value_eq_units (x : Decimal) : x.value = x.units / 10 ^ 28 := by
  have magnitude := div_pow_eq (m := x.mantissa) x.scale_le
  cases sign : x.negative with
  | false =>
    rw [value_of_unsigned sign, units, sign, magnitude]
    rfl
  | true =>
    rw [value_of_signed sign, units, sign, magnitude]
    simp [neg_div]

theorem value_pos_iff {x : Decimal} : 0 < x.value ↔ 0 < x.units := by
  rw [value_eq_units]
  constructor
  · intro positive
    have numerator : (0 : ℚ) < x.units := by
      by_contra notPositive
      have quotient : (x.units / 10 ^ 28 : ℚ) ≤ 0 := by
        apply div_nonpos_of_nonpos_of_nonneg (not_lt.mp notPositive)
        positivity
      exact absurd positive quotient.not_gt
    exact_mod_cast numerator
  · intro positive
    have numerator : (0 : ℚ) < x.units := by exact_mod_cast positive
    positivity

theorem unsigned_of_value_pos {x : Decimal} (positive : 0 < x.value) : x.negative = false := by
  by_contra signed
  rw [value_of_signed (Bool.eq_true_of_not_eq_false signed)] at positive
  have magnitude : (0 : ℚ) ≤ x.mantissa / 10 ^ x.scale := by positivity
  linarith

/-! ## Rounding -/

/-- A whole number that is nearest to `q`, and the even one of two. -/
structure NearestEven (q : ℚ) (n : ℤ) : Prop where
  near : |q - n| ≤ 1 / 2
  even : |q - n| = 1 / 2 → Even n

/-- What rounds to something is more than a half. -/
theorem NearestEven.pos_iff {q : ℚ} {n : ℤ} (nearest : NearestEven q n) : 0 < n ↔ 1 / 2 < q := by
  obtain ⟨below, above⟩ := abs_le.mp nearest.near
  constructor
  · intro positive
    have least : (1 : ℚ) ≤ n := by exact_mod_cast positive
    rcases lt_or_eq_of_le (show 1 / 2 ≤ q by linarith) with more | rfl
    · exact more
    · have one : (n : ℚ) = 1 := by linarith
      have odd : Even n := nearest.even (by rw [one]; norm_num)
      obtain rfl : n = 1 := by exact_mod_cast one
      exact absurd odd (by decide)
  · intro more
    have positive : (0 : ℚ) < n := by linarith
    exact_mod_cast positive

/-- A number is not rounded below where a smaller one is rounded to. -/
theorem NearestEven.mono {q r : ℚ} {m n : ℤ} (first : NearestEven q m) (second : NearestEven r n)
    (less : q ≤ r) : m ≤ n := by
  by_contra more
  have step : (n + 1 : ℚ) ≤ m := by exact_mod_cast Int.add_one_le_iff.mpr (not_le.mp more)
  obtain ⟨firstBelow, firstAbove⟩ := abs_le.mp first.near
  obtain ⟨secondBelow, secondAbove⟩ := abs_le.mp second.near
  have upper : (m : ℚ) = n + 1 := by linarith
  have firstTie : |q - m| = 1 / 2 := by rw [abs_of_nonpos] <;> linarith
  have secondTie : |r - n| = 1 / 2 := by rw [abs_of_nonneg] <;> linarith
  have even : Even m := first.even firstTie
  have alsoEven : Even n := second.even secondTie
  have next : m = n + 1 := by exact_mod_cast upper
  rw [next, Int.even_add_one] at even
  exact even alsoEven

theorem NearestEven.unique {q : ℚ} {m n : ℤ} (first : NearestEven q m) (second : NearestEven q n) :
    m = n :=
  le_antisymm (first.mono second le_rfl) (second.mono first le_rfl)

/-- Less than a half is left out. -/
theorem nearestEven_below {n : ℤ} {part : ℚ} (whole : 0 ≤ part) (below : part < 1 / 2) :
    NearestEven (n + part) n := by
  have distance : |n + part - n| < 1 / 2 := by rwa [add_sub_cancel_left, abs_of_nonneg whole]
  exact ⟨distance.le, fun tie => absurd tie distance.ne⟩

/-- More than a half makes up a whole. -/
theorem nearestEven_above {n : ℤ} {part : ℚ} (above : 1 / 2 < part) (small : part < 1) :
    NearestEven (n + part) (n + 1 : ℤ) := by
  have distance : |n + part - (n + 1 : ℤ)| < 1 / 2 := by
    push_cast
    rw [abs_lt]
    constructor <;> linarith
  exact ⟨distance.le, fun tie => absurd tie distance.ne⟩

/-- A half is left out of an even number and makes an odd one even. -/
theorem nearestEven_half (n : ℕ) : NearestEven ((n : ℤ) + 1 / 2) (n + n % 2 : ℕ) := by
  refine ⟨?near, fun _ => ?even⟩
  case near =>
    rcases Nat.mod_two_eq_zero_or_one n with even | odd
    · rw [even]
      norm_num
    · rw [odd]
      push_cast
      rw [abs_le]
      constructor <;> linarith
  case even =>
    rw [Int.even_coe_nat, Nat.even_iff]
    omega

/-! ### Quotients -/

section Quotient

variable {num den : ℕ}

theorem roundDiv_of_lt_half (tie : Tie) (below : 2 * (num % den) < den) :
    roundDiv tie num den = num / den := by
  unfold roundDiv
  dsimp only
  rw [if_neg (Nat.not_lt.mpr below.le), if_neg below.ne]

theorem roundDiv_of_half_lt (tie : Tie) (above : den < 2 * (num % den)) :
    roundDiv tie num den = num / den + 1 := by
  unfold roundDiv
  dsimp only
  rw [if_pos above]

theorem roundDiv_even_of_half (half : 2 * (num % den) = den) :
    roundDiv .even num den = num / den + num / den % 2 := by
  unfold roundDiv
  dsimp only
  rw [if_neg half.not_gt, if_pos half]

theorem roundDiv_away_of_half (half : 2 * (num % den) = den) :
    roundDiv .away num den = num / den + 1 := by
  unfold roundDiv
  dsimp only
  rw [if_neg half.not_gt, if_pos half]

variable (pos : 0 < den)
include pos

/-- A quotient is a whole number and a part that is left over. -/
theorem div_eq_add_rest : (num / den : ℚ) = (num / den : ℕ) + (num % den : ℕ) / den := by
  have denominator : (den : ℚ) ≠ 0 := by exact_mod_cast pos.ne'
  have split : (num : ℚ) = den * (num / den : ℕ) + (num % den : ℕ) := by
    exact_mod_cast (Nat.div_add_mod num den).symm
  conv_lhs => rw [split]
  field_simp

theorem rest_lt_half_iff : ((num % den : ℕ) / den : ℚ) < 1 / 2 ↔ 2 * (num % den) < den := by
  have denominator : (0 : ℚ) < den := by exact_mod_cast pos
  rw [div_lt_div_iff₀ denominator (by norm_num)]
  norm_cast
  omega

theorem rest_lt_one : ((num % den : ℕ) / den : ℚ) < 1 := by
  have denominator : (0 : ℚ) < den := by exact_mod_cast pos
  rw [div_lt_one denominator]
  exact_mod_cast Nat.mod_lt num pos

theorem half_lt_rest_iff : (1 / 2 : ℚ) < (num % den : ℕ) / den ↔ den < 2 * (num % den) := by
  have denominator : (0 : ℚ) < den := by exact_mod_cast pos
  rw [div_lt_div_iff₀ (by norm_num) denominator]
  norm_cast
  omega

theorem half_eq_rest_iff : ((num % den : ℕ) / den : ℚ) = 1 / 2 ↔ 2 * (num % den) = den := by
  have below : ((num % den : ℕ) / den : ℚ) < 1 / 2 ↔ _ := rest_lt_half_iff pos
  have above : (1 / 2 : ℚ) < (num % den : ℕ) / den ↔ _ := half_lt_rest_iff pos
  rw [eq_iff_le_not_lt, ← not_lt, below, above]
  omega

theorem nearestEven_roundDiv : NearestEven (num / den) (roundDiv .even num den : ℕ) := by
  rw [div_eq_add_rest pos, ← Int.cast_natCast (num / den)]
  have small : ((num % den : ℕ) / den : ℚ) < 1 := rest_lt_one pos
  have whole : (0 : ℚ) ≤ (num % den : ℕ) / den := by positivity
  rcases Nat.lt_trichotomy (2 * (num % den)) den with below | half | above
  · rw [roundDiv_of_lt_half .even below]
    exact nearestEven_below whole ((rest_lt_half_iff pos).mpr below)
  · rw [roundDiv_even_of_half half, (half_eq_rest_iff pos).mpr half]
    exact_mod_cast nearestEven_half (num / den : ℕ)
  · rw [roundDiv_of_half_lt .even above]
    exact_mod_cast nearestEven_above ((half_lt_rest_iff pos).mpr above) small

/-- To send a half away from zero, add a half and drop the rest. -/
theorem roundDiv_away_eq : roundDiv .away num den = (2 * num + den) / (2 * den) := by
  have split := Nat.div_add_mod num den
  have rest := Nat.mod_lt num pos
  have quotient : ∀ k, 2 * (den * k) ≤ 2 * num + den → 2 * num + den < 2 * (den * k) + 2 * den →
      (2 * num + den) / (2 * den) = k := by
    intro k low high
    have regroup : ∀ j, j * (2 * den) = 2 * (den * j) := fun j => by ring
    apply Nat.div_eq_of_lt_le
    · rwa [regroup]
    · rw [regroup, Nat.mul_add]
      omega
  have next : den * (num / den + 1) = den * (num / den) + den := by rw [Nat.mul_add, Nat.mul_one]
  rcases Nat.lt_trichotomy (2 * (num % den)) den with below | half | above
  · rw [roundDiv_of_lt_half .away below, quotient (num / den) (by omega) (by omega)]
  · rw [roundDiv_away_of_half half, quotient (num / den + 1) (by omega) (by omega)]
  · rw [roundDiv_of_half_lt .away above, quotient (num / den + 1) (by omega) (by omega)]

/-- That is how Mathlib rounds, for numbers that are not negative. -/
theorem roundDiv_away : (roundDiv .away num den : ℕ) = round (num / den : ℚ) := by
  have denominator : (den : ℚ) ≠ 0 := by exact_mod_cast pos.ne'
  have half : (num / den + 1 / 2 : ℚ) = (2 * num + den : ℕ) / (2 * den : ℕ) := by
    push_cast
    field_simp
  rw [roundDiv_away_eq pos, round_eq, half, Rat.floor_natCast_div_natCast]
  norm_cast

/-- Whichever way a tie goes, half a unit is not exceeded. -/
theorem abs_roundDiv_sub_le (tie : Tie) : |((roundDiv tie num den : ℕ) - num / den : ℚ)| ≤ 1 / 2 := by
  rw [abs_sub_comm]
  cases tie with
  | even => exact_mod_cast (nearestEven_roundDiv pos).near
  | away =>
    have away : ((roundDiv .away num den : ℕ) : ℚ) = (round (num / den : ℚ) : ℤ) := by
      exact_mod_cast congrArg (Int.cast (R := ℚ)) (roundDiv_away pos)
    rw [away]
    exact abs_sub_round _

/-- A larger quotient is not rounded below a smaller one. -/
theorem roundDiv_mono (tie : Tie) {other : ℕ} (le : num ≤ other) :
    roundDiv tie num den ≤ roundDiv tie other den := by
  cases tie with
  | even =>
    have quotients : (num / den : ℚ) ≤ other / den := by gcongr
    exact_mod_cast (nearestEven_roundDiv pos).mono (nearestEven_roundDiv pos) quotients
  | away =>
    rw [roundDiv_away_eq pos, roundDiv_away_eq pos]
    exact Nat.div_le_div_right (by omega)

end Quotient

/-! ### Amounts -/

/-- An amount that is not negative is rounded to some places, half to even. -/
theorem nearestEven_roundTo {x : Decimal} (unsigned : x.negative = false) (places : ℕ) :
    ∃ n : ℕ, (x.roundTo .even places).value = n / 10 ^ places ∧
      NearestEven (x.value * 10 ^ places) n := by
  rw [value_of_unsigned unsigned, roundTo]
  split
  · rename_i more
    have quotient : (x.mantissa / 10 ^ x.scale * 10 ^ places : ℚ) =
        x.mantissa / (10 ^ (x.scale - places) : ℕ) := by
      have split : (10 : ℚ) ^ x.scale = 10 ^ (x.scale - places) * 10 ^ places := by
        rw [← pow_add, Nat.sub_add_cancel more.le]
      rw [split]
      push_cast
      field_simp
    refine ⟨roundDiv .even x.mantissa (10 ^ (x.scale - places)), ?_, ?_⟩
    · exact value_of_unsigned unsigned
    · rw [quotient]
      exact nearestEven_roundDiv (Nat.pow_pos (by decide))
  · rename_i notMore
    have fits : x.scale ≤ places := Nat.not_lt.mp notMore
    have whole : (x.mantissa / 10 ^ x.scale * 10 ^ places : ℚ) =
        ((x.mantissa * 10 ^ (places - x.scale) : ℕ) : ℤ) + 0 := by
      rw [div_pow_eq fits]
      push_cast
      field_simp
      ring
    refine ⟨x.mantissa * 10 ^ (places - x.scale), ?_, ?_⟩
    · rw [value_of_unsigned unsigned, div_pow_eq fits]
    · rw [whole]
      exact nearestEven_below le_rfl (by norm_num)

theorem stripZeros_value (mantissa scale : ℕ) :
    ((stripZeros mantissa scale).1 / 10 ^ (stripZeros mantissa scale).2 : ℚ) =
      mantissa / 10 ^ scale := by
  induction scale generalizing mantissa with
  | zero => rw [stripZeros]
  | succ scale ih =>
    rw [stripZeros]
    split
    · rename_i zero
      have tens : (mantissa : ℚ) = (mantissa / 10 : ℕ) * 10 := by
        exact_mod_cast (Nat.div_mul_cancel (Nat.dvd_of_mod_eq_zero zero)).symm
      rw [ih, tens, pow_succ]
      field_simp
    · rfl

/-- Trailing zeros do not count. -/
theorem value_normalize (x : Decimal) : x.normalize.value = x.value := by
  rw [normalize]
  split
  · rename_i zero
    simp [value, zero, Decimal.zero]
  · cases sign : x.negative with
    | false =>
      rw [value_of_unsigned rfl, value_of_unsigned sign]
      exact stripZeros_value x.mantissa x.scale
    | true =>
      rw [value_of_signed rfl, value_of_signed sign]
      exact congrArg Neg.neg (stripZeros_value x.mantissa x.scale)

theorem normalize_unsigned {x : Decimal} (unsigned : x.negative = false) :
    x.normalize.negative = false := by
  rw [normalize]
  split
  · rfl
  · exact unsigned

/-! ## Products -/

/-- The magnitude of a value. -/
theorem abs_value (x : Decimal) : |x.value| = x.mantissa / 10 ^ x.scale := by
  have magnitude : (0 : ℚ) ≤ x.mantissa / 10 ^ x.scale := by positivity
  cases sign : x.negative with
  | false => rw [value_of_unsigned sign, abs_of_nonneg magnitude]
  | true => rw [value_of_signed sign, abs_neg, abs_of_nonneg magnitude]

/-- The value of a product with fewer digits, none of which counted. -/
theorem value_of_parts {x y product : Decimal} {dropped : ℕ}
    (sign : product.negative = (x.negative != y.negative))
    (mantissa : product.mantissa * 10 ^ dropped = x.mantissa * y.mantissa)
    (scale : product.scale + dropped = x.scale + y.scale) : product.value = x.value * y.value := by
  have magnitude : (product.mantissa / 10 ^ product.scale : ℚ) =
      x.mantissa / 10 ^ x.scale * (y.mantissa / 10 ^ y.scale) := by
    have mantissas : (product.mantissa * 10 ^ dropped : ℚ) = x.mantissa * y.mantissa := by
      exact_mod_cast mantissa
    have scales : (10 : ℚ) ^ product.scale * 10 ^ dropped = 10 ^ x.scale * 10 ^ y.scale := by
      rw [← pow_add, scale, pow_add]
    rw [div_mul_div_comm, ← mantissas, ← scales]
    field_simp
  cases first : x.negative <;> cases second : y.negative <;>
    simp [value, sign, first, second, magnitude]

theorem ofParts?_eq_some_iff {negative : Bool} {mantissa scale : ℕ} {x : Decimal} :
    ofParts? negative mantissa scale = some x ↔
      x.negative = negative ∧ x.mantissa = mantissa ∧ x.scale = scale := by
  rw [ofParts?, Option.dite_none_right_eq_some]
  constructor
  · rintro ⟨limits, ⟨⟩⟩
    exact ⟨rfl, rfl, rfl⟩
  · rintro ⟨rfl, rfl, rfl⟩
    exact ⟨⟨x.mantissa_lt, x.scale_le⟩, rfl⟩

/-- What is found in front of all other numbers is found at the least one. -/
theorem least_of_findSome?_range {α : Type} {f : ℕ → Option α} {count : ℕ} {found : α}
    (search : (List.range count).findSome? f = some found) :
    ∃ least, f least = some found ∧ ∀ lower < least, f lower = none := by
  obtain ⟨front, least, back, all, here, before⟩ := List.findSome?_eq_some_iff.mp search
  refine ⟨least, here, fun lower less => before lower ?_⟩
  have increasing : (front ++ least :: back).Pairwise (· < ·) := all ▸ List.pairwise_lt_range
  obtain ⟨-, behind, -⟩ := List.pairwise_append.mp increasing
  have inside : least < count := List.mem_range.mp (all ▸ List.mem_append_right _ List.mem_cons_self)
  have member : lower ∈ front ++ least :: back := all ▸ List.mem_range.mpr (less.trans inside)
  rcases List.mem_append.mp member with member | member
  · exact member
  · rcases List.mem_cons.mp member with rfl | member
    · exact absurd less (lt_irrefl _)
    · exact absurd less (List.rel_of_pairwise_cons behind member).not_gt

/-- A quotient without a rest is not rounded. -/
theorem roundDiv_of_dvd (tie : Tie) {num den : ℕ} (pos : 0 < den) (divides : den ∣ num) :
    roundDiv tie num den = num / den := by
  apply roundDiv_of_lt_half
  rw [Nat.mod_eq_zero_of_dvd divides]
  exact pos

/-- Digits that an exact product does without can be dropped from the product of the mantissas. -/
private theorem exists_spare {x y z : Decimal} (exact : z.value = x.value * y.value) :
    ∃ spare ≤ x.scale + y.scale, 10 ^ spare ∣ x.mantissa * y.mantissa ∧
      x.mantissa * y.mantissa / 10 ^ spare < bound ∧ x.scale + y.scale - spare ≤ 28 := by
  have scale_le := z.scale_le
  have magnitudes : z.mantissa * 10 ^ (x.scale + y.scale) =
      x.mantissa * y.mantissa * 10 ^ z.scale := by
    have same := congrArg (fun q : ℚ => |q|) exact
    simp only [abs_mul, abs_value] at same
    rw [div_mul_div_comm, div_eq_div_iff (by positivity) (by positivity), ← pow_add] at same
    exact_mod_cast same
  refine ⟨x.scale + y.scale - z.scale, Nat.sub_le _ _, ?_⟩
  rcases Nat.le_total z.scale (x.scale + y.scale) with fewer | more
  · have product : x.mantissa * y.mantissa =
        z.mantissa * 10 ^ (x.scale + y.scale - z.scale) := by
      apply Nat.eq_of_mul_eq_mul_right (Nat.pow_pos (n := z.scale) (show 0 < 10 by decide))
      rw [← magnitudes, mul_assoc, ← pow_add, Nat.sub_add_cancel fewer]
    rw [product, Nat.mul_div_cancel _ (Nat.pow_pos (by decide))]
    exact ⟨Nat.dvd_mul_left _ _, z.mantissa_lt, by omega⟩
  · have product : x.mantissa * y.mantissa * 10 ^ (z.scale - (x.scale + y.scale)) = z.mantissa := by
      apply Nat.eq_of_mul_eq_mul_right (Nat.pow_pos (n := x.scale + y.scale) (show 0 < 10 by decide))
      rw [magnitudes, mul_assoc, ← pow_add, Nat.sub_add_cancel more]
    have less : x.mantissa * y.mantissa ≤ z.mantissa := by
      rw [← product]
      exact Nat.le_mul_of_pos_right _ (Nat.pow_pos (by decide))
    rw [Nat.sub_eq_zero_of_le more, pow_zero, Nat.div_one]
    exact ⟨Nat.one_dvd _, less.trans_lt z.mantissa_lt, by omega⟩

/-- A product is exact if some amount is the exact product: the digits that are dropped to make it
fit are no more than those that the other amount does without. -/
theorem value_of_mul? {x y product z : Decimal} (made : x.mul? y = some product)
    (exact : z.value = x.value * y.value) : product.value = x.value * y.value := by
  rw [mul?] at made
  split at made
  · rename_i zero
    cases made
    rcases zero with zero | zero <;> simp [value, zero, Decimal.zero]
  · rename_i nonzero
    have positive : x.mantissa * y.mantissa ≠ 0 := fun zero => nonzero (Nat.mul_eq_zero.mp zero)
    obtain ⟨found, search, rfl⟩ := Option.map_eq_some_iff.mp made
    obtain ⟨dropped, parts, before⟩ := least_of_findSome?_range search
    obtain ⟨sign, mantissa, scale⟩ := ofParts?_eq_some_iff.mp parts
    obtain ⟨spare, spare_le, divides, fits, scale_le⟩ := exists_spare exact
    have dropped_le : dropped ≤ spare := by
      by_contra more
      have none := before spare (Nat.not_le.mp more)
      rw [Nat.pow_eq, roundDiv_of_dvd .even (Nat.pow_pos (by decide)) divides, ofParts?,
        dif_pos ⟨fits, scale_le⟩] at none
      cases none
    have divides : 10 ^ dropped ∣ x.mantissa * y.mantissa := (Nat.pow_dvd_pow 10 dropped_le).trans divides
    rw [Nat.pow_eq, roundDiv_of_dvd .even (Nat.pow_pos (by decide)) divides] at mantissa
    have kept : found.mantissa * 10 ^ dropped = x.mantissa * y.mantissa := by
      rw [mantissa, Nat.div_mul_cancel divides]
    have settled : settleZero x y found = found := by
      apply if_neg
      rintro ⟨zero, -⟩
      rw [zero, Nat.zero_mul] at kept
      exact positive kept.symm
    rw [settled]
    exact value_of_parts sign kept (by omega)

/-- The product of two amounts: their multiplication has it, and it is exact if some amount is. -/
structure IsProduct (x y product : Decimal) : Prop where
  made : x.mul? y = some product
  exact : ∀ z : Decimal, z.value = x.value * y.value → product.value = x.value * y.value

theorem isProduct_iff {x y product : Decimal} : IsProduct x y product ↔ x.mul? y = some product :=
  ⟨IsProduct.made, fun made => ⟨made, fun _ => value_of_mul? made⟩⟩

end VenueGateway.Decimal
