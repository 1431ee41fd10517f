import VenueGateway.Binary64.Shortest
import VenueGateway.Proofs.Binary64.Rounding

/-! # Shortest decimals of doubles

The numbers that round to a double form an interval around it, no wider than its last place. Its
shortest decimal is searched on grids of powers of ten, from the leading digit on, and the first grid
that has a point in the interval decides. On a grid wider than the last place there is at most one such
point, and the points of wider grids are points of it too, so the search ends at this number.
-/

namespace VenueGateway.Binary64

open Decimal (Tie)

variable {num den multiple : ℕ} {unit : ℤ} {i : Interval} {x : Binary64} {q : ℚ}

/-! ## Leading digits -/

/-- The whole part of a quotient has one digit more than the power of ten that it reaches. -/
theorem exists_places (pos : 0 < den) (le : den ≤ num) :
    ∃ places, (Nat.toDigits 10 (num / den)).length = places + 1 ∧ (10 : ℚ) ^ places ≤ num / den ∧
      (num / den : ℚ) < 10 ^ (places + 1) := by
  obtain ⟨places, length⟩ := Nat.exists_eq_add_of_lt (Nat.length_toDigits_pos (b := 10) (n := num / den))
  rw [Nat.zero_add] at length
  have high : num / den < 10 ^ (places + 1) :=
    (Nat.length_toDigits_le_iff (by decide) (Nat.succ_pos _)).mp length.le
  have low : ¬ num / den < 10 ^ places := by
    intro less
    rcases Nat.eq_zero_or_pos places with rfl | more
    · exact absurd (Nat.div_pos le pos) (Nat.not_lt.mpr (Nat.le_of_lt_succ less))
    · have shorter := (Nat.length_toDigits_le_iff (by decide) more).mpr less
      omega
  rw [div_lt_natCast_iff pos] at low high
  push_cast at low high
  exact ⟨places, length, not_lt.mp low, high⟩

theorem leadingExponent_spec (numPos : 0 < num) (denPos : 0 < den) :
    (10 : ℚ) ^ leadingExponent num den ≤ num / den ∧
      (num / den : ℚ) < 10 ^ (leadingExponent num den + 1) := by
  have numerator : (0 : ℚ) < num := by exact_mod_cast numPos
  have denominator : (0 : ℚ) < den := by exact_mod_cast denPos
  rw [leadingExponent]
  split
  · rename_i le
    obtain ⟨places, length, low, high⟩ := exists_places denPos le
    rw [length, Nat.cast_succ, add_sub_cancel_right]
    exact_mod_cast And.intro low high
  · rename_i less
    obtain ⟨places, length, low, high⟩ := exists_places numPos (Nat.le_of_lt (Nat.not_le.mp less))
    rw [le_div_iff₀ numerator] at low
    rw [div_lt_iff₀ numerator] at high
    rw [length, Nat.add_sub_cancel]
    dsimp only
    rw [Nat.pow_eq]
    split
    · rename_i reached
      have reached : (den : ℚ) ≤ num * 10 ^ places := by exact_mod_cast reached
      constructor
      · rw [zpow_neg, zpow_natCast, le_div_iff₀ denominator, inv_mul_le_iff₀ (by positivity), mul_comm]
        exact reached
      · rw [div_lt_iff₀ denominator, zpow_add₀ (by norm_num), zpow_neg, zpow_natCast]
        field_simp
        linarith
    · rename_i missed
      have missed : (num * 10 ^ places : ℚ) < den := by exact_mod_cast Nat.not_le.mp missed
      constructor
      · rw [le_div_iff₀ denominator, zpow_neg, inv_mul_le_iff₀ (by positivity)]
        exact_mod_cast high.le
      · rw [neg_add_rev, neg_add_cancel_comm, zpow_neg, zpow_natCast, div_lt_iff₀ denominator]
        field_simp
        exact missed

/-! ## Intervals -/

/-- Whether a number lies in an interval; the ends count where the interval is closed. -/
def Interval.Contains (i : Interval) (q : ℚ) : Prop :=
  if i.closed then (i.low / i.den : ℚ) ≤ q ∧ q ≤ i.high / i.den
  else (i.low / i.den : ℚ) < q ∧ q < i.high / i.den

/-- Between two numbers of an interval there are only numbers of it. -/
theorem Interval.Contains.between {p r : ℚ} (first : i.Contains p) (last : i.Contains r) (le : p ≤ q)
    (le' : q ≤ r) : i.Contains q := by
  unfold Contains at first last ⊢
  split
  · rename_i closed
    rw [if_pos closed] at first last
    exact ⟨first.1.trans le, le'.trans last.2⟩
  · rename_i ends
    rw [if_neg ends] at first last
    exact ⟨first.1.trans_le le, le'.trans_lt last.2⟩

theorem onGrid_spec (multiple : ℕ) (unit : ℤ) (denPos : 0 < den) :
    ∃ scale : ℚ, 0 < scale ∧ ∀ num,
      ((onGrid multiple unit num den).1 : ℚ) = multiple * 10 ^ unit * scale ∧
      ((onGrid multiple unit num den).2 : ℚ) = num / den * scale := by
  have denominator : (0 : ℚ) < den := by exact_mod_cast denPos
  simp only [onGrid]
  split
  · rename_i up
    obtain ⟨places, rfl⟩ := Int.eq_ofNat_of_zero_le up
    refine ⟨den, denominator, fun num => ⟨by simp, ?_⟩⟩
    rw [div_mul_cancel₀ _ denominator.ne']
  · rename_i down
    obtain ⟨places, rfl⟩ := Int.exists_eq_neg_ofNat (Int.le_of_lt (Int.not_le.mp down))
    refine ⟨den * 10 ^ places, by positivity, fun num => ⟨?_, ?_⟩⟩
    · simp
      field_simp
    · simp
      field_simp

theorem Interval.holds_iff (denPos : 0 < i.den) :
    i.holds multiple unit = true ↔ i.Contains (multiple * 10 ^ unit) := by
  obtain ⟨scale, positive, placed⟩ := onGrid_spec multiple unit denPos
  have order : ∀ {a b : ℕ} {p r : ℚ}, (a : ℚ) = p * scale → (b : ℚ) = r * scale →
      ((a ≤ b ↔ p ≤ r) ∧ (a < b ↔ p < r)) := by
    intro a b p r first second
    rw [← mul_le_mul_iff_left₀ positive, ← mul_lt_mul_iff_left₀ positive, ← first, ← second]
    exact ⟨Nat.cast_le.symm, Nat.cast_lt.symm⟩
  have low := order (placed i.low).2 (placed i.low).1
  have high := order (placed i.low).1 (placed i.high).2
  rw [holds, Contains]
  dsimp only
  split
  · rw [Bool.and_eq_true, decide_eq_true_eq, decide_eq_true_eq, low.1, high.1]
  · rw [Bool.and_eq_true, decide_eq_true_eq, decide_eq_true_eq, low.2, high.2]

theorem floor_bounds (pos : 0 < den) :
    ((num / den : ℕ) : ℚ) ≤ num / den ∧ (num / den : ℚ) < (num / den + 1 : ℕ) :=
  ⟨not_lt.mp ((div_lt_natCast_iff pos).not.mp (lt_irrefl _)),
    (div_lt_natCast_iff pos).mp (Nat.lt_succ_self _)⟩

theorem Interval.floorOn_spec (denPos : 0 < i.den) (unit : ℤ) :
    (i.floorOn unit * 10 ^ unit : ℚ) ≤ i.value / i.den ∧
      (i.value / i.den : ℚ) < (i.floorOn unit + 1 : ℕ) * 10 ^ unit := by
  have positive : (0 : ℚ) < 10 ^ unit := by positivity
  have quotient : ∃ num den : ℕ, 0 < den ∧ i.floorOn unit = num / den ∧
      (i.value / i.den : ℚ) / 10 ^ unit = num / den := by
    rw [floorOn]
    split
    · rename_i up
      obtain ⟨places, rfl⟩ := Int.eq_ofNat_of_zero_le up
      exact ⟨_, _, Nat.mul_pos denPos (Nat.pow_pos (by decide)), rfl, by simp [div_div]⟩
    · rename_i down
      obtain ⟨places, rfl⟩ := Int.exists_eq_neg_ofNat (Int.le_of_lt (Int.not_le.mp down))
      exact ⟨_, _, denPos, rfl, by simp [div_eq_mul_inv, mul_right_comm]⟩
  obtain ⟨num, den, pos, floor, same⟩ := quotient
  rw [floor, ← le_div_iff₀ positive, ← div_lt_iff₀ positive, same]
  exact floor_bounds pos

/-- Of two neighbours that round to the double one is taken, whatever the tie. -/
theorem Interval.onUnit?_eq (tie : Tie) (i : Interval) (unit : ℤ) :
    ∃ nearer, (nearer = i.floorOn unit ∨ nearer = i.floorOn unit + 1) ∧
      i.onUnit? tie unit =
        if i.holds (i.floorOn unit) unit then
          if i.holds (i.floorOn unit + 1) unit then some nearer else some (i.floorOn unit)
        else if i.holds (i.floorOn unit + 1) unit then some (i.floorOn unit + 1) else none := by
  rw [onUnit?.eq_def]
  cases lower : i.holds (i.floorOn unit) unit <;> cases upper : i.holds (i.floorOn unit + 1) unit
  all_goals simp only [lower, upper, Bool.false_eq_true, if_true, if_false]
  case true.true =>
    split
    · exact ⟨_, .inl rfl, rfl⟩
    · split
      · exact ⟨_, .inr rfl, rfl⟩
      · cases tie with
        | even => exact ⟨_, by omega, rfl⟩
        | away => exact ⟨_, .inr rfl, rfl⟩
  all_goals exact ⟨_, .inl rfl, trivial⟩

/-- A neighbour that is taken rounds to the double. -/
theorem Interval.contains_of_onUnit? {tie : Tie} (denPos : 0 < i.den)
    (taken : i.onUnit? tie unit = some multiple) : i.Contains (multiple * 10 ^ unit) := by
  obtain ⟨nearer, either, found⟩ := i.onUnit?_eq tie unit
  rw [found] at taken
  rw [← i.holds_iff denPos]
  split at taken
  · split at taken
    · cases taken
      rcases either with rfl | rfl <;> assumption
    · cases taken
      assumption
  · split at taken
    · cases taken
      assumption
    · cases taken

/-- If a multiple of the unit rounds to the double, a neighbour of the double does. -/
theorem Interval.isSome_onUnit? (tie : Tie) (denPos : 0 < i.den) (value : i.Contains (i.value / i.den))
    (contains : i.Contains (multiple * 10 ^ unit)) : (i.onUnit? tie unit).isSome := by
  have positive : (0 : ℚ) < 10 ^ unit := by positivity
  obtain ⟨low, high⟩ := i.floorOn_spec denPos unit
  have neighbour : i.holds (i.floorOn unit) unit = true ∨ i.holds (i.floorOn unit + 1) unit = true := by
    rw [i.holds_iff denPos, i.holds_iff denPos]
    rcases Nat.lt_or_ge (i.floorOn unit) multiple with less | le
    · have upTo : ((i.floorOn unit + 1 : ℕ) : ℚ) ≤ multiple := by exact_mod_cast less
      exact .inr (value.between contains high.le (mul_le_mul_of_nonneg_right upTo positive.le))
    · have upTo : (multiple : ℚ) ≤ i.floorOn unit := by exact_mod_cast le
      exact .inl (contains.between value (mul_le_mul_of_nonneg_right upTo positive.le) low)
  obtain ⟨nearer, -, found⟩ := i.onUnit?_eq tie unit
  rw [found]
  split
  · split <;> rfl
  · rename_i notBelow
    rw [if_pos (neighbour.resolve_left notBelow)]
    rfl

/-! ## The interval of a double -/

theorem quarters_spec (quarters : ℕ) (significand : ℕ) (exponent : ℤ) :
    ((fraction quarters (exponent - 2)).1 / (interval significand exponent).den : ℚ) =
      quarters * 2 ^ exponent / 4 := by
  have same : (interval significand exponent).den = (fraction quarters (exponent - 2)).2 := by
    change (fraction 1 (exponent - 2)).2 = _
    rw [fraction, fraction]
    split <;> rfl
  rw [same, (fraction_spec quarters (exponent - 2)).2, zpow_sub₀ (by norm_num)]
  norm_num
  ring

theorem interval_den_pos (significand : ℕ) (exponent : ℤ) : 0 < (interval significand exponent).den :=
  (fraction_spec 1 (exponent - 2)).1

theorem interval_value (significand : ℕ) (exponent : ℤ) :
    ((interval significand exponent).value / (interval significand exponent).den : ℚ) =
      significand * 2 ^ exponent := by
  refine (quarters_spec (4 * significand) significand exponent).trans ?_
  push_cast
  ring

theorem interval_high (significand : ℕ) (exponent : ℤ) :
    ((interval significand exponent).high / (interval significand exponent).den : ℚ) =
      (significand + 1 / 2) * 2 ^ exponent := by
  refine (quarters_spec (4 * significand + 2) significand exponent).trans ?_
  push_cast
  ring

/-- Below a power of two the doubles lie twice as close. -/
theorem interval_low {significand : ℕ} (pos : 0 < significand) (exponent : ℤ) :
    ((interval significand exponent).low / (interval significand exponent).den : ℚ) =
      (significand - if significand = 2 ^ 52 ∧ -1074 < exponent then 1 / 4 else 1 / 2) * 2 ^ exponent := by
  refine (quarters_spec _ significand exponent).trans ?_
  rw [Nat.pow_eq]
  split
  · rw [Nat.cast_sub (by omega)]
    push_cast
    ring
  · rw [Nat.cast_sub (by omega)]
    push_cast
    ring

theorem contains_iff (pos : 0 < x.significand) :
    (interval x.significand x.exponent).Contains q ↔
      if x.significand % 2 = 0 then
        (x.significand - if x.significand = 2 ^ 52 ∧ -1074 < x.exponent then 1 / 4 else 1 / 2 : ℚ) ≤
          q / 2 ^ x.exponent ∧ q / 2 ^ x.exponent ≤ x.significand + 1 / 2
      else
        (x.significand - if x.significand = 2 ^ 52 ∧ -1074 < x.exponent then 1 / 4 else 1 / 2 : ℚ) <
          q / 2 ^ x.exponent ∧ q / 2 ^ x.exponent < x.significand + 1 / 2 := by
  have positive : (0 : ℚ) < 2 ^ x.exponent := by positivity
  have closed : (interval x.significand x.exponent).closed = decide (x.significand % 2 = 0) := rfl
  rw [Interval.Contains, interval_low pos, interval_high, closed, le_div_iff₀ positive,
    div_le_iff₀ positive, lt_div_iff₀ positive, div_lt_iff₀ positive]
  simp only [decide_eq_true_eq]

/-- A number that is rounded to a double lies in its interval. -/
theorem RoundedAt.contains {exponent : ℤ} (rounded : RoundedAt exponent q x) :
    (interval x.significand x.exponent).Contains q := by
  have full := rounded.full
  obtain ⟨low, high, least, rounds⟩ := rounded
  have positive : (0 : ℚ) < 2 ^ exponent := by positivity
  rw [zpow_add₀ (by norm_num), ← le_div_iff₀' positive] at low
  rw [zpow_add₀ (by norm_num), ← div_lt_iff₀' positive] at high
  rw [contains_iff (by omega)]
  rcases rounds with ⟨same, nearest⟩ | ⟨next, significand, nearest⟩
  · obtain ⟨below, above⟩ := abs_le.mp nearest.near
    push_cast at below above
    rw [same]
    split
    · refine ⟨?_, by linarith⟩
      split
      · rename_i power
        have significand : (x.significand : ℚ) = 2 ^ 52 := by exact_mod_cast power.1
        rw [significand]
        exact le_trans (by norm_num) low
      · linarith
    · rename_i odd
      have noTie : |q / 2 ^ exponent - x.significand| ≠ 1 / 2 := by
        intro tie
        have even := nearest.even (by exact_mod_cast tie)
        rw [Int.even_coe_nat, Nat.even_iff] at even
        exact odd even
      have near : |q / 2 ^ exponent - x.significand| < 1 / 2 :=
        lt_of_le_of_ne (by exact_mod_cast nearest.near) noTie
      obtain ⟨below, above⟩ := abs_lt.mp near
      rw [if_neg (by omega)]
      constructor <;> linarith
  · obtain ⟨below, above⟩ := abs_le.mp nearest.near
    have half : q / 2 ^ (exponent + 1) = q / 2 ^ exponent / 2 := by
      rw [zpow_add₀ (by norm_num), zpow_one, div_div]
    rw [next, significand, half, if_pos (by decide), if_pos ⟨rfl, by omega⟩]
    push_cast at *
    constructor <;> linarith

/-- A double lies in its interval. -/
theorem contains_magnitude (pos : 0 < x.significand) :
    (interval x.significand x.exponent).Contains x.magnitude := by
  have scaled : x.magnitude / 2 ^ x.exponent = x.significand :=
    mul_div_cancel_right₀ _ (by positivity)
  have above : (x.significand : ℚ) < x.significand + 1 / 2 := lt_add_of_pos_right _ (by norm_num)
  have below : (x.significand - if x.significand = 2 ^ 52 ∧ -1074 < x.exponent then 1 / 4 else 1 / 2 : ℚ) <
      x.significand := sub_lt_self _ (by split <;> norm_num)
  rw [contains_iff pos, scaled]
  split
  · exact ⟨below.le, above.le⟩
  · exact ⟨below, above⟩

/-- An interval is no wider than the last place. -/
theorem Interval.Contains.sub_le {p : ℚ} (pos : 0 < x.significand)
    (first : (interval x.significand x.exponent).Contains p)
    (second : (interval x.significand x.exponent).Contains q) : p - q ≤ 2 ^ x.exponent := by
  have positive : (0 : ℚ) < 2 ^ x.exponent := by positivity
  have ends : ∀ {r : ℚ}, (interval x.significand x.exponent).Contains r →
      (x.significand - 1 / 2 : ℚ) ≤ r / 2 ^ x.exponent ∧ r / 2 ^ x.exponent ≤ x.significand + 1 / 2 := by
    intro r contains
    rw [contains_iff pos] at contains
    have less : (if x.significand = 2 ^ 52 ∧ -1074 < x.exponent then 1 / 4 else 1 / 2 : ℚ) ≤ 1 / 2 := by
      split <;> norm_num
    split at contains
    · exact ⟨by linarith [contains.1], contains.2⟩
    · exact ⟨by linarith [contains.1], contains.2.le⟩
  rw [← div_le_one positive, sub_div]
  linarith [(ends first).2, (ends second).1]

/-! ## Shortest decimals -/

theorem stripZeros_spec (fuel digits : ℕ) (unit : ℤ) :
    ((stripZeros fuel digits unit).1 * 10 ^ (stripZeros fuel digits unit).2 : ℚ) = digits * 10 ^ unit ∧
      unit ≤ (stripZeros fuel digits unit).2 := by
  induction fuel generalizing digits unit with
  | zero => exact ⟨rfl, le_rfl⟩
  | succ fuel ih =>
    rw [stripZeros]
    split
    · rename_i zero
      obtain ⟨same, up⟩ := ih (digits / 10) (unit + 1)
      have tens : (digits : ℚ) = (digits / 10 : ℕ) * 10 := by
        exact_mod_cast (Nat.div_mul_cancel (Nat.dvd_of_mod_eq_zero zero)).symm
      refine ⟨?_, by omega⟩
      rw [same, tens, zpow_add_one₀ (by norm_num)]
      ring
    · exact ⟨rfl, le_rfl⟩

/-- Of the multiples of more than the last place only one rounds to a double. -/
theorem multiple_unique {finest : ℤ} {other : ℕ} (pos : 0 < x.significand)
    (gap : (2 : ℚ) ^ x.exponent < 10 ^ finest)
    (first : (interval x.significand x.exponent).Contains (multiple * 10 ^ finest))
    (second : (interval x.significand x.exponent).Contains (other * 10 ^ finest)) :
    multiple = other := by
  have positive : (0 : ℚ) < 10 ^ finest := by positivity
  have apart : ∀ {m n : ℕ}, (interval x.significand x.exponent).Contains (m * 10 ^ finest) →
      (interval x.significand x.exponent).Contains (n * 10 ^ finest) → m ≤ n := by
    intro m n greater less
    by_contra more
    have step : (n + 1 : ℚ) ≤ m := by exact_mod_cast Nat.not_le.mp more
    have width := greater.sub_le pos less
    have least : (10 : ℚ) ^ finest ≤ m * 10 ^ finest - n * 10 ^ finest := by
      rw [← sub_mul]
      exact le_mul_of_one_le_left positive.le (by linarith)
    linarith
  exact le_antisymm (apart first second) (apart second first)

/-- The exponent of the leading digit of a double. -/
def top (x : Binary64) : ℤ :=
  leadingExponent (interval x.significand x.exponent).value (interval x.significand x.exponent).den

theorem top_spec (pos : 0 < x.significand) :
    (10 : ℚ) ^ x.top ≤ x.magnitude ∧ x.magnitude < 10 ^ (x.top + 1) := by
  have value := interval_value x.significand x.exponent
  have denPos := interval_den_pos x.significand x.exponent
  have positive : (0 : ℚ) < x.significand * 2 ^ x.exponent := by positivity
  rw [← value] at positive
  have numPos := num_pos positive
  have bounds := leadingExponent_spec numPos denPos
  rwa [value] at bounds

/-- The first point that a search from one grid down finds in an interval. -/
def Interval.search (i : Interval) (tie : Tie) (top : ℤ) : Option (ℕ × ℤ) :=
  (List.range 17).findSome? fun (more : ℕ) =>
    (i.onUnit? tie (top - more)).map fun digits => (digits, top - (more : ℤ))

theorem shortest_eq (x : Binary64) (tie : Tie) : x.shortest tie =
    match (interval x.significand x.exponent).search tie x.top with
    | some (digits, unit) => stripZeros 18 digits unit
    | none => (0, 0) := rfl

/-- A search ends on the grid of a number that rounds to the double, or before. -/
theorem Interval.exists_search (tie : Tie) {top finest : ℤ} (denPos : 0 < i.den)
    (value : i.Contains (i.value / i.den)) (contains : i.Contains (multiple * 10 ^ finest))
    (below : finest ≤ top) (near : top ≤ finest + 16) :
    ∃ digits unit, i.search tie top = some (digits, unit) ∧ i.onUnit? tie unit = some digits ∧
      finest ≤ unit := by
  have last : top - ((top - finest).toNat : ℤ) = finest := by omega
  have hits := Interval.isSome_onUnit? tie denPos value contains
  have found : (i.search tie top).isSome := by
    rw [search, List.findSome?_isSome_iff]
    refine ⟨(top - finest).toNat, List.mem_range.mpr (by omega), ?_⟩
    rwa [last, Option.isSome_map]
  obtain ⟨point, searched⟩ := Option.isSome_iff_exists.mp found
  obtain ⟨least, first, before⟩ := Decimal.least_of_findSome?_range searched
  have least_le : least ≤ (top - finest).toNat := by
    by_contra later
    have none := before _ (Nat.not_le.mp later)
    rw [last, Option.map_eq_none_iff, ← Option.not_isSome_iff_eq_none] at none
    exact none hits
  obtain ⟨digits, taken, rfl⟩ := Option.map_eq_some_iff.mp first
  exact ⟨digits, _, searched, taken, by omega⟩

/-- Where a multiple of more than the last place rounds to a double, and the double has no more than
17 digits down to it, the shortest decimal is this multiple. -/
theorem shortest_spec (tie : Tie) {finest : ℤ} (pos : 0 < x.significand)
    (gap : (2 : ℚ) ^ x.exponent < 10 ^ finest)
    (contains : (interval x.significand x.exponent).Contains (multiple * 10 ^ finest))
    (below : finest ≤ x.top) (near : x.top ≤ finest + 16) :
    ((x.shortest tie).1 * 10 ^ (x.shortest tie).2 : ℚ) = multiple * 10 ^ finest ∧
      finest ≤ (x.shortest tie).2 := by
  have denPos := interval_den_pos x.significand x.exponent
  have value : (interval x.significand x.exponent).Contains
      ((interval x.significand x.exponent).value / (interval x.significand x.exponent).den) := by
    rw [interval_value]
    exact contains_magnitude pos
  obtain ⟨digits, unit, searched, taken, coarser⟩ :=
    Interval.exists_search tie denPos value contains below near
  have refined : (digits * 10 ^ unit : ℚ) = (digits * 10 ^ (unit - finest).toNat : ℕ) * 10 ^ finest := by
    push_cast
    rw [mul_assoc, ← zpow_natCast, ← zpow_add₀ (by norm_num)]
    congr 2
    omega
  have rounds := Interval.contains_of_onUnit? denPos taken
  rw [refined] at rounds
  have same := multiple_unique pos gap rounds contains
  obtain ⟨kept, up⟩ := stripZeros_spec 18 digits unit
  rw [shortest_eq, searched]
  dsimp only
  rw [kept, refined, same]
  exact ⟨rfl, coarser.trans up⟩

end VenueGateway.Binary64
