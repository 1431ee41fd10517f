import VenueGateway.Proofs.Binary64.Shortest
import VenueGateway.Proofs.Decimal.ReadBack

/-! # Decimals that survive as doubles

A decimal whose places are wider than the last place of its double is the shortest decimal of the
double, so it is found again in the double's text. Where the doubles below `2 ^ m` lie closer together
than the decimals, this is so for all decimals below `2 ^ m`.
-/

namespace VenueGateway.Binary64

open Decimal (Tie)

variable {n k m : ℕ} {exponent : ℤ} {x : Binary64}

/-! ## The last place -/

/-- Where all decimals below a power of two are apart, the last place of their doubles is smaller than
theirs. -/
theorem RoundedAt.gap (rounded : RoundedAt exponent (n / 10 ^ k) x) (less : n < 2 ^ m * 10 ^ k)
    (apart : 2 ^ m * 10 ^ k < 2 ^ 53) : (2 : ℚ) ^ x.exponent < 10 ^ (-(k : ℤ)) := by
  have tens : (0 : ℚ) < 10 ^ k := by positivity
  have wide : (2 : ℚ) ^ ((m : ℤ) - 53) < 10 ^ (-(k : ℤ)) := by
    have apart : (2 ^ m * 10 ^ k : ℚ) < 2 ^ 53 := by exact_mod_cast apart
    rw [zpow_sub₀ (by norm_num), zpow_neg, zpow_natCast, zpow_natCast, lt_inv_comm₀ (by positivity) tens,
      inv_div, lt_div_iff₀ (by positivity), mul_comm]
    exact_mod_cast apart
  have below : (n / 10 ^ k : ℚ) ≤ 2 ^ m - 10 ^ (-(k : ℤ)) := by
    have step : (n + 1 : ℚ) ≤ 2 ^ m * 10 ^ k := by exact_mod_cast less
    rw [div_le_iff₀ tens, sub_mul, zpow_neg, zpow_natCast, inv_mul_cancel₀ tens.ne']
    linarith
  have bits : exponent + 52 < m := by
    rw [← zpow_lt_zpow_iff_right₀ (a := (2 : ℚ)) (by norm_num), zpow_natCast]
    have place : (0 : ℚ) < 10 ^ (-(k : ℤ)) := by positivity
    exact rounded.low.trans_lt (by linarith)
  have exponent_le : x.exponent ≤ m - 53 := by
    rcases rounded.rounds with ⟨same, -⟩ | ⟨next, -, nearest⟩
    · omega
    · by_contra greater
      obtain rfl : exponent = m - 53 := by omega
      have positive : (0 : ℚ) < 2 ^ ((m : ℤ) - 53) := by positivity
      have power : (2 : ℚ) ^ 53 * 2 ^ ((m : ℤ) - 53) = 2 ^ m := by
        rw [← zpow_natCast, ← zpow_add₀ (by norm_num), ← zpow_natCast]
        congr 1
        push_cast
        ring
      obtain ⟨low, -⟩ := abs_le.mp nearest.near
      have high : (2 : ℚ) ^ 53 - 1 / 2 ≤ n / 10 ^ k / 2 ^ ((m : ℤ) - 53) := by
        push_cast at low
        linarith
      rw [le_div_iff₀ positive, sub_mul, power] at high
      linarith
  exact (zpow_le_zpow_right₀ (by norm_num) exponent_le).trans_lt wide

/-- Where the double of a decimal has its leading digit. -/
theorem top_bounds (pos : 0 < n) (small : n < 2 ^ 53) (full : 2 ^ 52 ≤ x.significand)
    (contains : (interval x.significand x.exponent).Contains (n / 10 ^ k)) :
    -(k + 1 : ℤ) ≤ x.top ∧ x.top + k ≤ 16 ∧ (2 : ℚ) ^ x.exponent < 10 ^ x.top := by
  have xPos : 0 < x.significand := by omega
  obtain ⟨low, high⟩ := top_spec xPos
  have itself := contains_magnitude xPos
  have above := itself.sub_le xPos contains
  have below := contains.sub_le xPos itself
  have least : (10 : ℚ) ^ (-(k : ℤ)) ≤ n / 10 ^ k := by
    have one : (1 : ℚ) ≤ n := by exact_mod_cast pos
    rw [zpow_neg, zpow_natCast, inv_eq_one_div]
    gcongr
  have relative : (2 : ℚ) ^ 52 * 2 ^ x.exponent ≤ x.magnitude := by
    have full : (2 : ℚ) ^ 52 ≤ x.significand := by exact_mod_cast full
    exact mul_le_mul_of_nonneg_right full (by positivity)
  have place : (0 : ℚ) < 2 ^ x.exponent := by positivity
  refine ⟨?down, ?up, ?place⟩
  case down =>
    have reached : (10 : ℚ) ^ (-(k : ℤ)) < 10 ^ (x.top + 1 + 1) := by
      rw [zpow_add_one₀ (by norm_num)]
      linarith
    rw [zpow_lt_zpow_iff_right₀ (by norm_num)] at reached
    omega
  case up =>
    have tens : (0 : ℚ) < 10 ^ k := by positivity
    have bounded : (n : ℚ) < 2 ^ 53 := by exact_mod_cast small
    have stopped : (10 : ℚ) ^ (x.top + k) < 10 ^ (17 : ℤ) := by
      rw [zpow_add₀ (by norm_num), zpow_natCast]
      calc (10 : ℚ) ^ x.top * 10 ^ k
        _ ≤ 2 * (n / 10 ^ k) * 10 ^ k := by gcongr; linarith
        _ = 2 * n := by rw [mul_assoc, div_mul_cancel₀ _ tens.ne']
        _ < 2 * 2 ^ 53 := by gcongr
        _ < 10 ^ (17 : ℤ) := by norm_num
    rw [zpow_lt_zpow_iff_right₀ (by norm_num)] at stopped
    omega
  case place =>
    rw [zpow_add_one₀ (by norm_num)] at high
    norm_num at relative
    linarith

/-- A decimal whose places are wider than the last place of its double is the shortest decimal of the
double. -/
theorem shortest_of_gap (tie : Tie) (pos : 0 < n) (small : n < 2 ^ 53)
    (full : 2 ^ 52 ≤ x.significand) (gap : (2 : ℚ) ^ x.exponent < 10 ^ (-(k : ℤ)))
    (contains : (interval x.significand x.exponent).Contains (n / 10 ^ k)) :
    ((x.shortest tie).1 * 10 ^ (x.shortest tie).2 : ℚ) = n / 10 ^ k ∧
      -(k + 1 : ℤ) ≤ (x.shortest tie).2 := by
  obtain ⟨down, up, topGap⟩ := top_bounds pos small full contains
  obtain ⟨finest, finest_eq⟩ : ∃ finest, finest = min (-(k : ℤ)) x.top := ⟨_, rfl⟩
  have finestGap : (2 : ℚ) ^ x.exponent < 10 ^ finest := by
    rw [finest_eq]
    rcases min_choice (-(k : ℤ)) x.top with same | same <;> rw [same] <;> assumption
  have multiple : (n / 10 ^ k : ℚ) = (n * 10 ^ (-(k : ℤ) - finest).toNat : ℕ) * 10 ^ finest := by
    push_cast
    rw [mul_assoc, ← zpow_natCast 10 (Int.toNat _), ← zpow_add₀ (by norm_num), div_eq_mul_inv,
      ← zpow_natCast, ← zpow_neg]
    congr 2
    omega
  rw [multiple] at contains ⊢
  obtain ⟨same, unit_le⟩ := shortest_spec tie (by omega) finestGap contains (by omega) (by omega)
  exact ⟨same, by omega⟩

/-! ## Texts -/

theorem ofDigitChars_zeros (count before : ℕ) :
    Nat.ofDigitChars 10 (List.replicate count '0') before = before * 10 ^ count := by
  induction count generalizing before with
  | zero => simp
  | succ count ih =>
    rw [List.replicate_succ, Text.ofDigitChars_cons, ih, pow_succ']
    change (before * 10 + 0) * 10 ^ count = _
    ring

/-- The digits of a number with the point set: all of them stand, with zeros where none are left. -/
theorem positional_spec (digits : ℕ) (unit : ℤ) :
    ∃ whole fraction, positional (Nat.toDigits 10 digits) ((Nat.toDigits 10 digits).length + unit) =
        (whole, fraction) ∧ whole ≠ [] ∧ (∀ c ∈ whole ++ fraction, c.isDigit = true) ∧
      Text.digitsValue (whole ++ fraction) = digits * 10 ^ unit.toNat ∧
        fraction.length = (-unit).toNat := by
  have each : ∀ c ∈ Nat.toDigits 10 digits, c.isDigit = true :=
    fun c => Nat.isDigit_of_mem_toDigits (by decide) (by decide)
  have zeros : ∀ count, ∀ c ∈ List.replicate count '0', c.isDigit = true := by
    intro count c member
    rw [List.eq_of_mem_replicate member]
    rfl
  have some_digits : 0 < (Nat.toDigits 10 digits).length := Nat.length_toDigits_pos
  have written : Nat.ofDigitChars 10 (Nat.toDigits 10 digits) 0 = digits := Nat.ofDigitChars_ten_toDigits
  rw [positional]
  split
  · rename_i inside
    refine ⟨_, _, rfl, List.cons_ne_nil _ _, ?_, ?_, ?_⟩
    · exact List.forall_mem_append.mpr ⟨by simp, List.forall_mem_append.mpr ⟨zeros _, each⟩⟩
    · rw [Text.digitsValue_eq, ← List.append_assoc, Nat.ofDigitChars_append, List.singleton_append,
        ← List.replicate_succ, ofDigitChars_zeros, Nat.zero_mul, written,
        Int.toNat_of_nonpos (by omega), pow_zero, Nat.mul_one]
    · rw [List.length_append, List.length_replicate]
      omega
  · rename_i front
    refine ⟨_, _, rfl, ?_, ?_, ?_, ?_⟩
    · apply List.ne_nil_of_length_pos
      rw [List.length_take, List.length_append, List.length_replicate]
      omega
    · rw [List.take_append_drop]
      exact List.forall_mem_append.mpr ⟨each, zeros _⟩
    · rw [List.take_append_drop, Text.digitsValue_eq, Nat.ofDigitChars_append, written,
        ofDigitChars_zeros]
      congr 2
      omega
    · rw [List.length_drop, List.length_append, List.length_replicate]
      omega

def signed (negative : Bool) (q : ℚ) : ℚ := if negative then -q else q

theorem value_eq_signed (y : Decimal) : y.value = signed y.negative (y.mantissa / 10 ^ y.scale) := rfl

theorem placed_eq (digits : ℕ) (unit : ℤ) :
    ((digits * 10 ^ unit.toNat : ℕ) / 10 ^ (-unit).toNat : ℚ) = digits * 10 ^ unit := by
  rcases Int.le_total 0 unit with up | down
  · obtain ⟨places, rfl⟩ := Int.eq_ofNat_of_zero_le up
    simp
  · obtain ⟨places, rfl⟩ := Int.exists_eq_neg_ofNat down
    simp [div_eq_mul_inv]

theorem readChars_zero (negative : Bool) :
    ∃ y, Decimal.readChars (plainText (zero negative)) = .ok y ∧ y.value = 0 := by
  refine ⟨Decimal.zero, ?_, by simp [Decimal.value, Decimal.zero]⟩
  cases negative <;> decide

/-- The text of a double reads as its shortest decimal where this is an amount. -/
theorem readChars_plainText {q : ℚ} (pos : 0 < x.significand)
    (same : ((x.shortest .away).1 * 10 ^ (x.shortest .away).2 : ℚ) = q)
    (shallow : (-(x.shortest .away).2).toNat ≤ 28)
    (fits : q * 10 ^ (-(x.shortest .away).2).toNat < Decimal.bound) :
    ∃ y, Decimal.readChars x.plainText = .ok y ∧ y.value = signed x.negative q := by
  have nonzero : x.isZero = false := decide_eq_false pos.ne'
  generalize found : x.shortest .away = shortest at same shallow fits
  obtain ⟨digits, unit⟩ := shortest
  dsimp only at same shallow fits
  have placed := placed_eq digits unit
  rw [same] at placed
  have fits : digits * 10 ^ unit.toNat < Decimal.bound := by
    rw [div_eq_iff (by positivity)] at placed
    rw [← placed] at fits
    exact_mod_cast fits
  obtain ⟨whole, fraction, shown, some_digits, each, mantissa, scale⟩ := positional_spec digits unit
  let amount : Decimal := ⟨x.negative, digits * 10 ^ unit.toNat, (-unit).toNat, fits, shallow⟩
  refine ⟨amount.unsignedZero, ?text, ?value⟩
  case text =>
    rw [← Decimal.readChars_numeral (y := amount) each some_digits mantissa.symm scale.symm,
      plainText, nonzero]
    simp only [found, shown, List.isEmpty_iff, signText, Bool.false_eq_true, if_false, amount]
  case value =>
    rw [Decimal.value_unsignedZero, value_eq_signed, ← placed]

/-- A decimal that lies apart from all others is found again in the text of its double. -/
theorem RoundedAt.readChars (rounded : RoundedAt exponent (n / 10 ^ k) x) (pos : 0 < n)
    (less : n < 2 ^ m * 10 ^ k) (apart : 2 ^ m * 10 ^ k < 2 ^ 53) :
    ∃ y, Decimal.readChars x.plainText = .ok y ∧ y.value = signed x.negative (n / 10 ^ k) := by
  have few : k < 16 := by
    have less : 10 ^ k < 10 ^ 16 := by
      have alone : 10 ^ k ≤ 2 ^ m * 10 ^ k := Nat.le_mul_of_pos_left _ (Nat.pow_pos (by decide))
      exact (alone.trans_lt apart).trans (by decide)
    exact (Nat.pow_lt_pow_iff_right (by decide)).mp less
  have gap := rounded.gap less apart
  obtain ⟨same, unit_le⟩ := shortest_of_gap .away pos (less.trans apart) rounded.full gap rounded.contains
  have full := rounded.full
  refine readChars_plainText (by omega) same (by omega) ?_
  have small : (n : ℚ) < 2 ^ 53 := by exact_mod_cast less.trans apart
  calc (n / 10 ^ k : ℚ) * 10 ^ (-(x.shortest .away).2).toNat
    _ ≤ n / 10 ^ k * 10 ^ (k + 1) := by
      gcongr
      · norm_num
      · omega
    _ = 10 * n := by
      rw [pow_succ]
      field_simp
    _ < 10 * 2 ^ 53 := by gcongr
    _ < Decimal.bound := by norm_num [Decimal.bound]

end VenueGateway.Binary64
