import VenueGateway.Proofs.Fees.Rounding

/-! # Bounds on fees

Whatever text a fee is configured by, it is read or refused. A fee that is read lies between nothing and
all of an order, is a hundredth of its percentage up to the two roundings, and does not fall when the
percentage rises: each rounding keeps the order of what it rounds.
-/

namespace VenueGateway.Fees

variable {x y fee : Decimal} {entry percent : String}

/-- A fraction of 8 places that is a hundredth of a percentage, up to half a unit of the 8th place and
half a unit of the 28th. -/
structure HundredthOf (x fee : Decimal) : Prop where
  scale : fee.scale = 8
  nonneg : 0 ≤ fee.value
  le_one : fee.value ≤ 1
  near : |fee.value - x.value / 100| ≤ 1 / 2 / 10 ^ 8 + 1 / 2 / 10 ^ 28

/-! ## Fractions -/

theorem value_fraction_eq (percentage : isPercentage x = true) :
    (fraction x percentage).value = (x.hundredthTo8 : ℚ) / 10 ^ 8 := Decimal.value_of_unsigned rfl

/-- The 8th place is at most half a unit off what the 28 places say, and these are at most half a unit
off the hundredth. -/
theorem near_fraction (percentage : isPercentage x = true) :
    |(fraction x percentage).value - x.value / 100| ≤ 1 / 2 / 10 ^ 8 + 1 / 2 / 10 ^ 28 := by
  have unsigned := (isPercentage_iff x).mp percentage
  have whole : |(x.hundredth - (x.mantissa * 10 ^ (28 - x.scale) : ℕ) / (100 : ℕ) : ℚ)| ≤ 1 / 2 :=
    Decimal.abs_roundDiv_sub_le (by decide) .even
  have places : |(x.hundredthTo8 - (x.hundredth : ℕ) / (10 ^ 20 : ℕ) : ℚ)| ≤ 1 / 2 :=
    Decimal.abs_roundDiv_sub_le (by decide) .away
  rw [value_fraction_eq, value_div_hundred unsigned.1]
  rw [abs_le] at whole places ⊢
  push_cast at whole places ⊢
  constructor <;> linarith [whole.1, whole.2, places.1, places.2]

theorem hundredthOf_fraction (percentage : isPercentage x = true) :
    HundredthOf x (fraction x percentage) := by
  have value := value_fraction_eq percentage
  refine ⟨rfl, ?nonneg, ?le_one, near_fraction percentage⟩
  case nonneg =>
    rw [value]
    positivity
  case le_one =>
    have most : (x.hundredthTo8 : ℚ) ≤ 10 ^ 8 := by exact_mod_cast hundredthTo8_le percentage
    rw [value]
    exact div_le_one_of_le₀ most (by positivity)

theorem fraction_mono (percentage : isPercentage x = true) (alsoPercentage : isPercentage y = true)
    (less : x.value ≤ y.value) :
    (fraction x percentage).value ≤ (fraction y alsoPercentage).value := by
  have unsigned := (isPercentage_iff x).mp percentage
  have alsoUnsigned := (isPercentage_iff y).mp alsoPercentage
  have units : x.mantissa * 10 ^ (28 - x.scale) ≤ y.mantissa * 10 ^ (28 - y.scale) := by
    have hundredths : x.value / 100 ≤ y.value / 100 := by gcongr
    rw [value_div_hundred unsigned.1, value_div_hundred alsoUnsigned.1,
      div_le_div_iff_of_pos_right (by positivity)] at hundredths
    exact_mod_cast hundredths
  have whole : x.hundredth ≤ y.hundredth := Decimal.roundDiv_mono (by decide) .even units
  have places : x.hundredthTo8 ≤ y.hundredthTo8 := Decimal.roundDiv_mono (by decide) .away whole
  rw [value_fraction_eq, value_fraction_eq]
  gcongr

/-! ## Texts -/

theorem isPercentage_iff_value : isPercentage x = true ↔ x.negative = false ∧ x.value ≤ 100 := by
  constructor
  · intro percentage
    obtain ⟨unsigned, upper⟩ := (isPercentage_iff x).mp percentage
    refine ⟨unsigned, ?_⟩
    rw [Decimal.value_of_unsigned unsigned, div_le_iff₀ (by positivity)]
    exact_mod_cast upper
  · rintro ⟨unsigned, upper⟩
    exact isPercentage_of_unsigned unsigned upper

theorem readPercentage_eq_ok_iff :
    readPercentage entry percent = .ok fee ↔
      ∃ x, ∃ percentage : isPercentage x = true,
        Decimal.read (Text.trim percent) = .ok x ∧ fraction x percentage = fee := by
  constructor
  · intro made
    cases read : Decimal.read (Text.trim percent) with
    | error cause =>
      rw [readPercentage, read] at made
      cases made
    | ok x =>
      cases percentage : isPercentage x with
      | true =>
        rw [readPercentage_of_percentage read percentage] at made
        exact ⟨x, percentage, rfl, Except.ok.inj made⟩
      | false =>
        rw [readPercentage_of_other read percentage] at made
        cases made
  · rintro ⟨x, percentage, read, rfl⟩
    exact readPercentage_of_percentage read percentage

/-- A text is read as a fee, or is refused as a configuration. It is read exactly if it is an amount
without a minus sign and of at most a hundred; the fee is a hundredth of that amount up to the roundings,
and a larger amount has no smaller fee. -/
theorem readPercentage_bounded (entry percent : String) :
    ((∃ fee, readPercentage entry percent = .ok fee) ∨
      ∃ defect detail, readPercentage entry percent = .error defect ∧
        defect.failure = .configuration detail) ∧
    ((∃ fee, readPercentage entry percent = .ok fee) ↔
      ∃ x, Decimal.read (Text.trim percent) = .ok x ∧ x.negative = false ∧ x.value ≤ 100) ∧
    ∀ x fee, Decimal.read (Text.trim percent) = .ok x → readPercentage entry percent = .ok fee →
      HundredthOf x fee ∧
        ∀ otherEntry otherPercent y otherFee, Decimal.read (Text.trim otherPercent) = .ok y →
          readPercentage otherEntry otherPercent = .ok otherFee → x.value ≤ y.value →
            fee.value ≤ otherFee.value := by
  refine ⟨?outcome, ?accepted, ?fee⟩
  case outcome =>
    cases readPercentage entry percent with
    | ok fee => exact .inl ⟨fee, rfl⟩
    | error defect => exact .inr ⟨defect, defect.message, rfl, rfl⟩
  case accepted =>
    simp only [readPercentage_eq_ok_iff, ← isPercentage_iff_value]
    constructor
    · rintro ⟨fee, x, percentage, read, -⟩
      exact ⟨x, read, percentage⟩
    · rintro ⟨x, read, percentage⟩
      exact ⟨_, x, percentage, read, rfl⟩
  case fee =>
    intro x fee read made
    obtain ⟨_, percentage, alsoRead, rfl⟩ := readPercentage_eq_ok_iff.mp made
    cases read.symm.trans alsoRead
    refine ⟨hundredthOf_fraction percentage, ?_⟩
    intro otherEntry otherPercent y otherFee otherRead otherMade less
    obtain ⟨_, otherPercentage, alsoOtherRead, rfl⟩ := readPercentage_eq_ok_iff.mp otherMade
    cases otherRead.symm.trans alsoOtherRead
    exact fraction_mono percentage otherPercentage less

/-- A percentage whose fraction is carried through all places is no more than a hundred is. -/
theorem readPercentage_bounded_carried :
    ∃ fee whole, readPercentage sellEntry " 99.9999995\n" = .ok fee ∧
      readPercentage buyEntry "100" = .ok whole ∧ HundredthOf (.ofPlaces 999999995 7) fee ∧
      fee.value = 1 ∧ fee.value ≤ whole.value := by
  have read : Decimal.read (Text.trim " 99.9999995\n") = .ok (.ofPlaces 999999995 7) := by
    decide +kernel
  have made : readPercentage sellEntry " 99.9999995\n" = .ok (.ofPlaces 100000000 8) := by
    decide +kernel
  have wholeRead : Decimal.read (Text.trim "100") = .ok (.ofPlaces 100 0) := by decide +kernel
  have wholeMade : readPercentage buyEntry "100" = .ok (.ofPlaces 100000000 8) := by decide +kernel
  have less : (Decimal.ofPlaces 999999995 7).value ≤ (Decimal.ofPlaces 100 0).value := by
    rw [Decimal.value_ofPlaces (by decide), Decimal.value_ofPlaces (by decide)]
    norm_num
  obtain ⟨near, mono⟩ := (readPercentage_bounded sellEntry " 99.9999995\n").2.2 _ _ read made
  refine ⟨_, _, made, wholeMade, near, ?_, mono _ _ _ _ wholeRead wholeMade less⟩
  rw [Decimal.value_ofPlaces (by decide)]
  norm_num

end VenueGateway.Fees
