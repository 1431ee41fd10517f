import VenueGateway.Fees
import VenueGateway.Proofs.Traversal

/-! # Usable fees

A fee can be used if it is configured as a percentage, blanks around it ignored, and fees can be had
when both of their entries can be used.
-/

namespace VenueGateway.Fees

variable {entries : NameMap String} {entry : String}

/-- A text that is a percentage: no more than a hundred, and not negative. An amount that was negative
before it was rounded to nothing counts as negative, since it keeps its sign. -/
def Percentage (text : String) : Prop :=
  ∃ x, Decimal.read (Text.trim text) = .ok x ∧ x.negative = false ∧
    x.mantissa ≤ 100 * Nat.pow 10 x.scale

theorem isPercentage_iff (x : Decimal) :
    isPercentage x = true ↔ x.negative = false ∧ x.mantissa ≤ 100 * Nat.pow 10 x.scale := by
  have unit : Nat.pow 10 28 = Nat.pow 10 x.scale * Nat.pow 10 (28 - x.scale) := by
    have joined := Nat.pow_add 10 x.scale (28 - x.scale)
    rwa [Nat.add_sub_cancel' x.scale_le] at joined
  have scaled : x.mantissa * Nat.pow 10 (28 - x.scale) ≤ 100 * Nat.pow 10 28 ↔
      x.mantissa ≤ 100 * Nat.pow 10 x.scale := by
    rw [unit, ← Nat.mul_assoc]
    exact Nat.mul_le_mul_right_iff (Nat.pow_pos (by decide))
  have hundred_units : hundred.units = (100 * Nat.pow 10 28 : Nat) := rfl
  rw [isPercentage, Bool.and_eq_true, Bool.not_eq_true', decide_eq_true_eq]
  refine and_congr_right fun unsigned => ?_
  rw [← scaled, hundred_units, Decimal.units, unsigned]
  exact Int.ofNat_le

theorem readPercentage_isOk_iff (entry percent : String) :
    (∃ x, readPercentage entry percent = .ok x) ↔ Percentage percent := by
  rw [readPercentage, Percentage]
  cases Decimal.read (Text.trim percent) with
  | error cause =>
    refine ⟨nofun, ?_⟩
    rintro ⟨_, ⟨⟩, -⟩
  | ok x =>
    simp only [Except.ok.injEq, exists_eq_left', ← isPercentage_iff]
    split
    · rename_i percentage
      exact ⟨fun _ => percentage, fun _ => ⟨_, rfl⟩⟩
    · rename_i other
      exact ⟨nofun, fun percentage => absurd percentage other⟩

theorem readEntry_eq_ok_iff {x : Decimal} :
    readEntry entries entry = .ok x ↔
      ∃ percent, entries.get? entry = some percent ∧ readPercentage entry percent = .ok x := by
  rw [readEntry]
  cases entries.get? entry with
  | none => simp
  | some percent => simp

theorem readEntry_isOk_iff :
    (∃ x, readEntry entries entry = .ok x) ↔
      ∃ percent, entries.get? entry = some percent ∧ Percentage percent := by
  simp only [readEntry_eq_ok_iff, ← readPercentage_isOk_iff entry]
  exact ⟨fun ⟨x, percent, found, read⟩ => ⟨percent, found, x, read⟩,
    fun ⟨percent, found, x, read⟩ => ⟨x, percent, found, read⟩⟩

theorem ofEntries_eq_ok_iff {fees : Fees} :
    ofEntries entries = .ok fees ↔
      readEntry entries buyEntry = .ok fees.buy ∧ readEntry entries sellEntry = .ok fees.sell := by
  rw [ofEntries]
  constructor
  · intro read
    obtain ⟨buy, bought, read⟩ := bind_eq_ok_iff.mp read
    obtain ⟨sell, sold, made⟩ := bind_eq_ok_iff.mp read
    cases made
    exact ⟨bought, sold⟩
  · rintro ⟨bought, sold⟩
    exact bind_eq_ok_iff.mpr ⟨_, bought, bind_eq_ok_iff.mpr ⟨_, sold, rfl⟩⟩

theorem ofEntries_isOk_iff :
    (∃ fees, ofEntries entries = .ok fees) ↔
      (∃ buy, readEntry entries buyEntry = .ok buy) ∧
        ∃ sell, readEntry entries sellEntry = .ok sell := by
  simp only [ofEntries_eq_ok_iff]
  constructor
  · rintro ⟨fees, bought, sold⟩
    exact ⟨⟨_, bought⟩, _, sold⟩
  · rintro ⟨⟨buy, bought⟩, sell, sold⟩
    exact ⟨⟨buy, sell⟩, bought, sold⟩

end VenueGateway.Fees
