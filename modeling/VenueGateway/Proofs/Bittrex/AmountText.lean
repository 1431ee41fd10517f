import VenueGateway.Proofs.Bittrex.OrderAmounts
import VenueGateway.Proofs.Decimal.ReadBack

/-! # How amounts are written for an order

A positive amount is written as the shortest plain numeral of what it is sent as. The text depends on
the number that is sent and on nothing else, so that amounts of one value have one text, and a text that
is read and written again stays the same.
-/

namespace VenueGateway

namespace Text

/-- At most so many digits behind a point, the last of them not zero. -/
def ShortFraction (places : ℕ) (text : String) : Prop :=
  ∀ whole fraction, text.toList = whole ++ '.' :: fraction →
    fraction.length ≤ places ∧ ∃ last, fraction.getLast? = some last ∧ last ≠ '0'

end Text

namespace Decimal

variable {x : Decimal}

/-- The digits behind the point of an amount are those of its scale. -/
private theorem fraction_of_text (unsigned : x.negative = false) {whole fraction : List Char}
    (split : x.text.toList = whole ++ '.' :: fraction) :
    x.scale ≠ 0 ∧ fraction = lastDigits x.scale x.mantissa := by
  have noPoint : ∀ {digits : List Char}, (∀ c ∈ digits, c.isDigit = true) → '.' ∉ digits :=
    fun each member => absurd (each '.' member) (by decide)
  have front : '.' ∉ Nat.toDigits 10 (x.mantissa / 10 ^ x.scale) :=
    noPoint fun c member => Nat.isDigit_of_mem_toDigits (by decide) (by decide) member
  have back : '.' ∉ lastDigits x.scale x.mantissa :=
    noPoint fun c member => isDigit_of_mem_lastDigits member
  have written : x.text.toList = Nat.toDigits 10 (x.mantissa / 10 ^ x.scale) ++
      if x.scale = 0 then [] else '.' :: lastDigits x.scale x.mantissa := by
    simp [text, unsigned, magnitudeText]
  rw [written] at split
  by_cases whole : x.scale = 0
  · rw [if_pos whole, List.append_nil] at split
    exact absurd (split ▸ List.mem_append_right _ List.mem_cons_self) front
  · rw [if_neg whole] at split
    refine ⟨whole, ?_⟩
    rcases List.append_eq_append_iff.mp split with ⟨more, -, rest⟩ | ⟨more, digits, rest⟩
    · cases more with
      | nil => exact (List.cons.inj rest).2.symm
      | cons c more =>
        have member : '.' ∈ lastDigits x.scale x.mantissa := by
          rw [(List.cons.inj rest).2]
          exact List.mem_append_right _ List.mem_cons_self
        exact absurd member back
    · cases more with
      | nil => exact (List.cons.inj rest).2
      | cons c more =>
        have member : '.' ∈ Nat.toDigits 10 (x.mantissa / 10 ^ x.scale) := by
          rw [digits, (List.cons.inj rest).1]
          exact List.mem_append_right _ List.mem_cons_self
        exact absurd member front

/-- A normal amount has no digits behind its point that it can do without. -/
theorem IsNormal.shortFraction (normal : x.IsNormal) (unsigned : x.negative = false) {places : ℕ}
    (fits : x.scale ≤ places) : Text.ShortFraction places x.text := by
  intro whole fraction split
  obtain ⟨some_digits, rfl⟩ := fraction_of_text unsigned split
  obtain ⟨count, count_eq⟩ := Nat.exists_eq_succ_of_ne_zero some_digits
  refine ⟨by rwa [length_lastDigits], Nat.digitChar (x.mantissa % 10), ?last, ?nonzero⟩
  case last =>
    rw [count_eq, lastDigits, List.getLast?_append, List.getLast?_singleton, Option.some_or]
  case nonzero =>
    have stripped := normal.stripped.resolve_left some_digits
    have table : ∀ k < 10, k ≠ 0 → Nat.digitChar k ≠ '0' := by decide
    exact table _ (Nat.mod_lt _ (by decide)) stripped

end Decimal

namespace Bittrex

variable {x y : Decimal} {q r : ℚ}

/-! ## The number that is sent -/

theorem SentAs.mono (sent : SentAs x q) (alsoSent : SentAs y r) (less : x.value ≤ y.value) :
    q ≤ r := by
  obtain ⟨m, rfl, nearest⟩ := sent
  obtain ⟨n, rfl, alsoNearest⟩ := alsoSent
  have places : m ≤ n := by
    exact_mod_cast nearest.mono alsoNearest (mul_le_mul_of_nonneg_right less (by positivity))
  gcongr

theorem SentAs.unique (sent : SentAs x q) (alsoSent : SentAs x r) : q = r :=
  le_antisymm (sent.mono alsoSent le_rfl) (alsoSent.mono sent le_rfl)

/-- What is sent would be sent as itself. -/
theorem SentAs.again (sent : SentAs x q) (same : y.value = q) : SentAs y q := by
  obtain ⟨n, rfl, -⟩ := sent
  refine ⟨n, rfl, ?_⟩
  rw [same, div_mul_cancel₀ _ (by positivity)]
  simpa using Decimal.nearestEven_below (n := n) le_rfl (by norm_num)

/-! ## The amount that is written -/

/-- The amount whose text is sent. -/
def rounded (x : Decimal) : Decimal := (x.roundTo .even 8).normalize

theorem amountText_eq (x : Decimal) : amountText x = (rounded x).text := rfl

theorem isNormal_rounded (x : Decimal) : (rounded x).IsNormal := Decimal.isNormal_normalize _

theorem scale_rounded_le (x : Decimal) : (rounded x).scale ≤ 8 := by
  have few : (x.roundTo .even 8).scale ≤ 8 := by
    rw [Decimal.roundTo]
    split
    · exact le_rfl
    · exact Nat.not_lt.mp ‹_›
  rw [rounded, Decimal.normalize]
  split
  · exact Nat.zero_le 8
  · exact (Decimal.stripZeros_snd_le _ _).trans few

section Unsigned

variable (unsigned : x.negative = false)
include unsigned

theorem rounded_unsigned : (rounded x).negative = false := by
  apply Decimal.normalize_unsigned
  rw [Decimal.roundTo]
  split
  · exact unsigned
  · exact unsigned

theorem sentAs_value_rounded : SentAs x (rounded x).value := by
  obtain ⟨n, value, nearest⟩ := Decimal.nearestEven_roundTo unsigned 8
  rw [rounded, Decimal.value_normalize]
  exact ⟨n, value, nearest⟩

/-- Amounts that are sent as one number are written in one way. -/
theorem amountText_congr (alsoUnsigned : y.negative = false) (sent : SentAs x q)
    (alsoSent : SentAs y q) : amountText x = amountText y := by
  have same : rounded x = rounded y := by
    apply (isNormal_rounded x).eq_of_value_eq (isNormal_rounded y)
    rw [(sentAs_value_rounded unsigned).unique sent,
      (sentAs_value_rounded alsoUnsigned).unique alsoSent]
  rw [amountText_eq, amountText_eq, same]

end Unsigned

/-- A positive amount is written as the shortest plain numeral of the number that it is sent as: of one
text for one value, the same text when it is read and written again, and larger for larger amounts. -/
theorem amountText_shortest (positive : 0 < x.value) :
    ∃ q, Text.Numeral (amountText x) q ∧ Text.ShortFraction 8 (amountText x) ∧ SentAs x q ∧
      (∀ y : Decimal, y.value = x.value → amountText y = amountText x) ∧
      (∃ y, Decimal.read (amountText x) = .ok y ∧ y.value = q ∧ amountText y = amountText x) ∧
      ∀ (y : Decimal) (r : ℚ), x.value ≤ y.value → Text.Numeral (amountText y) r → q ≤ r := by
  have unsigned := Decimal.unsigned_of_value_pos positive
  have stillUnsigned := rounded_unsigned unsigned
  have sent := sentAs_value_rounded unsigned
  refine ⟨(rounded x).value, Decimal.numeral_text stillUnsigned,
    (isNormal_rounded x).shortFraction stillUnsigned (scale_rounded_le x), sent, ?same, ?again, ?larger⟩
  case same =>
    intro y same
    have alsoUnsigned := Decimal.unsigned_of_value_pos (same ▸ positive)
    have alsoSent : SentAs y (rounded x).value := by
      rw [SentAs, same]
      exact sent
    exact amountText_congr alsoUnsigned unsigned alsoSent sent
  case again =>
    have readBack := Decimal.read_text (rounded x)
    have unchanged : (rounded x).unsignedZero = rounded x := by
      rw [Decimal.unsignedZero, Decimal.abs]
      split
      · rw [← stillUnsigned]
      · rfl
    rw [unchanged] at readBack
    exact ⟨rounded x, readBack, rfl, amountText_congr stillUnsigned unsigned (sent.again rfl) sent⟩
  case larger =>
    intro y r less numeral
    have alsoUnsigned := Decimal.unsigned_of_value_pos (positive.trans_le less)
    have alsoNumeral := Decimal.numeral_text (rounded_unsigned alsoUnsigned)
    rw [numeral.unique alsoNumeral]
    exact sent.mono (sentAs_value_rounded alsoUnsigned) less

/-- A tie that lifts every digit behind the point. -/
def nines : Decimal := .ofPlaces 999999995 9

/-- It is written as one. -/
theorem amountText_shortest_nines :
    0 < nines.value ∧ amountText nines = "1" ∧ SentAs nines 1 ∧ Text.ShortFraction 8 "1" ∧
      ∃ y, Decimal.read "1" = .ok y ∧ y.value = 1 ∧ amountText y = "1" := by
  have value : nines.value = 999999995 / 10 ^ 9 := by
    rw [nines, Decimal.value_ofPlaces (by decide)]
    norm_num
  have positive : 0 < nines.value := by rw [value]; norm_num
  have text : amountText nines = "1" := by decide +kernel
  have one : Text.Numeral "1" 1 :=
    ⟨['1'], [], List.cons_ne_nil _ _, List.forall_mem_singleton.mpr rfl, rfl,
      by simp [Text.digitsValue, Text.digitValue]⟩
  obtain ⟨q, numeral, short, sent, -, again, -⟩ := amountText_shortest positive
  rw [text] at numeral short again
  obtain rfl := numeral.unique one
  exact ⟨positive, text, sent, short, again⟩

end Bittrex

end VenueGateway
