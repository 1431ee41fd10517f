import VenueGateway.Proofs.Decimal.Value
import VenueGateway.Text.Digits

/-! # Amounts as numerals

A plain numeral is a row of digits, or two of them with a point between. The text of an amount that is
not negative is the numeral of its value; it has as many digits behind the point as the amount has.
-/

namespace VenueGateway

namespace Text

/-- A text that writes the number `q` in digits, with a point in front of a fraction if there is one:
no sign, no exponent, no separators. -/
def Numeral (text : String) (q : ℚ) : Prop :=
  ∃ whole fraction : List Char, whole ≠ [] ∧ (∀ c ∈ whole ++ fraction, c.isDigit = true) ∧
    text.toList = whole ++ (if fraction = [] then [] else '.' :: fraction) ∧
    q = digitsValue (whole ++ fraction) / 10 ^ fraction.length

/-- A text writes one number. -/
theorem Numeral.unique {text : String} {q r : ℚ} (first : Numeral text q) (second : Numeral text r) :
    q = r := by
  have parts : ∀ {whole fraction : List Char}, (∀ c ∈ whole ++ fraction, c.isDigit = true) →
      text.toList = whole ++ (if fraction = [] then [] else '.' :: fraction) →
        text.toList.takeWhile Char.isDigit = whole ∧
          (text.toList.dropWhile Char.isDigit).drop 1 = fraction := by
    intro whole fraction digits written
    have front : ∀ c ∈ whole, c.isDigit = true := fun c member => digits c (List.mem_append_left _ member)
    rw [written, List.takeWhile_append_of_pos front, List.dropWhile_append_of_pos front]
    split
    · rename_i none
      simp [none]
    · simp [show Char.isDigit '.' = false from rfl]
  obtain ⟨whole, fraction, -, digits, written, rfl⟩ := first
  obtain ⟨whole', fraction', -, digits', written', rfl⟩ := second
  obtain ⟨front, back⟩ := parts digits written
  obtain ⟨front', back'⟩ := parts digits' written'
  rw [← front, ← back, ← front', ← back']

theorem digitsValue_eq (digits : List Char) : digitsValue digits = Nat.ofDigitChars 10 digits 0 := by
  rw [digitsValue, Nat.ofDigitChars_eq_foldl]
  congr 1
  funext n c
  rw [Nat.mul_comm, digitValue]

theorem ofDigitChars_cons (c : Char) (digits : List Char) (before : ℕ) :
    Nat.ofDigitChars 10 (c :: digits) before =
      Nat.ofDigitChars 10 digits (before * 10 + digitValue c) := by
  rw [Nat.ofDigitChars_cons, Nat.mul_comm, digitValue]

theorem digitValue_lt {c : Char} (digit : c.isDigit = true) : digitValue c < 10 := by
  obtain ⟨low, high⟩ := Char.isDigit_iff_toNat.mp digit
  change c.toNat ≤ 57 at high
  change c.toNat - 48 < 10
  omega

theorem digitValue_inj {c d : Char} (digit : c.isDigit = true) (alsoDigit : d.isDigit = true) :
    digitValue c = digitValue d ↔ c = d := by
  refine ⟨?_, congrArg digitValue⟩
  intro same
  obtain ⟨low, -⟩ := Char.isDigit_iff_toNat.mp digit
  obtain ⟨alsoLow, -⟩ := Char.isDigit_iff_toNat.mp alsoDigit
  change 48 ≤ c.toNat at low
  change 48 ≤ d.toNat at alsoLow
  change c.toNat - 48 = d.toNat - 48 at same
  exact Char.toNat_inj.mp (by omega)

theorem ofDigitChars_lt {digits : List Char} (each : ∀ c ∈ digits, c.isDigit = true) (before : ℕ) :
    Nat.ofDigitChars 10 digits before < (before + 1) * 10 ^ digits.length := by
  induction digits generalizing before with
  | nil => simp
  | cons c digits ih =>
    have digit : digitValue c < 10 := digitValue_lt (each c List.mem_cons_self)
    rw [ofDigitChars_cons]
    calc Nat.ofDigitChars 10 digits (before * 10 + digitValue c)
      _ < (before * 10 + digitValue c + 1) * 10 ^ digits.length :=
        ih (fun d member => each d (List.mem_cons_of_mem _ member)) _
      _ ≤ (before + 1) * 10 * 10 ^ digits.length := Nat.mul_le_mul_right _ (by omega)
      _ = (before + 1) * 10 ^ (c :: digits).length := by rw [List.length_cons, pow_succ']; ring

/-- Rows of equally many digits that write one number behind others are one row. -/
theorem ofDigitChars_inj {digits others : List Char} {before otherBefore : ℕ}
    (length : digits.length = others.length) (each : ∀ c ∈ digits, c.isDigit = true)
    (eachOther : ∀ c ∈ others, c.isDigit = true) :
    Nat.ofDigitChars 10 digits before = Nat.ofDigitChars 10 others otherBefore ↔
      before = otherBefore ∧ digits = others := by
  induction digits generalizing others before otherBefore with
  | nil =>
    obtain rfl := List.length_eq_zero_iff.mp length.symm
    simp
  | cons c digits ih =>
    obtain ⟨d, others, rfl⟩ := List.exists_cons_of_length_eq_add_one length.symm
    have digit := each c List.mem_cons_self
    have otherDigit := eachOther d List.mem_cons_self
    rw [ofDigitChars_cons, ofDigitChars_cons, ih (Nat.succ_inj.mp length)
      (fun d member => each d (List.mem_cons_of_mem _ member))
      (fun d member => eachOther d (List.mem_cons_of_mem _ member)), List.cons.injEq,
      ← digitValue_inj digit otherDigit]
    have small := digitValue_lt digit
    have otherSmall := digitValue_lt otherDigit
    constructor
    · rintro ⟨next, rest⟩
      exact ⟨by omega, by omega, rest⟩
    · rintro ⟨same, head, rest⟩
      exact ⟨by omega, rest⟩

end Text

namespace Decimal

/-! ## Digits -/

theorem length_lastDigits (count n : ℕ) : (lastDigits count n).length = count := by
  induction count generalizing n with
  | zero => rfl
  | succ count ih => rw [lastDigits, List.length_append, ih, List.length_singleton]

theorem isDigit_of_mem_lastDigits {count n : ℕ} {c : Char} (member : c ∈ lastDigits count n) :
    c.isDigit = true := by
  induction count generalizing n with
  | zero => cases member
  | succ count ih =>
    rw [lastDigits] at member
    rcases List.mem_append.mp member with member | member
    · exact ih member
    · obtain rfl := List.mem_singleton.mp member
      have digits : ∀ k < 10, (Nat.digitChar k).isDigit = true := by decide
      exact digits _ (Nat.mod_lt _ (by decide))

/-- The last digits continue the digits in front of them. -/
theorem ofDigitChars_lastDigits (count n before : ℕ) :
    Nat.ofDigitChars 10 (lastDigits count n) before = 10 ^ count * before + n % 10 ^ count := by
  induction count generalizing n with
  | zero => simp [lastDigits, Nat.mod_one]
  | succ count ih =>
    rw [lastDigits, Nat.ofDigitChars_append, ih,
      Nat.ofDigitChars_cons_digitChar_of_lt_ten (Nat.mod_lt n (by decide)), Nat.ofDigitChars_nil,
      pow_succ', Nat.mod_mul]
    ring

/-- Zeros in front fill up the digits of a number. -/
theorem replicate_append_toDigits {count n : ℕ} (pos : 0 < count) (small : n < 10 ^ count) :
    List.replicate (count - (Nat.toDigits 10 n).length) '0' ++ Nat.toDigits 10 n =
      lastDigits count n := by
  have fits : (Nat.toDigits 10 n).length ≤ count :=
    (Nat.length_toDigits_le_iff (by decide) pos).mpr small
  have length : (List.replicate (count - (Nat.toDigits 10 n).length) '0' ++ Nat.toDigits 10 n).length =
      (lastDigits count n).length := by
    rw [List.length_append, List.length_replicate, length_lastDigits, Nat.sub_add_cancel fits]
  have digits : ∀ c ∈ List.replicate (count - (Nat.toDigits 10 n).length) '0' ++ Nat.toDigits 10 n,
      c.isDigit = true := by
    intro c member
    rcases List.mem_append.mp member with zero | member
    · rw [List.eq_of_mem_replicate zero]
      rfl
    · exact Nat.isDigit_of_mem_toDigits (by decide) (by decide) member
  have value : Nat.ofDigitChars 10
      (List.replicate (count - (Nat.toDigits 10 n).length) '0' ++ Nat.toDigits 10 n) 0 =
        Nat.ofDigitChars 10 (lastDigits count n) 0 := by
    rw [Nat.ofDigitChars_append, Nat.ofDigitChars_replicate_zero, Nat.mul_zero,
      Nat.ofDigitChars_ten_toDigits, ofDigitChars_lastDigits, Nat.mul_zero, Nat.zero_add,
      Nat.mod_eq_of_lt small]
  exact ((Text.ofDigitChars_inj length digits fun _ => isDigit_of_mem_lastDigits).mp value).2

/-- The digits of an amount write its mantissa. -/
theorem digitsValue_magnitude (mantissa scale : ℕ) :
    Text.digitsValue (Nat.toDigits 10 (mantissa / 10 ^ scale) ++ lastDigits scale mantissa) =
      mantissa := by
  rw [Text.digitsValue_eq, Nat.ofDigitChars_append, Nat.ofDigitChars_ten_toDigits,
    ofDigitChars_lastDigits, Nat.div_add_mod]

/-! ## Texts -/

theorem numeral_text {x : Decimal} (unsigned : x.negative = false) :
    Text.Numeral x.text x.value := by
  refine ⟨Nat.toDigits 10 (x.mantissa / 10 ^ x.scale), lastDigits x.scale x.mantissa,
    Nat.toDigits_ne_nil, ?digits, ?text, ?value⟩
  case digits =>
    intro c member
    rcases List.mem_append.mp member with member | member
    · exact Nat.isDigit_of_mem_toDigits (by decide) (by decide) member
    · exact isDigit_of_mem_lastDigits member
  case text =>
    have empty : lastDigits x.scale x.mantissa = [] ↔ x.scale = 0 := by
      rw [← List.length_eq_zero_iff, length_lastDigits]
    rw [text, unsigned, String.toList_ofList, magnitudeText]
    simp only [Bool.false_eq_true, ↓reduceIte, List.nil_append, empty, Nat.pow_eq]
  case value => rw [value_of_unsigned unsigned, digitsValue_magnitude, length_lastDigits]

end Decimal

end VenueGateway
