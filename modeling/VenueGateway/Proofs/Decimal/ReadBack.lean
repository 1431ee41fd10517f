import VenueGateway.Decimal.Reader
import VenueGateway.Proofs.Decimal.NormalForm
import VenueGateway.Proofs.Decimal.Numeral

/-! # Amounts read back from their texts

The reader takes up digits as long as they fit, and the digits of an amount do. So the text of an
amount reads as the amount itself, with its scale; only a zero comes back without its sign.
-/

namespace VenueGateway

namespace Text

theorem digit?_of_isDigit {c : Char} (digit : c.isDigit = true) : digit? c = some (digitValue c) :=
  if_pos digit

/-- More digits do not make a number smaller. -/
theorem le_ofDigitChars (digits : List Char) (before : ℕ) :
    before ≤ Nat.ofDigitChars 10 digits before := by
  induction digits generalizing before with
  | nil => exact le_rfl
  | cons c digits ih =>
    rw [ofDigitChars_cons]
    exact le_trans (by omega) (ih _)

end Text

namespace Decimal

/-- One more digit is taken up where it fits. -/
theorem exists_push? {x : Decimal} {afterPoint : Bool} {digit : ℕ}
    (fits : x.mantissa * 10 + digit < bound)
    (shallow : (if afterPoint then x.scale + 1 else x.scale) ≤ 28) :
    ∃ longer, x.push? afterPoint digit = some longer ∧ longer.negative = x.negative ∧
      longer.mantissa = x.mantissa * 10 + digit ∧
      longer.scale = if afterPoint then x.scale + 1 else x.scale :=
  ⟨⟨x.negative, _, _, fits, shallow⟩, dif_pos ⟨fits, shallow⟩, rfl, rfl, rfl⟩

/-- Digits that lead to an amount are taken up on the way to it. -/
theorem readDigits_append {x y : Decimal} {digits : List Char} (seenPoint seenDigit : Bool)
    (rest : List Char) (each : ∀ c ∈ digits, c.isDigit = true) (sign : y.negative = x.negative)
    (mantissa : y.mantissa = Nat.ofDigitChars 10 digits x.mantissa)
    (scale : y.scale = if seenPoint then x.scale + digits.length else x.scale) :
    readDigits x seenPoint seenDigit (digits ++ rest) =
      readDigits y seenPoint (seenDigit || !digits.isEmpty) rest := by
  induction digits generalizing x seenDigit with
  | nil =>
    obtain rfl : y = x := by
      apply eq_of_parts sign mantissa
      rw [scale, List.length_nil, Nat.add_zero, ite_self]
    simp
  | cons c digits ih =>
    have digit := Text.digit?_of_isDigit (each c List.mem_cons_self)
    rw [Text.ofDigitChars_cons] at mantissa
    have fits : x.mantissa * 10 + Text.digitValue c < bound := by
      apply lt_of_le_of_lt _ y.mantissa_lt
      rw [mantissa]
      exact Text.le_ofDigitChars digits _
    have shallow : (if seenPoint then x.scale + 1 else x.scale) ≤ 28 := by
      apply le_trans _ y.scale_le
      rw [scale, List.length_cons]
      split <;> omega
    obtain ⟨longer, pushed, longerSign, longerMantissa, longerScale⟩ := exists_push? fits shallow
    rw [List.cons_append, readDigits, digit]
    simp only [pushed]
    rw [ih true (fun d member => each d (List.mem_cons_of_mem _ member)) (longerSign ▸ sign)
      (longerMantissa ▸ mantissa)]
    · simp
    · rw [scale, longerScale, List.length_cons]
      split
      · omega
      · rfl

/-- Digits with a point in front of the last of them read as the amount that they write. -/
theorem readDigits_numeral {whole fraction : List Char} {y : Decimal}
    (each : ∀ c ∈ whole ++ fraction, c.isDigit = true) (some_digits : whole ≠ [])
    (mantissa : y.mantissa = Text.digitsValue (whole ++ fraction)) (scale : y.scale = fraction.length) :
    readDigits { zero with negative := y.negative } false false
      (whole ++ if fraction = [] then [] else '.' :: fraction) = .ok y.unsignedZero := by
  rw [Text.digitsValue_eq, Nat.ofDigitChars_append] at mantissa
  have fits : Nat.ofDigitChars 10 whole 0 < bound := by
    apply lt_of_le_of_lt _ y.mantissa_lt
    rw [mantissa]
    exact Text.le_ofDigitChars fraction _
  have wholeRead := readDigits_append (x := { zero with negative := y.negative })
    (y := ⟨y.negative, _, 0, fits, by decide⟩) false false
    (if fraction = [] then [] else '.' :: fraction)
    (fun c member => each c (List.mem_append_left _ member)) rfl rfl rfl
  rw [wholeRead, List.isEmpty_eq_false_iff.mpr some_digits]
  split
  · rename_i none
    rw [none, Nat.ofDigitChars_nil] at mantissa
    rw [none, List.length_nil] at scale
    rw [eq_of_parts (x := ⟨y.negative, _, 0, fits, by decide⟩) (y := y) rfl mantissa.symm scale.symm]
    rfl
  · have fractionRead := readDigits_append (x := ⟨y.negative, _, 0, fits, by decide⟩) (y := y) true true []
      (fun c member => each c (List.mem_append_right _ member)) rfl mantissa
      (by rw [scale, if_pos rfl, Nat.zero_add])
    rw [List.append_nil] at fractionRead
    exact fractionRead

theorem readPlain_of_digit {c : Char} {rest : List Char} (digit : c.isDigit = true) :
    readPlain (c :: rest) = readDigits zero false false (c :: rest) := by
  rw [readPlain]
  · exact nofun
  · rintro _ ⟨⟩
    exact absurd digit (by decide)
  · rintro _ ⟨⟩
    exact absurd digit (by decide)

theorem readChars_numeral {whole fraction : List Char} {y : Decimal}
    (each : ∀ c ∈ whole ++ fraction, c.isDigit = true) (some_digits : whole ≠ [])
    (mantissa : y.mantissa = Text.digitsValue (whole ++ fraction)) (scale : y.scale = fraction.length) :
    readChars ((if y.negative then ['-'] else []) ++
      (whole ++ if fraction = [] then [] else '.' :: fraction)) = .ok y.unsignedZero := by
  have digits := readDigits_numeral each some_digits mantissa scale
  have plain : readPlain ((if y.negative then ['-'] else []) ++
      (whole ++ if fraction = [] then [] else '.' :: fraction)) = .ok y.unsignedZero := by
    cases sign : y.negative with
    | true =>
      rw [sign] at digits
      exact digits
    | false =>
      rw [sign] at digits
      obtain ⟨c, rest, rfl⟩ := List.exists_cons_of_ne_nil some_digits
      exact (readPlain_of_digit (each c List.mem_cons_self)).trans digits
  rw [readChars, plain]

theorem value_unsignedZero (x : Decimal) : x.unsignedZero.value = x.value := by
  rw [unsignedZero]
  split
  · rename_i zero
    simp [value, abs, zero]
  · rfl

/-- The text of an amount reads as the amount. -/
theorem read_text (x : Decimal) : read x.text = .ok x.unsignedZero := by
  have each : ∀ c ∈ Nat.toDigits 10 (x.mantissa / 10 ^ x.scale) ++ lastDigits x.scale x.mantissa,
      c.isDigit = true :=
    List.forall_mem_append.mpr ⟨fun c => Nat.isDigit_of_mem_toDigits (by decide) (by decide),
      fun c => isDigit_of_mem_lastDigits⟩
  have whole_iff : lastDigits x.scale x.mantissa = [] ↔ x.scale = 0 := by
    rw [← List.length_eq_zero_iff, length_lastDigits]
  have readBack := readChars_numeral (y := x) each Nat.toDigits_ne_nil
    (digitsValue_magnitude x.mantissa x.scale).symm (length_lastDigits x.scale x.mantissa).symm
  rw [read, text, String.toList_ofList, magnitudeText, Nat.pow_eq]
  simpa only [whole_iff] using readBack

end Decimal

end VenueGateway
