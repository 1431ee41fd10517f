import VenueGateway.Json.Reader
import VenueGateway.Proofs.Binary64.Decimals
import VenueGateway.Proofs.Json.Record

/-! # Amounts written as JSON numbers

A literal without an exponent is read wherever a value is: as an integer if it is a whole number of 64
bits, and else as the double that a single division makes of its digits and a power of ten. The division
is exact up to its rounding while both fit in 53 bits. Where the decimals of as many places lie apart,
the double's text is the literal's number again, so nothing is lost on the way to an amount.
-/

namespace VenueGateway.Json

/-! ## Literals -/

/-- A number as JSON writes it when it has no exponent: digits without a zero in front, perhaps with a
sign and with a fraction. -/
structure Literal where
  negative : Bool
  whole : List Char
  fraction : List Char
  digits : ∀ c ∈ whole ++ fraction, c.isDigit = true
  some_digits : whole ≠ []
  no_zero : whole.head? = some '0' → whole = ['0']

namespace Literal

variable (d : Literal)

def chars : List Char :=
  (if d.negative then ['-'] else []) ++ d.whole ++
    if d.fraction = [] then [] else '.' :: d.fraction

/-- All digits of a literal as one number. -/
def significand : ℕ := Nat.ofDigitChars 10 (d.whole ++ d.fraction) 0

/-- The number that a literal writes. -/
def value : ℚ :=
  let magnitude : ℚ := d.significand / 10 ^ d.fraction.length
  if d.negative then -magnitude else magnitude

/-- Literals that lose nothing: whole numbers of 64 bits, and fractions below a power of two up to which
the doubles lie closer together than all decimals of as many places. -/
inductive Kept : Prop
  | whole : d.fraction = [] → -2 ^ 63 ≤ d.value → d.value < 2 ^ 64 → Kept
  | fraction {m : ℕ} : d.fraction ≠ [] → |d.value| < 2 ^ m →
    2 ^ m * 10 ^ d.fraction.length < 2 ^ 53 → Kept

end Literal

/-- What does not continue a number that stands in front of it. -/
def Ends (rest : List Char) : Prop := ∀ c ∈ rest.head?, c.isDigit = false ∧ c ∉ ['.', 'e', 'E']

/-- Wherever a value is read and the literal stands, blanks in front of it or not, it is this value. -/
def Literal.ReadsAs (d : Literal) (json : Json) : Prop :=
  ∀ fuel depth blanks rest, (∀ c ∈ blanks, isSpace c = true) → Ends rest →
    readValue (fuel + 1) depth (blanks ++ d.chars ++ rest) = .ok (json, rest)

variable {d : Literal} {digits rest : List Char} {negative : Bool}

theorem Literal.ReadsAs.unique {json other : Json} (reads : d.ReadsAs json)
    (alsoReads : d.ReadsAs other) : json = other := by
  have ends : Ends [] := by rintro c ⟨⟩
  have here := reads 0 0 [] [] (List.forall_mem_nil _) ends
  have there := alsoReads 0 0 [] [] (List.forall_mem_nil _) ends
  exact congrArg Prod.fst (Except.ok.inj (here.symm.trans there))

/-! ## Digits -/

/-- Digits are gathered while they fit in 64 bits. -/
theorem gather_append {significand : ℕ} (kept : ℕ) (each : ∀ c ∈ digits, c.isDigit = true)
    (ends : ∀ c ∈ rest.head?, c.isDigit = false)
    (fits : Nat.ofDigitChars 10 digits significand < 2 ^ 64) :
    gather significand kept 0 (digits ++ rest) =
      ⟨Nat.ofDigitChars 10 digits significand, kept + digits.length, 0, rest⟩ := by
  induction digits generalizing significand kept with
  | nil =>
    cases rest with
    | nil => rfl
    | cons c rest =>
      have stop : c.isDigit = false := ends c rfl
      rw [List.nil_append, gather, stop, if_neg Bool.false_ne_true]
      rfl
  | cons c digits ih =>
    rw [Text.ofDigitChars_cons] at fits ⊢
    have longer : significand * 10 + Text.digitValue c < UInt64.size :=
      (Text.le_ofDigitChars digits _).trans_lt fits
    rw [List.cons_append, gather, if_pos (each c List.mem_cons_self)]
    simp only [longer, decide_true, Bool.and_self, if_true]
    rw [ih (kept + 1) (fun d member => each d (List.mem_cons_of_mem _ member)) fits, List.length_cons]
    congr 1
    omega

/-- The whole part of a literal is gathered, the zero by itself. -/
theorem readDigits_whole (d : Literal) (negative : Bool) (rest : List Char)
    (ends : ∀ c ∈ rest.head?, c.isDigit = false)
    (fits : Nat.ofDigitChars 10 d.whole 0 < 2 ^ 64) :
    ∃ kept, readDigits negative (d.whole ++ rest) =
      finishNumber negative ⟨Nat.ofDigitChars 10 d.whole 0, kept, 0, rest⟩ := by
  have each : ∀ c ∈ d.whole, c.isDigit = true := fun c member => d.digits c (List.mem_append_left _ member)
  have no_zero := d.no_zero
  obtain ⟨c, more, front⟩ := List.exists_cons_of_ne_nil d.some_digits
  by_cases zero : c = '0'
  · have alone : d.whole = ['0'] := no_zero (by rw [front, zero]; rfl)
    refine ⟨1, ?_⟩
    rw [alone]
    cases rest with
    | nil => rfl
    | cons c rest =>
      have stop : c.isDigit = false := ends c rfl
      rw [List.singleton_append, readDigits]
      simp only [stop, Bool.false_eq_true, if_false]
      rfl
  · refine ⟨0 + d.whole.length, ?_⟩
    rw [← gather_append 0 each ends fits, front, List.cons_append, readDigits,
      if_pos (each c (front ▸ List.mem_cons_self))]
    exact fun same => absurd same zero

/-! ## Doubles -/

/-- A significand of 53 bits is divided once, by an exact power of ten. -/
theorem exists_scaled? {n k : ℕ} (pos : 0 < n) (small : n < 2 ^ 53) (behind : 0 < k)
    (power : 10 ^ k < 2 ^ 53) :
    ∃ x exponent, scaled? n (-(k : ℤ)) = some x ∧ x.negative = false ∧
      Binary64.RoundedAt exponent (n / 10 ^ k) x := by
  obtain ⟨x, made, xSign, xMagnitude⟩ := Binary64.exists_ofNat? pos small
  obtain ⟨y, tens, ySign, yMagnitude⟩ := Binary64.exists_ofNat? (Nat.pow_pos (by decide)) power
  push_cast at yMagnitude
  have positive : (0 : ℚ) < 10 ^ k := by positivity
  have one : (1 : ℚ) ≤ n := by exact_mod_cast pos
  have normal : (2 : ℚ) ^ (-1022 : ℤ) ≤ n / 10 ^ k := by
    have power : (10 : ℚ) ^ k < 2 ^ 53 := by exact_mod_cast power
    rw [le_div_iff₀ positive]
    calc (2 : ℚ) ^ (-1022 : ℤ) * 10 ^ k
      _ ≤ 2 ^ (-53 : ℤ) * 2 ^ 53 := by
        gcongr
        · norm_num
        · decide
      _ = 1 := by norm_num
      _ ≤ n := one
  have bounded : (n / 10 ^ k : ℚ) < 2 ^ 53 := by
    have small : (n : ℚ) < 2 ^ 53 := by exact_mod_cast small
    exact (div_le_self (by positivity) (one_le_pow₀ (by norm_num))).trans_lt small
  obtain ⟨z, exponent, divided, zSign, rounded⟩ := Binary64.exists_div? (x := x) (y := y)
    (xSign.trans ySign.symm) (by rwa [yMagnitude]) (by rwa [xMagnitude, yMagnitude])
    (by rwa [xMagnitude, yMagnitude])
  rw [xMagnitude, yMagnitude] at rounded
  refine ⟨z, exponent, ?_, zSign, rounded⟩
  have few : k < 16 := (Nat.pow_lt_pow_iff_right (a := 10) (by decide)).mp (power.trans (by decide))
  have once : (k - 1) / 308 = 0 := Nat.div_eq_of_lt (by omega)
  have nonzero : x.isZero = false := by
    apply decide_eq_false
    intro zero
    rw [Binary64.magnitude, zero, Nat.cast_zero, zero_mul] at xMagnitude
    linarith
  rw [scaled?, made]
  change (if 0 ≤ -(k : ℤ) then _ else _) = _
  rw [if_neg (by omega)]
  simp only [neg_neg, Int.toNat_natCast, once, divideDown, nonzero, Bool.false_eq_true, if_false,
    Nat.mul_zero, Nat.sub_zero, Binary64.powTen?_eq, tens]
  exact divided

theorem divideDown_zero (times : ℕ) (negative : Bool) :
    divideDown times (.zero negative) = .zero negative := by
  cases times <;> rfl

/-- Decimals that lie apart are found again in the text of the double that is made of them. -/
theorem exists_scaled?_kept {n k m : ℕ} (behind : 0 < k) (less : n < 2 ^ m * 10 ^ k)
    (apart : 2 ^ m * 10 ^ k < 2 ^ 53) :
    ∃ x, scaled? n (-(k : ℤ)) = some x ∧ ∀ negative : Bool, ∃ y,
      Decimal.readChars (if negative then x.neg else x).plainText = .ok y ∧
        y.value = Binary64.signed negative (n / 10 ^ k) := by
  rcases Nat.eq_zero_or_pos n with rfl | pos
  · refine ⟨.zero false, ?_, fun negative => ?_⟩
    · have made : Binary64.ofNat? 0 = some (.zero false) := rfl
      rw [scaled?, made]
      change (if 0 ≤ -(k : ℤ) then _ else _) = _
      rw [if_neg (by omega)]
      simp only [divideDown_zero]
      rfl
    · have shown : (if negative then (Binary64.zero false).neg else .zero false) = .zero negative := by
        cases negative <;> rfl
      obtain ⟨y, read, value⟩ := Binary64.readChars_zero negative
      refine ⟨y, shown ▸ read, ?_⟩
      rw [value, Binary64.signed]
      simp
  · have power : 10 ^ k < 2 ^ 53 := (Nat.le_mul_of_pos_left _ (Nat.pow_pos (by decide))).trans_lt apart
    obtain ⟨x, exponent, made, sign, rounded⟩ := exists_scaled? pos (less.trans apart) behind power
    refine ⟨x, made, fun negative => ?_⟩
    cases negative with
    | false =>
      obtain ⟨y, read, value⟩ := rounded.readChars pos less apart
      exact ⟨y, read, sign ▸ value⟩
    | true =>
      have opposite : Binary64.RoundedAt exponent (n / 10 ^ k) x.neg :=
        ⟨rounded.low, rounded.high, rounded.least, rounded.rounds⟩
      have negSign : x.neg.negative = true := by
        rw [Binary64.neg, sign]
        rfl
      obtain ⟨y, read, value⟩ := opposite.readChars pos less apart
      exact ⟨y, read, negSign ▸ value⟩

/-! ## Literals in a text -/

theorem skipSpace_append {blanks cs : List Char} {c : Char} (blank : ∀ c ∈ blanks, isSpace c = true)
    (visible : isSpace c = false) : skipSpace (blanks ++ c :: cs) = c :: cs := by
  rw [skipSpace, List.dropWhile_append_of_pos blank, List.dropWhile_cons, visible, if_neg Bool.false_ne_true]

/-- A value that begins with a minus or a digit is read as a number. -/
theorem readValue_minus (fuel depth : ℕ) {cs : List Char} (front : skipSpace cs = '-' :: rest) :
    readValue (fuel + 1) depth cs = readDigits true rest := by
  unfold readValue
  rw [front]
  rfl

theorem readValue_digit (fuel depth : ℕ) {cs : List Char} {c : Char} (front : skipSpace cs = c :: rest)
    (digit : c.isDigit = true) : readValue (fuel + 1) depth cs = readDigits false (c :: rest) := by
  unfold readValue
  rw [front]
  dsimp only
  split
  all_goals first
    | exact absurd digit (by decide)
    | exact if_pos digit

theorem isSpace_of_isDigit {c : Char} (digit : c.isDigit = true) : isSpace c = false := by
  simp only [isSpace, Bool.or_eq_false_iff, decide_eq_false_iff_not]
  refine ⟨⟨⟨?_, ?_⟩, ?_⟩, ?_⟩ <;> rintro rfl <;> exact absurd digit (by decide)

/-- A literal is read wherever a value is, by its digits. -/
theorem readValue_literal {json : Json} {fuel depth : ℕ} {blanks : List Char}
    (blank : ∀ c ∈ blanks, isSpace c = true)
    (read : readDigits d.negative (d.whole ++ ((if d.fraction = [] then [] else '.' :: d.fraction) ++ rest)) =
      .ok (json, rest)) :
    readValue (fuel + 1) depth (blanks ++ d.chars ++ rest) = .ok (json, rest) := by
  obtain ⟨c, more, front⟩ := List.exists_cons_of_ne_nil d.some_digits
  have digit : c.isDigit = true := d.digits c (by rw [front]; exact List.mem_cons_self)
  rw [Literal.chars]
  cases sign : d.negative with
  | true =>
    rw [sign] at read
    simp only [if_true, List.append_assoc, List.cons_append, List.nil_append]
    rw [readValue_minus fuel depth (skipSpace_append blank (by decide)), read]
  | false =>
    rw [sign, front] at read
    simp only [front, Bool.false_eq_true, if_false, List.append_assoc, List.cons_append, List.nil_append]
      at read ⊢
    rw [readValue_digit fuel depth (skipSpace_append blank (isSpace_of_isDigit digit)) digit, read]

theorem toFloat_eq {significand : ℕ} {exponent : ℤ} {x : Binary64}
    (made : scaled? significand exponent = some x) (negative : Bool) (left : List Char) :
    toFloat negative significand exponent left = .ok (.float (if negative then x.neg else x), left) := by
  rw [toFloat, made]

theorem readFraction_of_digit {negative : Bool} {significand shift : ℕ} {c : Char} {rest : List Char}
    (digit : c.isDigit = true) :
    readFraction negative significand shift (c :: rest) =
      finishFloat negative (gather significand 0 0 (c :: rest)).significand
        (shift - (gather significand 0 0 (c :: rest)).kept) (gather significand 0 0 (c :: rest)).left :=
  if_pos digit

/-- A fraction is a double made of all its digits. -/
theorem readDigits_fraction (some_places : d.fraction ≠ []) (ends : Ends rest)
    (fits : d.significand < 2 ^ 64) (negative : Bool) :
    readDigits negative (d.whole ++ ('.' :: d.fraction ++ rest)) =
      toFloat negative d.significand (-(d.fraction.length : ℤ)) rest := by
  have each : ∀ c ∈ d.fraction, c.isDigit = true := fun c member => d.digits c (List.mem_append_right _ member)
  have split : d.significand = Nat.ofDigitChars 10 d.fraction (Nat.ofDigitChars 10 d.whole 0) :=
    Nat.ofDigitChars_append 0
  have wholeFits : Nat.ofDigitChars 10 d.whole 0 < 2 ^ 64 :=
    (Text.le_ofDigitChars d.fraction _).trans_lt (split ▸ fits)
  obtain ⟨kept, read⟩ := readDigits_whole d negative ('.' :: d.fraction ++ rest)
    (by rintro c ⟨⟩; decide) wholeFits
  have gathered := gather_append 0 each (fun c head => (ends c head).1) (split ▸ fits)
  have finished : finishFloat negative d.significand (-(d.fraction.length : ℤ)) rest =
      toFloat negative d.significand (-(d.fraction.length : ℤ)) rest := by
    cases rest with
    | nil => rfl
    | cons c rest =>
      have stop := (ends c rfl).2
      simp only [List.mem_cons, List.not_mem_nil, or_false, not_or] at stop
      rw [finishFloat]
      simp [stop]
  rw [read]
  change readFraction negative (Nat.ofDigitChars 10 d.whole 0) 0 (d.fraction ++ rest) = _
  obtain ⟨c, more, front⟩ := List.exists_cons_of_ne_nil some_places
  rw [front, List.cons_append] at gathered ⊢
  rw [readFraction_of_digit (each c (front ▸ List.mem_cons_self)), gathered, ← front]
  simp only [Nat.cast_zero, Nat.zero_add, zero_sub, ← split]
  exact finished

/-- A whole number that fits is kept as it is, but for the zero with a sign. -/
theorem readDigits_integer (no_places : d.fraction = []) (ends : Ends rest)
    (fits : d.significand < 2 ^ 64) (negative : Bool) :
    readDigits negative (d.whole ++ rest) =
      if !negative then .ok (.int d.significand, rest)
      else if d.significand = 0 || Nat.pow 2 63 < d.significand then toFloat true d.significand 0 rest
      else .ok (.int (-d.significand), rest) := by
  have whole : d.significand = Nat.ofDigitChars 10 d.whole 0 := by
    rw [Literal.significand, no_places, List.append_nil]
  obtain ⟨kept, read⟩ := readDigits_whole d negative rest (fun c head => (ends c head).1) (whole ▸ fits)
  rw [read, whole]
  cases rest with
  | nil => rfl
  | cons c rest =>
    have stop := (ends c rfl).2
    simp only [List.mem_cons, List.not_mem_nil, or_false, not_or] at stop
    rw [finishNumber]
    simp [stop]

/-- A whole number without a sign is read as it is wherever it stands. -/
theorem Literal.readsAs_integer (no_places : d.fraction = []) (unsigned : d.negative = false)
    (fits : d.significand < 2 ^ 64) : d.ReadsAs (.int d.significand) := by
  intro fuel depth blanks rest blank ends
  apply readValue_literal blank
  rw [if_pos no_places, List.nil_append, unsigned, readDigits_integer no_places ends fits]
  rfl

/-! ## Amounts -/

theorem Literal.value_eq (d : Literal) :
    d.value = Binary64.signed d.negative (d.significand / 10 ^ d.fraction.length) := rfl

theorem Literal.abs_value (d : Literal) : |d.value| = d.significand / 10 ^ d.fraction.length := by
  have magnitude : (0 : ℚ) ≤ d.significand / 10 ^ d.fraction.length := by positivity
  rw [value_eq, Binary64.signed]
  split
  · rw [abs_neg, abs_of_nonneg magnitude]
  · exact abs_of_nonneg magnitude

/-- A whole number of 64 bits is an amount. -/
theorem exists_amounts_int (value : ℤ) (fits : value.natAbs < 2 ^ 64) :
    ∃ x, Amounts (.int value) x ∧ x.value = value := by
  have limits : value.natAbs < Decimal.bound ∧ 0 ≤ 28 := ⟨fits.trans (by decide), by decide⟩
  refine ⟨⟨decide (value < 0), value.natAbs, 0, limits.1, limits.2⟩, .whole (dif_pos limits), ?_⟩
  rw [Binary64.value_eq_signed, Binary64.signed, pow_zero, div_one, Nat.cast_natAbs]
  simp only [decide_eq_true_eq]
  split
  · rename_i below
    rw [abs_of_neg below]
    push_cast
    exact neg_neg _
  · rename_i notBelow
    rw [abs_of_nonneg (not_lt.mp notBelow)]

/-- A whole number of 64 bits is read as an amount of its value. -/
theorem exists_reads_whole (no_places : d.fraction = []) (low : -2 ^ 63 ≤ d.value) (high : d.value < 2 ^ 64) :
    ∃ json, d.ReadsAs json ∧ ∃ x, Amounts json x ∧ x.value = d.value := by
  have reads : ∀ {json : Json}, (∀ rest, Ends rest → readDigits d.negative (d.whole ++ rest) =
      .ok (json, rest)) → d.ReadsAs json := by
    intro json read fuel depth blanks rest blank ends
    apply readValue_literal blank
    rw [if_pos no_places, List.nil_append, read rest ends]
  rw [Literal.value_eq, no_places, List.length_nil, pow_zero, div_one, Binary64.signed] at low high ⊢
  cases sign : d.negative with
  | false =>
    rw [sign] at low high
    simp only [Bool.false_eq_true, if_false] at low high ⊢
    have fits : d.significand < 2 ^ 64 := by exact_mod_cast high
    obtain ⟨x, amounts, value⟩ := exists_amounts_int d.significand fits
    exact ⟨.int d.significand, Literal.readsAs_integer no_places sign fits, x, amounts,
      by exact_mod_cast value⟩
  | true =>
    rw [sign] at low high
    simp only [if_true, neg_le_neg_iff] at low high ⊢
    have small : d.significand ≤ 2 ^ 63 := by exact_mod_cast low
    have fits : d.significand < 2 ^ 64 := small.trans_lt (by decide)
    by_cases zero : d.significand = 0
    · obtain ⟨x, read, value⟩ := Binary64.readChars_zero true
      refine ⟨.float (.zero true), reads fun rest ends => ?_, x, .fraction read, by simp [value, zero]⟩
      have made : scaled? 0 0 = some (.zero false) := by decide
      rw [sign, readDigits_integer no_places ends fits, zero]
      simp only [Bool.not_true, Bool.false_eq_true, if_false, decide_true, Bool.true_or, if_true]
      exact toFloat_eq made true rest
    · obtain ⟨x, amounts, value⟩ := exists_amounts_int (-d.significand)
        (by rwa [Int.natAbs_neg, Int.natAbs_natCast])
      refine ⟨.int (-d.significand), reads fun rest ends => ?_, x, amounts, by exact_mod_cast value⟩
      have inside : (decide (d.significand = 0) || decide (Nat.pow 2 63 < d.significand)) = false := by
        rw [Bool.or_eq_false_iff, decide_eq_false_iff_not, decide_eq_false_iff_not, Nat.pow_eq]
        exact ⟨zero, small.not_gt⟩
      rw [sign, readDigits_integer no_places ends fits, inside]
      rfl

/-- A fraction that lies apart is read as an amount of its value. -/
theorem exists_reads_fraction {m : ℕ} (some_places : d.fraction ≠ []) (less : |d.value| < 2 ^ m)
    (apart : 2 ^ m * 10 ^ d.fraction.length < 2 ^ 53) :
    ∃ json, d.ReadsAs json ∧ ∃ x, Amounts json x ∧ x.value = d.value := by
  have positive : (0 : ℚ) < 10 ^ d.fraction.length := by positivity
  rw [Literal.abs_value, div_lt_iff₀ positive] at less
  have bounded : d.significand < 2 ^ m * 10 ^ d.fraction.length := by exact_mod_cast less
  have fits : d.significand < 2 ^ 64 := (bounded.trans apart).trans (by decide)
  obtain ⟨x, made, reads⟩ := exists_scaled?_kept (List.length_pos_of_ne_nil some_places) bounded apart
  obtain ⟨y, read, value⟩ := reads d.negative
  refine ⟨.float (if d.negative then x.neg else x), ?_, y, .fraction read, value⟩
  intro fuel depth blanks rest blank ends
  apply readValue_literal blank
  rw [if_neg some_places, readDigits_fraction some_places ends fits, toFloat_eq made]

/-- What is kept is read wherever it stands, and is the amount that it writes. -/
theorem Literal.Kept.exists_reads (kept : d.Kept) :
    ∃ json, d.ReadsAs json ∧ ∃ x, Amounts json x ∧ x.value = d.value := by
  cases kept with
  | whole no_places low high => exact exists_reads_whole no_places low high
  | fraction some_places less apart => exact exists_reads_fraction some_places less apart

end VenueGateway.Json
