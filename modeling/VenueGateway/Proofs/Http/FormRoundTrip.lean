import VenueGateway.Http.Form
import VenueGateway.Proofs.Text.Bytes

/-! # Reading form encoding back

Decoding undoes encoding, byte by byte, then text by text, then pair by pair. The separators `=` and
`&` cannot be confused with what they separate, because an encoded text is made of the characters
of `IsFormChar` alone.
-/

namespace VenueGateway.Form

/-- The characters that encoded texts are made of. -/
def IsFormChar (c : Char) : Prop := c.isAlphanum = true ∨ c ∈ ['*', '-', '.', '_', '+', '%']

theorem not_isFormChar {c : Char} (separator : c ∈ ['=', '&', '?']) :
    ¬ IsFormChar c := by
  rw [IsFormChar]
  simp only [List.mem_cons, List.not_mem_nil, or_false] at separator
  rcases separator with rfl | rfl | rfl
  · decide
  · decide
  · decide

private theorem isAlphanum_upperHexDigit (n : ℕ) : (Text.upperHexDigit n).isAlphanum = true := by
  have table : ∀ k < 16, (Nat.digitChar k).toUpper.isAlphanum = true := by decide
  exact table _ (Nat.mod_lt _ (by decide))

private theorem isFormChar_of_mem_encodeByte {b : UInt8} {c : Char} (member : c ∈ encodeByte b) :
    IsFormChar c := by
  rw [encodeByte] at member
  split at member
  · rename_i plain
    obtain rfl := List.mem_singleton.mp member
    simp only [isPlain, Bool.and_eq_true, Bool.or_eq_true, decide_eq_true_eq] at plain
    rcases plain.2 with (((alphanum | star) | dash) | dot) | underscore
    · exact .inl alphanum
    all_goals simp_all [IsFormChar]
  · split at member
    · obtain rfl := List.mem_singleton.mp member
      exact .inr (by decide)
    · simp only [Percent.escape, List.mem_cons, List.not_mem_nil, or_false] at member
      rcases member with rfl | rfl | rfl
      · exact .inr (by decide)
      · exact .inl (isAlphanum_upperHexDigit _)
      · exact .inl (isAlphanum_upperHexDigit _)

/-- An encoded text is made of form characters. -/
theorem isFormChar_of_mem_encode {s : String} {c : Char} (member : c ∈ encode s) :
    IsFormChar c := by
  obtain ⟨b, -, member⟩ := List.mem_flatMap.mp member
  exact isFormChar_of_mem_encodeByte member

/-! ## Bytes and texts -/

private theorem decode_cons {c : Char} (notPercent : c ≠ '%') (rest : List Char) :
    Percent.decode (c :: rest) = Text.utf8 (String.singleton c) ++ Percent.decode rest := by
  rw [Percent.decode.eq_2]
  rintro high low tail rfl
  exact absurd rfl notPercent

private theorem decode_escape (b : UInt8) (rest : List Char) :
    Percent.decode (Percent.escape b ++ rest) = b :: Percent.decode rest := by
  have value : b.toNat / 16 % 16 * 16 + b.toNat % 16 = b.toNat := by
    have := b.toNat_lt
    omega
  simp only [Percent.escape, List.cons_append, List.nil_append, Percent.decode,
    Text.hexValue?_upperHexDigit, value, UInt8.ofNat_toNat]

private theorem unplus_of_ne {c : Char} (h : c ≠ '+') : (if c = '+' then ' ' else c) = c := if_neg h

private theorem upperHexDigit_ne_plus (n : ℕ) : Text.upperHexDigit n ≠ '+' := by
  intro h
  have := isAlphanum_upperHexDigit n
  rw [h] at this
  exact absurd this (by decide)

/-- What one byte is encoded as reads back as that byte, whatever follows it. -/
private theorem decodeBytes_encodeByte (b : UInt8) (rest : List Char) :
    decodeBytes (encodeByte b ++ rest) = b :: decodeBytes rest := by
  rw [encodeByte]
  split
  · rename_i plain
    simp only [isPlain, Bool.and_eq_true, decide_eq_true_eq] at plain
    have ascii : b.toNat < 128 := plain.1
    have notPercent : Char.ofNat b.toNat ≠ '%' := fun h => absurd (h ▸ plain.2) (by decide)
    have notPlus : Char.ofNat b.toNat ≠ '+' := fun h => absurd (h ▸ plain.2) (by decide)
    have number : (Char.ofNat b.toNat).toNat = b.toNat := by
      rw [Char.ofNat, dif_pos (Or.inl (by omega))]
      rfl
    simp only [decodeBytes, List.cons_append, List.nil_append, List.map_cons, unplus_of_ne notPlus]
    rw [decode_cons notPercent, Text.utf8_singleton (by omega), number, UInt8.ofNat_toNat]
    rfl
  · split
    · rename_i space
      subst space
      simp only [decodeBytes, List.cons_append, List.nil_append, List.map_cons, ↓reduceIte]
      rw [decode_cons (by decide), Text.utf8_singleton (by decide)]
      rfl
    · have kept : (Percent.escape b).map (fun c => if c = '+' then ' ' else c) = Percent.escape b := by
        simp only [Percent.escape, List.map_cons, List.map_nil,
          unplus_of_ne (upperHexDigit_ne_plus _)]
        rfl
      rw [decodeBytes, List.map_append, kept, decode_escape]
      rfl

private theorem decodeBytes_flatMap (bytes : List UInt8) :
    decodeBytes (bytes.flatMap encodeByte) = bytes := by
  induction bytes with
  | nil => simp [decodeBytes, Percent.decode]
  | cons b rest ih => rw [List.flatMap_cons, decodeBytes_encodeByte, ih]

/-- An encoded text reads back as the text. -/
theorem decode?_encode (s : String) : decode? (encode s) = some s := by
  rw [decode?, encode, decodeBytes_flatMap, Text.ofUtf8?_utf8]

/-! ## Pairs -/

/-- Encoded pairs are made of form characters, and of the signs between and inside of pairs. -/
theorem isFormChar_of_mem_encodePairs {pairs : List (String × String)} {c : Char}
    (member : c ∈ encodePairs pairs) : IsFormChar c ∨ c = '=' ∨ c = '&' := by
  have inPair : ∀ pair, c ∈ encodePair pair → IsFormChar c ∨ c = '=' ∨ c = '&' := by
    intro pair member
    simp only [encodePair, List.mem_append, List.mem_cons] at member
    rcases member with name | equals | value
    · exact .inl (isFormChar_of_mem_encode name)
    · exact .inr (.inl equals)
    · exact .inl (isFormChar_of_mem_encode value)
  induction pairs with
  | nil => exact absurd member List.not_mem_nil
  | cons pair rest ih =>
    cases rest with
    | nil =>
      simp only [encodePairs, List.map_cons, List.map_nil, List.intercalate_singleton] at member
      exact inPair pair member
    | cons next rest =>
      simp only [encodePairs, List.map_cons, List.intercalate_cons_cons, List.mem_append,
        List.mem_singleton] at member ih
      rcases member with (first | ampersand) | later
      · exact inPair pair first
      · exact .inr (.inr ampersand)
      · exact ih later

/-- Encoded pairs have no question mark, so that an address can be cut in front of them. -/
theorem questionMark_not_mem_encodePairs (pairs : List (String × String)) :
    '?' ∉ encodePairs pairs := by
  intro member
  rcases isFormChar_of_mem_encodePairs member with form | equals | ampersand
  · exact not_isFormChar (by decide) form
  · exact absurd equals (by decide)
  · exact absurd ampersand (by decide)

private theorem not_mem_encode {s : String} {c : Char} (separator : c ∈ ['=', '&', '?']) :
    c ∉ encode s :=
  fun member => not_isFormChar separator (isFormChar_of_mem_encode member)

theorem decodePair?_encodePair (pair : String × String) :
    decodePair? (encodePair pair) = some pair := by
  have inName : ∀ c ∈ encode pair.1, decide (c ≠ '=') = true := by
    rintro c member
    simp only [ne_eq, decide_eq_true_eq]
    rintro rfl
    exact not_mem_encode (by decide) member
  have name : (encodePair pair).takeWhile (· ≠ '=') = encode pair.1 := by
    rw [encodePair, List.takeWhile_append_of_pos inName]
    simp
  have value : ((encodePair pair).dropWhile (· ≠ '=')).drop 1 = encode pair.2 := by
    rw [encodePair, List.dropWhile_append_of_pos inName]
    simp
  simp only [decodePair?, name, value, decode?_encode, Option.bind_eq_bind, Option.bind_some]
  rfl

private theorem ampersand_not_mem_encodePair (pair : String × String) : '&' ∉ encodePair pair := by
  simp only [encodePair, List.mem_append, List.mem_cons, not_or]
  exact ⟨not_mem_encode (by decide), by decide, not_mem_encode (by decide)⟩

private theorem mapM_decodePair? (pairs : List (String × String)) :
    (pairs.map encodePair).mapM decodePair? = some pairs := by
  induction pairs with
  | nil => rfl
  | cons pair rest ih => simp [decodePair?_encodePair, ih]

/-- Encoded pairs read back as the pairs, in their order. -/
theorem decodePairs?_encodePairs (pairs : List (String × String)) :
    decodePairs? (encodePairs pairs) = some pairs := by
  by_cases empty : pairs = []
  · subst empty
    rfl
  · have cut : (encodePairs pairs).splitOn '&' = pairs.map encodePair := by
      apply List.splitOn_intercalate
      · intro encoded member
        obtain ⟨pair, -, rfl⟩ := List.mem_map.mp member
        exact ampersand_not_mem_encodePair pair
      · simpa using empty
    have kept : (pairs.map encodePair).filter (!·.isEmpty) = pairs.map encodePair := by
      apply List.filter_eq_self.mpr
      intro encoded member
      obtain ⟨pair, -, rfl⟩ := List.mem_map.mp member
      simp [encodePair]
    rw [decodePairs?, cut, kept, mapM_decodePair?]

end VenueGateway.Form
