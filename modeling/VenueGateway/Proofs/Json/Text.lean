import VenueGateway.Json.Writer
import VenueGateway.Proofs.Json.Literal

/-! # Strings, arrays and objects in a text

A string is read as it is written: each character, or the escape that stands for it, gives the character
back. Plain characters stand for themselves. Arrays are read from item to item, and objects from member to
member.
-/

namespace VenueGateway.Json

variable {fuel depth : ℕ} {c : Char} {cs rest text : List Char} {value : Json}
  {done : List (String × Json)} {name : String}

/-! ## Strings -/

/-- Four characters are at least four bytes. -/
theorem four_le_byteCount (a b c d : Char) : ¬ byteCount [a, b, c, d] < 4 := by
  have first := a.utf8Size_pos
  have second := b.utf8Size_pos
  have third := c.utf8Size_pos
  have fourth := d.utf8Size_pos
  simp only [byteCount, List.foldl_cons, List.foldl_nil]
  omega

/-- A number of two hexadecimal digits, with two zeros in front. -/
theorem readHex4_low {n : ℕ} (small : n < 256) (rest : List Char) :
    readHex4 ('0' :: '0' :: Text.hexDigit (n / 16) :: Text.hexDigit n :: rest) = .ok (n, rest) := by
  have zero : Text.hexValue? '0' = some 0 := by decide
  have bytes := four_le_byteCount '0' '0' (Text.hexDigit (n / 16)) (Text.hexDigit n)
  have value : ((0 * 16 + 0) * 16 + n / 16 % 16) * 16 + n % 16 = n := by omega
  rw [readHex4]
  simp only [List.take_succ_cons, List.take_zero, if_neg bytes, zero, Text.hexValue?_hexDigit, value]

/-- An escape is read as the character that it stands for. -/
theorem readEscape_control (control : c.toNat < 0x20) (rest : List Char) :
    readEscape ('u' :: '0' :: '0' :: Text.hexDigit (c.toNat / 16) :: Text.hexDigit c.toNat :: rest) =
      .ok (c, rest) := by
  have hex := readHex4_low (control.trans (by decide)) rest
  have noTail : ¬ (0xDC00 ≤ c.toNat ∧ c.toNat ≤ 0xDFFF) := by omega
  have noHead : c.toNat < 0xD800 ∨ 0xDBFF < c.toNat := by omega
  rw [readEscape, readUnicode, hex]
  simp only [if_neg noTail, if_pos noHead, Char.ofNat_toNat]

/-- A character is read as it is written in a string. -/
theorem readString_escapedChar (fuel : ℕ) (before : List Char) (c : Char) (rest : List Char) :
    readString (fuel + 1) before (escapedChar c ++ rest) = readString fuel (c :: before) rest := by
  rw [escapedChar.eq_def]
  split
  case h_8 =>
    rename_i noQuote noEscape _ _ _ _ _
    split
    · rename_i control
      simp only [List.cons_append, List.nil_append]
      rw [readString, readEscape_control control]
    · rename_i visible
      rw [List.singleton_append, readString, if_neg visible]
      · exact noQuote
      · exact noEscape
  all_goals rfl

/-- A string is read as it is written. -/
theorem readString_written (long : cs.length ≤ fuel) (before rest : List Char) :
    readString fuel before (cs.flatMap escapedChar ++ '"' :: rest) =
      .ok (String.ofList (before.reverse ++ cs), rest) := by
  induction cs generalizing fuel before with
  | nil =>
    rw [List.flatMap_nil, List.nil_append, readString.eq_def, List.append_nil]
    rfl
  | cons c cs ih =>
    obtain ⟨fuel, rfl⟩ := Nat.exists_eq_add_of_lt (Nat.lt_of_lt_of_le (Nat.succ_pos _) long)
    rw [List.length_cons] at long
    rw [List.flatMap_cons, List.append_assoc, Nat.zero_add, readString_escapedChar, ih (by omega),
      List.reverse_cons, List.append_assoc, List.singleton_append]

def isPlain (c : Char) : Bool := c ≠ '"' && c ≠ '\\' && 0x20 ≤ c.toNat

theorem escapedChar_plain (plain : isPlain c = true) : escapedChar c = [c] := by
  simp only [isPlain, Bool.and_eq_true, decide_eq_true_eq] at plain
  obtain ⟨⟨noQuote, noEscape⟩, visible⟩ := plain
  rw [escapedChar.eq_def]
  split
  case h_8 => exact if_neg (by omega)
  all_goals
    first
    | exact absurd rfl noQuote
    | exact absurd rfl noEscape
    | exact absurd visible (by decide)

theorem flatMap_escapedChar_plain (plain : cs.all isPlain = true) : cs.flatMap escapedChar = cs := by
  have each : ∀ c ∈ cs, escapedChar c = [c] := fun c member =>
    escapedChar_plain (List.all_eq_true.mp plain c member)
  rw [List.flatMap_congr each, List.flatMap_singleton']

/-! ## Values -/

theorem skipSpace_cons (visible : isSpace c = false) (cs : List Char) :
    skipSpace (c :: cs) = c :: cs :=
  skipSpace_append (List.forall_mem_nil _) visible

theorem readValue_true : readValue (fuel + 1) depth ("true".toList ++ rest) = .ok (.bool true, rest) := by
  have word : "true".toList = ['t', 'r', 'u', 'e'] := by decide
  unfold readValue
  rw [word, List.cons_append, skipSpace_cons (by decide)]
  simp [readWord]

theorem readValue_written (long : cs.length ≤ fuel) (depth : ℕ) (rest : List Char) :
    readValue (fuel + 1) depth ('"' :: (cs.flatMap escapedChar ++ '"' :: rest)) =
      .ok (.str (String.ofList cs), rest) := by
  unfold readValue
  rw [skipSpace_cons (by decide)]
  dsimp only
  rw [readString_written long]
  rfl

theorem readValue_string (plain : cs.all isPlain = true) (long : cs.length ≤ fuel) :
    readValue (fuel + 1) depth ('"' :: (cs ++ '"' :: rest)) = .ok (.str (String.ofList cs), rest) := by
  have read := readValue_written long depth rest
  rwa [flatMap_escapedChar_plain plain] at read

theorem readValue_array (visible : isSpace c = false) (noBracket : c ≠ ']') :
    readValue (fuel + 1) (depth + 1) ('[' :: c :: rest) = readItems fuel depth [] (c :: rest) := by
  have bracket := skipSpace_cons (show isSpace '[' = false by decide) (c :: rest)
  have next := skipSpace_cons visible rest
  simp only [readValue, bracket, next]
  split
  · rename_i bracket
    exact absurd (List.cons.inj bracket).1 noBracket
  · rename_i nothing
    cases nothing
  · rfl

theorem readValue_object :
    readValue (fuel + 1) (depth + 1) ('\x7b' :: '"' :: rest) = readMembers fuel depth [] rest := by
  unfold readValue
  rw [skipSpace_cons (by decide)]
  dsimp only
  rw [skipSpace_cons (by decide)]
  rfl

/-! ## Items -/

/-- An item with another one behind it. -/
theorem readItems_next (visible : isSpace c = false) (noBracket : c ≠ ']')
    (read : readValue fuel depth text = .ok (value, ',' :: c :: rest)) (items : List Json) :
    readItems (fuel + 1) depth items text = readItems fuel depth (value :: items) (c :: rest) := by
  have comma := skipSpace_cons (show isSpace ',' = false by decide) (c :: rest)
  have next := skipSpace_cons visible rest
  rw [readItems, read]
  simp only [comma, next]
  split
  · rename_i bracket
    exact absurd (List.cons.inj bracket).1 noBracket
  · rename_i nothing
    cases nothing
  · rfl

/-- The last item. -/
theorem readItems_last (read : readValue fuel depth text = .ok (value, ']' :: rest))
    (items : List Json) :
    readItems (fuel + 1) depth items text = .ok (.arr (value :: items).reverse, rest) := by
  have bracket := skipSpace_cons (show isSpace ']' = false by decide) rest
  rw [readItems, read]
  simp only [bracket]

/-! ## Members -/

/-- A member with another one behind it. -/
theorem readMembers_written_next (long : name.toList.length ≤ fuel)
    (read : readValue fuel depth text = .ok (value, ',' :: '"' :: rest)) (done : List (String × Json)) :
    readMembers (fuel + 1) depth done (name.toList.flatMap escapedChar ++ '"' :: ':' :: text) =
      readMembers fuel depth (Entries.insert name value done) rest := by
  have colon := skipSpace_cons (show isSpace ':' = false by decide) text
  have comma := skipSpace_cons (show isSpace ',' = false by decide) ('"' :: rest)
  have quote := skipSpace_cons (show isSpace '"' = false by decide) rest
  rw [readMembers, readString_written long]
  simp only [List.reverse_nil, List.nil_append, String.ofList_toList, colon, read, comma, quote]

/-- The last member. -/
theorem readMembers_written_last (long : name.toList.length ≤ fuel)
    (read : readValue fuel depth text = .ok (value, '\x7d' :: rest)) (done : List (String × Json)) :
    readMembers (fuel + 1) depth done (name.toList.flatMap escapedChar ++ '"' :: ':' :: text) =
      .ok (.obj (Entries.insert name value done), rest) := by
  have colon := skipSpace_cons (show isSpace ':' = false by decide) text
  have brace := skipSpace_cons (show isSpace '\x7d' = false by decide) rest
  rw [readMembers, readString_written long]
  simp only [List.reverse_nil, List.nil_append, String.ofList_toList, colon, read, brace]

theorem readMembers_next (plain : name.toList.all isPlain = true) (long : name.toList.length ≤ fuel)
    (read : readValue fuel depth text = .ok (value, ',' :: '"' :: rest)) :
    readMembers (fuel + 1) depth done (name.toList ++ '"' :: ':' :: text) =
      readMembers fuel depth (Entries.insert name value done) rest := by
  have next := readMembers_written_next long read done
  rwa [flatMap_escapedChar_plain plain] at next

theorem readMembers_last (plain : name.toList.all isPlain = true) (long : name.toList.length ≤ fuel)
    (read : readValue fuel depth text = .ok (value, '\x7d' :: rest)) :
    readMembers (fuel + 1) depth done (name.toList ++ '"' :: ':' :: text) =
      .ok (.obj (Entries.insert name value done), rest) := by
  have last := readMembers_written_last long read done
  rwa [flatMap_escapedChar_plain plain] at last

end VenueGateway.Json
