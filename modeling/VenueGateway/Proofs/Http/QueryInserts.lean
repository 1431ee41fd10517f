import Mathlib.Data.List.Forall2
import VenueGateway.Proofs.Http.QueryText
import VenueGateway.Proofs.NameMap
import VenueGateway.Proofs.Text.Bytes

/-! # The query that inserts leave

A query is made by inserting parameters one after the other. Its text lists the names in the order of
their bytes, each with the value that was inserted last, in the encoding of forms. The text tells the
parameters and nothing of how they were inserted: it is the same for two rows of inserts exactly if
they leave the same value under every name.
-/

namespace VenueGateway

namespace Form

/-! ## The encoding -/

/-- Characters that are written as themselves. -/
def Plain (c : Char) : Prop := c.isAlphanum = true ∨ c ∈ ['*', '-', '.', '_']

/-- The digits of bytes, each in the place of its value. -/
def capitalDigits : List Char :=
  ['0', '1', '2', '3', '4', '5', '6', '7', '8', '9', 'A', 'B', 'C', 'D', 'E', 'F']

/-- How a byte is written: a plain character as itself, a space as a plus, and every other byte by its
two digits behind a percent sign. -/
inductive ByteWritten : UInt8 → List Char → Prop
  | plain {c : Char} : Plain c → ByteWritten (UInt8.ofNat c.toNat) [c]
  | space : ByteWritten (UInt8.ofNat ' '.toNat) ['+']
  | escaped {b : UInt8} {high low : Char} :
    (∀ c, Plain c ∨ c = ' ' → b ≠ UInt8.ofNat c.toNat) →
    capitalDigits[b.toNat / 16]? = some high → capitalDigits[b.toNat % 16]? = some low →
    ByteWritten b ['%', high, low]

/-- How a text is written: byte by byte. -/
def Written (text : String) (cs : List Char) : Prop :=
  ∃ pieces, List.Forall₂ ByteWritten (Text.utf8 text) pieces ∧ cs = pieces.flatten

/-- How pairs are written: an equals sign inside each of them, and ampersands between them. -/
def PairsWritten (pairs : List (String × String)) (cs : List Char) : Prop :=
  ∃ parts, List.Forall₂ (fun pair part => ∃ name value, Written pair.1 name ∧ Written pair.2 value ∧
    part = name ++ '=' :: value) pairs parts ∧ cs = ['&'].intercalate parts

private theorem plain_lt {c : Char} (plain : Plain c) : c.toNat < 128 := by
  rcases plain with alphanum | sign
  · change (decide ('A'.val ≤ c.val ∧ c.val ≤ 'Z'.val) ||
      decide ('a'.val ≤ c.val) && decide (c.val ≤ 'z'.val) ||
      decide ('0'.val ≤ c.val) && decide (c.val ≤ '9'.val)) = true at alphanum
    simp only [Bool.or_eq_true, Bool.and_eq_true, decide_eq_true_eq, UInt32.le_iff_toNat_le] at alphanum
    have capital : 'Z'.val.toNat = 90 := rfl
    have small : 'z'.val.toNat = 122 := rfl
    have digit : '9'.val.toNat = 57 := rfl
    have value : c.toNat = c.val.toNat := rfl
    omega
  · simp only [List.mem_cons, List.not_mem_nil, or_false] at sign
    rcases sign with rfl | rfl | rfl | rfl
    all_goals decide

/-- The bytes that stand for themselves are those of plain characters. -/
theorem isPlain_ofNat_iff {c : Char} (ascii : c.toNat < 128) :
    isPlain (UInt8.ofNat c.toNat) = true ↔ Plain c := by
  have byte : (UInt8.ofNat c.toNat).toNat = c.toNat :=
    UInt8.toNat_ofNat_of_lt' (Nat.lt_trans ascii (by decide))
  have below : UInt8.ofNat c.toNat < 0x80 := by
    rw [UInt8.lt_iff_toNat_lt, byte]
    exact ascii
  rw [isPlain, byte, Char.ofNat_toNat, Plain]
  simp only [below, decide_true, Bool.true_and, Bool.or_eq_true, decide_eq_true_eq, List.mem_cons,
    List.not_mem_nil, or_false, or_assoc]

/-- A byte below 128 is that of a character. -/
private theorem exists_char {b : UInt8} (ascii : b < 0x80) :
    ∃ c : Char, c.toNat < 128 ∧ b = UInt8.ofNat c.toNat ∧ Char.ofNat b.toNat = c := by
  have small : b.toNat < 128 := UInt8.lt_iff_toNat_lt.mp ascii
  have value : (Char.ofNat b.toNat).toNat = b.toNat := by
    rw [Char.ofNat, dif_pos (Or.inl (by omega))]
    rfl
  exact ⟨Char.ofNat b.toNat, by rwa [value], by rw [value, UInt8.ofNat_toNat], rfl⟩

private theorem capitalDigits_getElem? (n : ℕ) :
    capitalDigits[n % 16]? = some (Text.upperHexDigit n) := by
  have table : ∀ k < 16, capitalDigits[k]? = some (Nat.digitChar k).toUpper := by decide
  exact table _ (Nat.mod_lt _ (by decide))

theorem byteWritten_encodeByte (b : UInt8) : ByteWritten b (encodeByte b) := by
  rw [encodeByte]
  split
  · rename_i plain
    have ascii : b < 0x80 := by
      rw [isPlain, Bool.and_eq_true, decide_eq_true_eq] at plain
      exact plain.1
    obtain ⟨c, small, rfl, same⟩ := exists_char ascii
    rw [same]
    exact .plain ((isPlain_ofNat_iff small).mp plain)
  · rename_i notPlain
    split
    · rename_i space
      rw [space]
      exact .space
    · rename_i notSpace
      have high := capitalDigits_getElem? (b.toNat / 16)
      have byte : b.toNat / 16 % 16 = b.toNat / 16 := by
        have := b.toNat_lt
        omega
      rw [byte] at high
      refine .escaped ?_ high (capitalDigits_getElem? b.toNat)
      rintro c (plain | rfl) rfl
      · exact notPlain ((isPlain_ofNat_iff (plain_lt plain)).mpr plain)
      · exact notSpace rfl

theorem written_encode (text : String) : Written text (encode text) := by
  refine ⟨(Text.utf8 text).map encodeByte, ?_, List.flatMap_def⟩
  rw [List.forall₂_map_right_iff, List.forall₂_same]
  exact fun b _ => byteWritten_encodeByte b

theorem pairsWritten_encodePairs (pairs : List (String × String)) :
    PairsWritten pairs (encodePairs pairs) := by
  refine ⟨pairs.map encodePair, ?_, rfl⟩
  rw [List.forall₂_map_right_iff, List.forall₂_same]
  exact fun pair _ => ⟨encode pair.1, encode pair.2, written_encode _, written_encode _, rfl⟩

end Form

/-! ## Inserts -/

namespace Query

/-- The parameters that inserts leave: under every name the value that was inserted last, in the order of
the names' bytes. -/
structure LeftBy (inserts pairs : List (String × String)) : Prop where
  sorted : pairs.Pairwise fun a b => Text.utf8 a.1 < Text.utf8 b.1
  mem_iff : ∀ name value, (name, value) ∈ pairs ↔ NameMap.LastUnder name inserts value

theorem leftBy_entries (inserts : List (String × String)) :
    LeftBy inserts (NameMap.ofList inserts).entries := by
  constructor
  · apply (NameMap.ofList inserts).increasing.imp
    intro a b below
    exact Text.utf8_lt_utf8_iff.mpr below
  · intro name value
    rw [NameMap.mem_entries_iff, NameMap.get?_ofList_eq_some_iff]

/-- A query can be told from its text. -/
theorem text_inj {query other : Query} : text query = text other ↔ query = other := by
  constructor
  · intro same
    have pairs : some query.entries = some other.entries := by
      rw [← Form.decodePairs?_encodePairs, String.ofList_injective same, Form.decodePairs?_encodePairs]
    exact NameMap.ext (Option.some.inj pairs)
  · rintro rfl
    rfl

theorem queryText_address {query : Query} (nonempty : query.isEmpty = false) (base path : String) :
    queryText (query.address base path) = (text query).toList := by
  rw [address, nonempty, if_neg Bool.false_ne_true, text, String.toList_ofList]
  exact queryText_append (Form.questionMark_not_mem_encodePairs _) _

/-- The text of a query lists what its inserts leave, in the encoding of forms, and reads back as that.
It stands behind the last question mark of an address, and nothing stands there where nothing was
inserted. -/
theorem text_lists_inserts (inserts : List (String × String)) :
    ∃ pairs, LeftBy inserts pairs ∧
      Form.PairsWritten pairs (text (.ofList inserts)).toList ∧
      Form.decodePairs? (text (.ofList inserts)).toList = some pairs ∧
      (∀ c ∈ (text (.ofList inserts)).toList, Form.IsFormChar c ∨ c = '=' ∨ c = '&') ∧
      (∀ others : List (String × String), text (.ofList others) = text (.ofList inserts) ↔
        ∀ name value, NameMap.LastUnder name others value ↔ NameMap.LastUnder name inserts value) ∧
      ∀ base path : String,
        (inserts = [] → address (.ofList inserts) base path = base ++ path) ∧
        (inserts ≠ [] →
          address (.ofList inserts) base path = base ++ path ++ "?" ++ text (.ofList inserts) ∧
          queryText (address (.ofList inserts) base path) = (text (.ofList inserts)).toList) := by
  have written : (text (.ofList inserts)).toList = Form.encodePairs (NameMap.ofList inserts).entries :=
    String.toList_ofList
  refine ⟨(NameMap.ofList inserts).entries, leftBy_entries inserts, ?_, ?_, ?_, ?_, ?address⟩
  · rw [written]
    exact Form.pairsWritten_encodePairs _
  · rw [written]
    exact Form.decodePairs?_encodePairs _
  · rw [written]
    exact fun c member => Form.isFormChar_of_mem_encodePairs member
  · intro others
    rw [text_inj, NameMap.ofList_eq_iff]
  case address =>
    intro base path
    constructor
    · rintro rfl
      rfl
    · intro some_inserts
      have nonempty : (NameMap.ofList inserts).isEmpty = false := by
        rw [NameMap.isEmpty_ofList, List.isEmpty_eq_false_iff]
        exact some_inserts
      refine ⟨?_, queryText_address nonempty base path⟩
      rw [address, nonempty, if_neg Bool.false_ne_true]

/-- Inserts with a name that is replaced, an empty name, and characters that have to be escaped. -/
def mixedInserts : List (String × String) := [("note", "a=b"), ("", "é?"), ("note", "a b&c")]

/-- The text of their query. -/
theorem text_lists_inserts_mixed :
    text (.ofList mixedInserts) = "=%C3%A9%3F&note=a+b%26c" ∧ mixedInserts ≠ [] ∧
      LeftBy mixedInserts [("", "é?"), ("note", "a b&c")] ∧
      Form.decodePairs? "=%C3%A9%3F&note=a+b%26c".toList = some [("", "é?"), ("note", "a b&c")] ∧
      queryText (address (.ofList mixedInserts) "https://host/?" "path") =
        "=%C3%A9%3F&note=a+b%26c".toList := by
  have text_eq : text (.ofList mixedInserts) = "=%C3%A9%3F&note=a+b%26c" := by decide +kernel
  have nonempty : mixedInserts ≠ [] := List.cons_ne_nil _ _
  obtain ⟨pairs, left, -, decoded, -, -, address⟩ := text_lists_inserts mixedInserts
  rw [text_eq] at decoded address
  have pairs_eq : some pairs = some [("", "é?"), ("note", "a b&c")] := by
    rw [← decoded]
    decide +kernel
  obtain rfl := Option.some.inj pairs_eq
  exact ⟨text_eq, nonempty, left, decoded, ((address _ _).2 nonempty).2⟩

end Query

end VenueGateway
