import VenueGateway.Text.Utf8
import Mathlib.Data.Nat.Notation
import Mathlib.Tactic.ByContra
import Mathlib.Tactic.SplitIfs

/-! # The bytes of a text

The bytes of a text read back as the text, and an ASCII character is one byte. The order of texts is
that of their bytes: the first byte of a character tells how many bytes it has, and more bytes are
begun by a higher first one.
-/

namespace VenueGateway.Text

private theorem toList_loop (bytes : ByteArray) (i : ℕ) (done : List UInt8) :
    ByteArray.toList.loop bytes i done = done.reverse ++ bytes.data.toList.drop i := by
  have size : bytes.size = bytes.data.toList.length := rfl
  induction distance : bytes.size - i generalizing i done with
  | zero =>
    rw [ByteArray.toList.loop, if_neg (by omega), List.drop_eq_nil_of_le (by omega), List.append_nil]
  | succ n ih =>
    have inside : i < bytes.data.toList.length := by omega
    have byte : bytes.get! i = bytes.data.toList[i] := by
      rw [Array.getElem_toList]
      exact getElem!_pos bytes.data i inside
    rw [ByteArray.toList.loop, if_pos (by omega), ih (i + 1) _ (by omega),
      List.drop_eq_getElem_cons inside, byte]
    simp

theorem utf8_eq (s : String) : utf8 s = s.toByteArray.data.toList := by
  change ByteArray.toList.loop s.toByteArray 0 [] = _
  rw [toList_loop]
  rfl

/-- The bytes of a text are UTF-8, and encode that text. -/
theorem ofUtf8?_utf8 (s : String) : ofUtf8? (utf8 s) = some s := by
  have same : (⟨(utf8 s).toArray⟩ : ByteArray) = s.toByteArray := by rw [utf8_eq]
  rw [ofUtf8?, same, String.fromUTF8?, dif_pos s.isValidUTF8]
  rfl

theorem utf8_singleton {c : Char} (ascii : c.toNat < 128) :
    utf8 (String.singleton c) = [UInt8.ofNat c.toNat] := by
  have small : c.utf8Size = 1 := by
    rw [Char.utf8Size_eq_one_iff]
    change c.toNat ≤ 127
    omega
  rw [utf8_eq, String.toByteArray_singleton, List.utf8Encode_singleton,
    String.utf8EncodeChar_eq_singleton small, List.toList_data_toByteArray]
  rfl

/-! ## The order of bytes -/

theorem utf8_eq_flatMap (s : String) : utf8 s = s.toList.flatMap String.utf8EncodeChar := by
  have bytes := String.toByteArray_ofList (l := s.toList)
  rw [String.ofList_toList] at bytes
  rw [utf8_eq, bytes, List.utf8Encode, List.toList_data_toByteArray]

/-- Bytes are compared by their values. -/
private theorem ofNat_cons_lt_iff {m n : ℕ} (small : m < 256) (alsoSmall : n < 256)
    {front back : List UInt8} :
    UInt8.ofNat m :: front < UInt8.ofNat n :: back ↔ m < n ∨ m = n ∧ front < back := by
  have value : (UInt8.ofNat m).toNat = m := UInt8.toNat_ofNat_of_lt' small
  have otherValue : (UInt8.ofNat n).toNat = n := UInt8.toNat_ofNat_of_lt' alsoSmall
  rw [List.cons_lt_cons_iff, UInt8.lt_iff_toNat_lt, ← UInt8.toNat_inj, value, otherValue]

/-- A lower character has lower bytes, whatever follows. -/
theorem utf8EncodeChar_append_lt {c d : Char} (below : c < d) (front back : List UInt8) :
    String.utf8EncodeChar c ++ front < String.utf8EncodeChar d ++ back := by
  have lower : c.val.toNat < d.val.toNat := below
  have limit : d.val.toNat < 0x110000 := by
    have valid : d.val.toNat.isValidChar := d.valid
    unfold Nat.isValidChar at valid
    omega
  have places : ∀ v : ℕ, v / 4096 = v / 64 / 64 ∧ v / 262144 = v / 64 / 64 / 64 := by omega
  simp only [String.utf8EncodeChar, places]
  split_ifs <;>
    simp (disch := omega) only [List.cons_append, List.nil_append, ofNat_cons_lt_iff] <;> omega

private theorem flatMap_utf8EncodeChar_lt {cs ds : List Char} (below : cs < ds) :
    cs.flatMap String.utf8EncodeChar < ds.flatMap String.utf8EncodeChar := by
  induction cs generalizing ds with
  | nil =>
    cases ds with
    | nil => exact absurd below (List.lt_irrefl _)
    | cons d ds =>
      obtain ⟨first, rest, bytes⟩ := List.exists_cons_of_ne_nil (String.utf8EncodeChar_ne_nil (c := d))
      rw [List.flatMap_nil, List.flatMap_cons, bytes]
      exact List.nil_lt_cons ..
  | cons c cs ih =>
    cases ds with
    | nil => exact absurd below (List.not_lt_nil _)
    | cons d ds =>
      rw [List.flatMap_cons, List.flatMap_cons]
      rcases List.cons_lt_cons_iff.mp below with lower | ⟨rfl, later⟩
      · exact utf8EncodeChar_append_lt lower _ _
      · exact List.append_left_lt (ih later)

/-- The order of names is the order of their bytes. -/
theorem utf8_lt_utf8_iff {s t : String} : utf8 s < utf8 t ↔ s < t := by
  have keeps : ∀ {s t : String}, s < t → utf8 s < utf8 t := by
    intro s t below
    rw [utf8_eq_flatMap, utf8_eq_flatMap]
    exact flatMap_utf8EncodeChar_lt below
  constructor
  · intro below
    by_contra notBelow
    rcases Std.le_iff_lt_or_eq.mp (String.not_lt.mp notBelow) with above | rfl
    · exact List.lt_asymm below (keeps above)
    · exact List.lt_irrefl _ below
  · exact keeps

end VenueGateway.Text
