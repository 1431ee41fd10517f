import VenueGateway.Hash.Hmac
import VenueGateway.Proofs.Hash.Sha512
import VenueGateway.Text.Utf8

/-! # Keyed hashing by its standard

`IsCode` is the code of a message under a key as RFC 2104 defines it, over the digests of FIPS 180-4
and blocks of 128 bytes. Keys of every length have one block, and every message has one code. Written
in hexadecimal it is 128 digits in lower case, which read back as its bytes.
-/

namespace VenueGateway.Hmac

open Digest (IsDigest)

/-! ## The standard -/

/-- The block of a key: the key itself, or its digest if it is longer than a block, and zeros. -/
structure IsKeyBlock (key block : List UInt8) : Prop where
  length : block.length = 128
  short : key.length ≤ 128 → ∃ zeros, block = key ++ List.replicate zeros 0
  long : 128 < key.length → ∃ digest zeros, IsDigest key digest ∧ block = digest ++ List.replicate zeros 0

/-- The code of a message: the digest of the outer pad and of the digest of the inner pad and the
message. -/
def IsCode (key message code : List UInt8) : Prop :=
  ∃ block inner, IsKeyBlock key block ∧ IsDigest (block.map (· ^^^ 0x36) ++ message) inner ∧
    IsDigest (block.map (· ^^^ 0x5c) ++ inner) code

def readHex? : List Char → Option (List UInt8)
  | [] => some []
  | [_] => none
  | high :: low :: rest =>
    match Text.hexValue? high, Text.hexValue? low, readHex? rest with
    | some h, some l, some bytes => some (UInt8.ofNat (h * 16 + l) :: bytes)
    | _, _, _ => none

def lowerDigits : List Char := "0123456789abcdef".toList

/-! ## Codes -/

theorem length_keyBlock (key : List UInt8) : (keyBlock key).length = 128 := by
  rw [keyBlock, List.length_append, List.length_replicate, blockSize]
  split
  · rw [Sha512.length_hash]
  · omega

theorem isKeyBlock_keyBlock (key : List UInt8) : IsKeyBlock key (keyBlock key) := by
  refine ⟨length_keyBlock key, ?short, ?long⟩
  case short =>
    intro short
    have fits : ¬ blockSize < key.length := by
      rw [blockSize]
      omega
    refine ⟨blockSize - key.length, ?_⟩
    rw [keyBlock, if_neg fits]
  case long =>
    intro long
    refine ⟨Sha512.hash key, blockSize - (Sha512.hash key).length, Sha512.isDigest_hash key, ?_⟩
    have tooLong : blockSize < key.length := long
    rw [keyBlock, if_pos tooLong]

/-- Lists that are filled up to the same length with the same value are the same. -/
theorem fill_unique {front block other : List UInt8} {zeros more : Nat}
    (length : block.length = other.length) (filled : block = front ++ List.replicate zeros 0)
    (alsoFilled : other = front ++ List.replicate more 0) : block = other := by
  have same : zeros = more := by
    rw [filled, alsoFilled, List.length_append, List.length_append, List.length_replicate,
      List.length_replicate] at length
    omega
  rw [filled, alsoFilled, same]

/-- A key has one block. -/
theorem IsKeyBlock.unique {key block other : List UInt8} (first : IsKeyBlock key block)
    (second : IsKeyBlock key other) : block = other := by
  have length := first.length.trans second.length.symm
  by_cases short : key.length ≤ 128
  · obtain ⟨zeros, filled⟩ := first.short short
    obtain ⟨more, alsoFilled⟩ := second.short short
    exact fill_unique length filled alsoFilled
  · obtain ⟨digest, zeros, found, filled⟩ := first.long (by omega)
    obtain ⟨digest', more, found', alsoFilled⟩ := second.long (by omega)
    obtain rfl := found.unique found'
    exact fill_unique length filled alsoFilled

theorem isCode_code (key message : List UInt8) : IsCode key message (code key message) :=
  ⟨keyBlock key, _, isKeyBlock_keyBlock key, Sha512.isDigest_hash _, Sha512.isDigest_hash _⟩

/-- The reference signature: the code of a short text under a short secret. -/
theorem hex_code_reference :
    hex (code (Text.utf8 "testest") (Text.utf8 "test")) =
      "7333d46949b6001c4acf6ebabab423e00acf67e861e0fb3edb3b1b38e02689698d9394b92ab64881cbc6ab641f769cbc" ++
        "8c79a820af9f5694e5d8f225d5e64ff1" := by
  decide +kernel

theorem IsCode.unique {key message code other : List UInt8} (first : IsCode key message code)
    (second : IsCode key message other) : code = other := by
  obtain ⟨block, inner, keyed, inside, outside⟩ := first
  obtain ⟨block', inner', keyed', inside', outside'⟩ := second
  obtain rfl := keyed.unique keyed'
  obtain rfl := inside.unique inside'
  exact outside.unique outside'

/-- The code of a message is that of the standard. -/
theorem isCode_iff {key message found : List UInt8} :
    IsCode key message found ↔ found = code key message := by
  constructor
  · intro standard
    exact standard.unique (isCode_code key message)
  · rintro rfl
    exact isCode_code key message

theorem length_code (key message : List UInt8) : (code key message).length = 64 :=
  Sha512.length_hash _

/-! ## Hexadecimal -/

theorem mem_lowerDigits (n : Nat) : Text.hexDigit n ∈ lowerDigits := by
  have all : ∀ k < 16, Nat.digitChar k ∈ lowerDigits := by decide
  exact all _ (Nat.mod_lt _ (by decide))

theorem toList_hex_cons (b : UInt8) (bytes : List UInt8) :
    (hex (b :: bytes)).toList =
      Text.hexDigit (b.toNat / 16) :: Text.hexDigit b.toNat :: (hex bytes).toList := by
  simp [hex]

/-- Two digits for a byte read back as the byte. -/
theorem readHex?_hex (bytes : List UInt8) : readHex? (hex bytes).toList = some bytes := by
  induction bytes with
  | nil => simp [hex, readHex?]
  | cons b bytes ih =>
    have small := b.toNat_lt
    have digits : b.toNat / 16 % 16 * 16 + b.toNat % 16 = b.toNat := by omega
    rw [toList_hex_cons, readHex?, Text.hexValue?_hexDigit, Text.hexValue?_hexDigit, ih]
    simp [digits]

theorem length_hex (bytes : List UInt8) : (hex bytes).toList.length = 2 * bytes.length := by
  induction bytes with
  | nil => simp [hex]
  | cons b bytes ih =>
    rw [toList_hex_cons, List.length_cons, List.length_cons, ih, List.length_cons]
    omega

theorem mem_lowerDigits_of_mem_hex {bytes : List UInt8} {c : Char} (member : c ∈ (hex bytes).toList) :
    c ∈ lowerDigits := by
  induction bytes with
  | nil => simp [hex] at member
  | cons b bytes ih =>
    rw [toList_hex_cons] at member
    rcases List.mem_cons.mp member with rfl | member
    · exact mem_lowerDigits _
    · rcases List.mem_cons.mp member with rfl | member
      · exact mem_lowerDigits _
      · exact ih member

end VenueGateway.Hmac
