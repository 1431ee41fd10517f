import VenueGateway.Hash.Sha512
import VenueGateway.Text.Digits

/-! # Keyed hashing

HMAC of RFC 2104 over SHA-512: the key, hashed first if it is longer than a block, is padded to a
block of 128 bytes and mixed with the inner and the outer pad. Digests are shown in lowercase
hexadecimal.
-/

namespace VenueGateway.Hmac

def blockSize : Nat := 128

/-- The key as one block: a longer key is hashed, a shorter one padded with zeros. -/
def keyBlock (key : List UInt8) : List UInt8 :=
  let short := if blockSize < key.length then Sha512.hash key else key
  short ++ List.replicate (blockSize - short.length) 0

def code (key message : List UInt8) : List UInt8 :=
  let inner := (keyBlock key).map (· ^^^ 0x36)
  let outer := (keyBlock key).map (· ^^^ 0x5c)
  Sha512.hash (outer ++ Sha512.hash (inner ++ message))

def hex (bytes : List UInt8) : String :=
  String.ofList (bytes.flatMap fun b => [Text.hexDigit (b.toNat / 16), Text.hexDigit b.toNat])

end VenueGateway.Hmac
