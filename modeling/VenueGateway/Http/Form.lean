import VenueGateway.Text.Percent

/-! # Form encoding

The encoding `application/x-www-form-urlencoded`: letters, digits and `*-._` stand for themselves, a
space is a plus, every other byte of the UTF-8 form is a percent sign and two hexadecimal digits.
Pairs are joined by `=` and `&`, neither of which an encoded text contains. `decodePairs?` reads
pairs back.
-/

namespace VenueGateway.Form

/-- Bytes that stand for themselves. -/
def isPlain (b : UInt8) : Bool :=
  let c := Char.ofNat b.toNat
  b < 0x80 && (c.isAlphanum || c = '*' || c = '-' || c = '.' || c = '_')

def encodeByte (b : UInt8) : List Char :=
  if isPlain b then [Char.ofNat b.toNat]
  else if b = 0x20 then ['+']
  else Percent.escape b

def encode (s : String) : List Char := (Text.utf8 s).flatMap encodeByte

def encodePair (pair : String × String) : List Char := encode pair.1 ++ '=' :: encode pair.2

def encodePairs (pairs : List (String × String)) : List Char :=
  ['&'].intercalate (pairs.map encodePair)

/-- The bytes that an encoded text stands for. A plus is a space, as none is left unescaped. -/
def decodeBytes (cs : List Char) : List UInt8 :=
  Percent.decode (cs.map fun c => if c = '+' then ' ' else c)

def decode? (cs : List Char) : Option String := Text.ofUtf8? (decodeBytes cs)

/-- A name and a value, cut at the first `=`; without one the value is empty. -/
def decodePair? (cs : List Char) : Option (String × String) := do
  let name ← decode? (cs.takeWhile (· ≠ '='))
  let value ← decode? ((cs.dropWhile (· ≠ '=')).drop 1)
  return (name, value)

/-- Pairs behind one another; nothing stands for no pair. -/
def decodePairs? (cs : List Char) : Option (List (String × String)) :=
  ((cs.splitOn '&').filter (!·.isEmpty)).mapM decodePair?

end VenueGateway.Form
