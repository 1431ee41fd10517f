import VenueGateway.Text.Digits
import VenueGateway.Text.Utf8

/-! # Percent-encoding

A character that may not stand for itself is written byte by byte: each byte of its UTF-8 form is a
percent sign and two hexadecimal digits. `decode` reads the bytes back.
-/

namespace VenueGateway.Percent

/-- A byte as a percent sign and two hexadecimal digits. -/
def escape (b : UInt8) : List Char :=
  ['%', Text.upperHexDigit (b.toNat / 16), Text.upperHexDigit b.toNat]

/-- A character, escaped if it is one of those that may not stand for themselves. -/
def encodeChar (isEscaped : Char → Bool) (c : Char) : List Char :=
  if isEscaped c then (Text.utf8 (String.singleton c)).flatMap escape else [c]

def encode (isEscaped : Char → Bool) (cs : List Char) : List Char :=
  cs.flatMap (encodeChar isEscaped)

/-- The bytes that characters stand for. A percent sign without two hexadecimal digits stands for
itself. -/
def decode : List Char → List UInt8
  | '%' :: high :: low :: rest =>
    match Text.hexValue? high, Text.hexValue? low with
    | some h, some l => UInt8.ofNat (h * 16 + l) :: decode rest
    | _, _ => 0x25 :: decode (high :: low :: rest)
  | c :: rest => Text.utf8 (String.singleton c) ++ decode rest
  | [] => []
termination_by cs => cs.length

end VenueGateway.Percent
