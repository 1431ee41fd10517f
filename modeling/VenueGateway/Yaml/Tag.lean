import VenueGateway.Text.Digits
import VenueGateway.Text.Utf8

/-! # YAML tags

A tag is a sequence of bytes. Where it is written, a byte may stand as a percent sign and two
hexadecimal digits; such bytes must come in groups that have the form of a UTF-8 character, though
the group need not name one. A tag ends in front of its first zero byte.
-/

namespace VenueGateway.Yaml

abbrev Tag := List UInt8

namespace Tag

def ofString (s : String) : Tag := Text.utf8 s

/-- How many bytes must follow the first one of a group. -/
def followers? (octet : Nat) : Option Nat :=
  if octet < 0x80 then some 0
  else if octet < 0xC0 then none
  else if octet < 0xE0 then some 1
  else if octet < 0xF0 then some 2
  else if octet < 0xF8 then some 3
  else none

/-- How many bytes must follow a byte, of a group that still lacks `pending` of them. -/
def advance? (pending octet : Nat) : Option Nat :=
  match pending with
  | 0 => followers? octet
  | left + 1 => if 0x80 ≤ octet ∧ octet < 0xC0 then some left else none

/-- The bytes that characters of a tag stand for, inside of a group that lacks `pending` bytes. -/
def unescape? (pending : Nat) : List Char → Option Tag
  | '%' :: high :: low :: rest => do
    let octet := (← Text.hexValue? high) * 16 + (← Text.hexValue? low)
    let left ← advance? pending octet
    return octet.toUInt8 :: (← unescape? left rest)
  | '%' :: _ => none
  | c :: rest => if pending = 0 then (unescape? 0 rest).map (c.toNat.toUInt8 :: ·) else none
  | [] => if pending = 0 then some [] else none

/-- The bytes in front of the first zero byte. -/
def cut (tag : Tag) : Tag := tag.takeWhile (· ≠ 0)

def read? (cs : List Char) : Option Tag := (unescape? 0 cs).map cut

end Tag

end VenueGateway.Yaml
