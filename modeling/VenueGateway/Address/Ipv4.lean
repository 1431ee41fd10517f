import VenueGateway.Text.Digits

/-! # IPv4 addresses

Four bytes, shown as decimal numbers with points between them. They are read from one to four
numbers, each of which is decimal, octal behind a zero or hexadecimal behind `0x`; the last one
fills the bytes that those in front of it leave.
-/

namespace VenueGateway

/-- An IPv4 address as the number that its bytes form, the first of which counts most. -/
structure Ipv4 where
  value : UInt32
deriving DecidableEq

namespace Ipv4

/-- The number that digits of a base write; no digits write zero. -/
def numberInBase? (base : Nat) (cs : List Char) : Option Nat :=
  cs.foldlM (fun n c => do
    let digit ← Text.hexValue? c
    if digit < base then some (n * base + digit) else none) 0

/-- The number that characters write, if they are one. -/
def number? : List Char → Option Nat
  | [] => none
  | '0' :: 'x' :: digits => numberInBase? 16 digits
  | '0' :: 'X' :: digits => numberInBase? 16 digits
  | '0' :: c :: digits => numberInBase? 8 (c :: digits)
  | digits => numberInBase? 10 digits

/-- The parts between the points; a point at the end does not begin another one. -/
def parts (cs : List Char) : List (List Char) :=
  let parts := cs.splitOn '.'
  if parts.getLast? = some [] then parts.dropLast else parts

/-- Whether a host is meant as an IPv4 address: its last part is a number, or made of digits. -/
def isMeantBy (cs : List Char) : Bool :=
  (parts cs).getLast?.any fun last =>
    (number? last).isSome || !last.isEmpty && last.all Char.isDigit

/-- The address that numbers stand for: all but the last are bytes. -/
def ofNumbers? (numbers : List Nat) : Option Ipv4 := do
  let last ← numbers.getLast?
  let bytes := numbers.dropLast
  let room := Nat.pow 256 (4 - bytes.length)
  if bytes.length ≤ 3 ∧ bytes.all (· < 256) ∧ last < room then
    some ⟨UInt32.ofNat (bytes.foldl (fun n byte => n * 256 + byte) 0 * room + last)⟩
  else none

def read? (cs : List Char) : Option Ipv4 := do ofNumbers? (← (parts cs).mapM number?)

/-- The bytes of an address, the first one first. -/
def bytes (address : Ipv4) : List Nat :=
  [Nat.pow 256 3, Nat.pow 256 2, 256, 1].map fun unit => address.value.toNat / unit % 256

def text (address : Ipv4) : String := ".".intercalate (address.bytes.map toString)

end Ipv4

end VenueGateway
