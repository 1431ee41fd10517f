/-! # Digits

The digits of ASCII and the numbers that they write. Hexadecimal digits are read in either case.
Digits of other scripts are not digits here.
-/

namespace VenueGateway.Text

def digitValue (c : Char) : Nat := c.toNat - '0'.toNat

def digit? (c : Char) : Option Nat := if c.isDigit then some (digitValue c) else none

def digitsValue (digits : List Char) : Nat := digits.foldl (fun n c => n * 10 + digitValue c) 0

/-- The number that characters write if they are decimal digits, at least one of them. -/
def readNat? (cs : List Char) : Option Nat :=
  if !cs.isEmpty && cs.all Char.isDigit then some (digitsValue cs) else none

def hexValue? (c : Char) : Option Nat :=
  if c.isDigit then some (digitValue c)
  else if 'a' ≤ c ∧ c ≤ 'f' then some (c.toNat - 'a'.toNat + 10)
  else if 'A' ≤ c ∧ c ≤ 'F' then some (c.toNat - 'A'.toNat + 10)
  else none

def hexDigit (n : Nat) : Char := Nat.digitChar (n % 16)

def upperHexDigit (n : Nat) : Char := (hexDigit n).toUpper

/-- A written digit reads back. -/
theorem hexValue?_hexDigit (n : Nat) : hexValue? (hexDigit n) = some (n % 16) := by
  have all : ∀ k < 16, hexValue? (Nat.digitChar k) = some k := by decide
  exact all _ (Nat.mod_lt _ (by decide))

theorem hexValue?_upperHexDigit (n : Nat) : hexValue? (upperHexDigit n) = some (n % 16) := by
  have all : ∀ k < 16, hexValue? (Nat.digitChar k).toUpper = some k := by decide
  exact all _ (Nat.mod_lt _ (by decide))

end VenueGateway.Text
