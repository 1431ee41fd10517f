/-! # Punycode

A label beyond ASCII written in letters, digits and hyphens: its ASCII characters in front, then,
for each other character in the order of code points, how far its place lies behind the last one.
The distances are numbers with the lowest digit first, in base 36, and end by themselves: a digit
below the threshold of its position is the last one. The thresholds adapt to the distances so far.
-/

namespace VenueGateway.Punycode

/-- The digit of a value below 36. -/
def digit (value : Nat) : Char :=
  if value < 26 then Char.ofNat ('a'.toNat + value) else Char.ofNat ('0'.toNat + (value - 26))

/-- The value of a digit, in either case of letters. -/
def digitValue? (c : Char) : Option Nat :=
  if c.isDigit then some (c.toNat - '0'.toNat + 26)
  else if c.isAlpha then some (c.toLower.toNat - 'a'.toNat)
  else none

/-- The threshold of a position, which is a multiple of 36, under a bias: at least 1, at most 26. -/
def threshold (bias position : Nat) : Nat := max 1 (min 26 (position - bias))

theorem threshold_pos (bias position : Nat) : 1 ≤ threshold bias position := by
  simp only [threshold]; omega

/-- The bias for distances of about this size. -/
def scale (distance : Nat) : Nat :=
  if 455 < distance then 36 + scale (distance / 35) else 36 * distance / (distance + 38)
termination_by distance

/-- The bias behind a distance, when so many characters have their place; the first distance of a
label is large. -/
def adapt (distance size : Nat) (isFirst : Bool) : Nat :=
  let damped := distance / if isFirst then 700 else 2
  scale (damped + damped / size)

/-! ## Writing -/

def writeDistance (bias position distance : Nat) : List Char :=
  let low := threshold bias position
  if distance < low then [digit distance]
  else
    digit (low + (distance - low) % (36 - low)) ::
      writeDistance bias (position + 36) ((distance - low) / (36 - low))
termination_by distance
decreasing_by
  have positive := threshold_pos bias position
  exact Nat.lt_of_le_of_lt (Nat.div_le_self _ _) (by omega)

/-- How far the writer has come: the digits so far, the distance since the last character written,
the bias, and how many characters have their place. -/
structure Progress where
  digits : List Char
  distance : Nat
  bias : Nat
  placed : Nat

/-- Pass one character while those with a certain code point are written. -/
def Progress.pass (basicSize code : Nat) (progress : Progress) (c : Char) : Progress :=
  if c.toNat < code then { progress with distance := progress.distance + 1 }
  else if c.toNat = code then
    { digits := progress.digits ++ writeDistance progress.bias 36 progress.distance
      distance := 0
      bias := adapt progress.distance (progress.placed + 1) (progress.placed = basicSize)
      placed := progress.placed + 1 }
  else progress

/-- Write the characters with the given code points, of which the first is at least `next`. -/
def writeCodes (label : List Char) (basicSize : Nat) :
    (codes : List Nat) → (next : Nat) → Progress → Progress
  | [], _, progress => progress
  | code :: codes, next, progress =>
    let skipped := (code - next) * (progress.placed + 1)
    let passed := label.foldl (Progress.pass basicSize code)
      { progress with distance := progress.distance + skipped }
    writeCodes label basicSize codes (code + 1) { passed with distance := passed.distance + 1 }

def basicPart (label : List Char) : List Char := label.filter (·.toNat < 0x80)

/-- The code points beyond ASCII in a label, in increasing order and each one once. -/
def codesBeyond (label : List Char) : List Nat :=
  ((label.map Char.toNat).filter (0x80 ≤ ·)).mergeSort.eraseDups

def write (label : List Char) : List Char :=
  let basic := basicPart label
  let progress := writeCodes label basic.length (codesBeyond label) 0x80 ⟨[], 0, 72, basic.length⟩
  (if basic.isEmpty then [] else basic ++ ['-']) ++ progress.digits

/-! ## Reading -/

/-- Read a distance from a position on, of which each unit counts `weight`: what it amounts to, and
the characters behind it. -/
def readDistance? (bias position weight : Nat) :
    (cs : List Char) → Option { found : Nat × List Char // found.2.length < cs.length }
  | [] => none
  | c :: rest => do
    let value ← digitValue? c
    let low := threshold bias position
    if value < low then return ⟨(value * weight, rest), by simp⟩
    else
      let ⟨(more, behind), shorter⟩ ← readDistance? bias (position + 36) (weight * (36 - low)) rest
      return ⟨(value * weight + more, behind), Nat.lt_succ_of_lt shorter⟩

/-- Put characters into their places in a label, the next one at or behind place `place` among those
with code point `code` or above. Surrogates are no characters. -/
def insertCodes? (bias code place : Nat) (label : List Char) (cs : List Char) :
    Option (List Char) :=
  if cs.isEmpty then some label
  else do
    let ⟨(distance, behind), _⟩ ← readDistance? bias 36 1 cs
    let size := label.length + 1
    let here := (place + distance) % size
    let found := code + (place + distance) / size
    if found < 0xD800 ∨ 0xDFFF < found ∧ found < 0x110000 then
      insertCodes? (adapt distance size (place = 0)) found (here + 1)
        (label.insertIdx here (Char.ofNat found)) behind
    else none
termination_by cs.length

/-- The label that a written form stands for. A hyphen with nothing in front ends no ASCII part. -/
def read? (cs : List Char) : Option (List Char) :=
  let digits := (cs.reverse.takeWhile (· ≠ '-')).reverse
  let basic := cs.take (cs.length - digits.length - 1)
  if basic.isEmpty then insertCodes? 72 0x80 0 [] cs
  else if basic.all (·.toNat < 0x80) then insertCodes? 72 0x80 0 basic digits
  else none

end VenueGateway.Punycode
