import VenueGateway.Text.Digits

/-! # IPv6 addresses

Eight pieces of two bytes, in hexadecimal with colons between them. Two colons in a row stand for
pieces that are zero, at least one of them, and may occur once; the last two pieces may be written
as four decimal numbers with points between them. An address is shown in lower case, with the
longest run of two or more zeros left out.
-/

namespace VenueGateway

/-- An IPv6 address. -/
structure Ipv6 where
  pieces : List UInt16
  length_pieces : pieces.length = 8
deriving DecidableEq

namespace Ipv6

/-- A piece of one to four hexadecimal digits. -/
def piece? (cs : List Char) : Option UInt16 :=
  if cs.isEmpty || 4 < cs.length then none
  else (cs.mapM Text.hexValue?).map fun digits =>
    UInt16.ofNat (digits.foldl (fun n digit => n * 16 + digit) 0)

/-- A byte in decimal, without zeros in front. -/
def byte? (cs : List Char) : Option UInt16 := do
  let n ← Text.readNat? cs
  if n < 256 ∧ (cs.length = 1 ∨ cs.head? ≠ some '0') then some (UInt16.ofNat n) else none

def dottedPieces? (cs : List Char) : Option (List UInt16) := do
  match ← (cs.splitOn '.').mapM byte? with
  | [a, b, c, d] => some [a * 256 + b, c * 256 + d]
  | _ => none

/-- Pieces with colons between them; nothing stands for none. -/
def pieces? (cs : List Char) : Option (List UInt16) :=
  if cs.isEmpty then some [] else (cs.splitOn ':').mapM piece?

/-- Pieces with colons between them, at the end of which a dotted pair may stand. -/
def lastPieces? (cs : List Char) : Option (List UInt16) :=
  let groups := cs.splitOn ':'
  match groups.getLast? with
  | some last =>
    if last.contains '.' then do
      return (← groups.dropLast.mapM piece?) ++ (← dottedPieces? last)
    else pieces? cs
  | none => some []

/-- What stands in front of the first two colons in a row, and behind them. -/
def splitElision? : List Char → Option (List Char × List Char)
  | ':' :: ':' :: rest => some ([], rest)
  | c :: rest => (splitElision? rest).map fun (front, back) => (c :: front, back)
  | [] => none

def read? (cs : List Char) : Option Ipv6 :=
  match splitElision? cs with
  | none => do
    let pieces ← lastPieces? cs
    if h : pieces.length = 8 then some ⟨pieces, h⟩ else none
  | some (front, back) => do
    let front ← pieces? front
    let back ← lastPieces? back
    if h : front.length + back.length < 8 then
      have full : 8 = (front ++ .replicate (8 - front.length - back.length) 0 ++ back).length := by
        simp only [List.length_append, List.length_replicate]
        omega
      some ⟨_, full.symm⟩
    else none

/-- How many zeros follow one another from an index on. -/
def zerosAt (pieces : List UInt16) (index : Nat) : Nat :=
  ((pieces.drop index).takeWhile (· = 0)).length

/-- The length of the longest run of zeros. -/
def longestZeros (pieces : List UInt16) : Nat :=
  (List.range pieces.length).foldl (fun n index => max n (zerosAt pieces index)) 0

def joined (pieces : List UInt16) : String :=
  ":".intercalate (pieces.map fun piece => String.ofList (Nat.toDigits 16 piece.toNat))

def text (address : Ipv6) : String :=
  let longest := longestZeros address.pieces
  match (List.range 8).find? (fun index => zerosAt address.pieces index = longest) with
  | some start =>
    if longest < 2 then joined address.pieces
    else
      joined (address.pieces.take start) ++ "::" ++
        joined (address.pieces.drop (start + longest))
  | none => joined address.pieces

end Ipv6

end VenueGateway
