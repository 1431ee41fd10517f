/-! # A place in a YAML text

YAML tells structure by columns, so reading goes through a cursor that knows the characters ahead,
how many bytes were passed, and the line and column it is at. Line breaks of every kind count alike.
-/

namespace VenueGateway.Yaml

/-- The characters ahead, and where they begin. -/
structure Cursor where
  ahead : List Char
  offset : Nat
  line : Nat
  column : Nat

def isGap (c : Char) : Bool := c = ' ' || c = '\t'

/-- A line break: of Windows, Unix and old Macs, and three more of Unicode. -/
def isBreak (c : Char) : Bool :=
  c = '\n' || c = '\r' || c = '\x85' || c = '\u2028' || c = '\u2029'

/-- Letters, digits, underscore and hyphen of ASCII, of which names of anchors are made. -/
def isNameChar (c : Char) : Bool := c.isAlphanum || c = '_' || c = '-'

/-- Whether a text may hold the character at all. -/
def isPrintable (c : Char) : Bool :=
  c = '\t' || c = '\n' || c = '\r' || (' ' ≤ c && c ≤ '~') || c = '\x85' ||
    ('\xA0' ≤ c && c ≤ '\uD7FF') || ('\uE000' ≤ c && c ≤ '\uFFFD') || 0x10000 ≤ c.toNat

namespace Cursor

def start (cs : List Char) : Cursor := ⟨cs, 0, 0, 0⟩

def peek? (cursor : Cursor) : Option Char := cursor.ahead.head?

/-- Whether the next character is this one. -/
def isAt (cursor : Cursor) (c : Char) : Bool := cursor.peek? = some c

def atEnd (cursor : Cursor) : Bool := cursor.ahead.isEmpty

/-- Whether the text ends or a gap or break stands behind some characters. -/
def blankAfter (cursor : Cursor) (count : Nat) : Bool :=
  match (cursor.ahead.drop count).head? with
  | none => true
  | some c => isGap c || isBreak c

def sizeOf (cs : List Char) : Nat := cs.foldl (fun count c => count + c.utf8Size) 0

def skip (cursor : Cursor) : Cursor :=
  match cursor.ahead with
  | c :: rest => ⟨rest, cursor.offset + c.utf8Size, cursor.line, cursor.column + 1⟩
  | [] => cursor

def skipMany (cursor : Cursor) (count : Nat) : Cursor :=
  let size := sizeOf (cursor.ahead.take count)
  ⟨cursor.ahead.drop count, cursor.offset + size, cursor.line, cursor.column + count⟩

/-- Pass a line break; the two characters of Windows are one break. The break is given as it counts
in a scalar: the two separators of Unicode stay, all others are a line feed. -/
def takeBreak (cursor : Cursor) : List Char × Cursor :=
  match cursor.ahead with
  | '\r' :: '\n' :: rest => (['\n'], ⟨rest, cursor.offset + 2, cursor.line + 1, 0⟩)
  | c :: rest =>
    let after : Cursor := ⟨rest, cursor.offset + c.utf8Size, cursor.line + 1, 0⟩
    if c = '\u2028' || c = '\u2029' then ([c], after)
    else if isBreak c then (['\n'], after)
    else ([], cursor)
  | [] => ([], cursor)

/-- Pass the characters of a class, none of which is a break. -/
def skipWhile (cursor : Cursor) (p : Char → Bool) : List Char × Cursor :=
  let passed := cursor.ahead.takeWhile p
  (passed, cursor.skipMany passed.length)

/-- Whether the cursor stands at a mark between documents: three hyphens or three points at the
beginning of a line. -/
def atMark (cursor : Cursor) (c : Char) : Bool :=
  cursor.column = 0 && cursor.ahead.take 3 = [c, c, c] && cursor.blankAfter 3

def atAnyMark (cursor : Cursor) : Bool := cursor.atMark '-' || cursor.atMark '.'

end Cursor

end VenueGateway.Yaml
