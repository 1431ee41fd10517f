/-! # Blank characters and trimming

A blank is a character with the Unicode property White_Space. Configured names, exchange timestamps
and order sides are trimmed of blanks before they are read, and a credential of blanks alone counts
as absent.
-/

namespace VenueGateway.Text

/-- Code points of the Unicode property White_Space, in increasing order. -/
def blankCodes : List Nat :=
  [0x09, 0x0A, 0x0B, 0x0C, 0x0D, 0x20, 0x85, 0xA0, 0x1680,
   0x2000, 0x2001, 0x2002, 0x2003, 0x2004, 0x2005, 0x2006, 0x2007, 0x2008, 0x2009, 0x200A,
   0x2028, 0x2029, 0x202F, 0x205F, 0x3000]

def isBlank (c : Char) : Bool := blankCodes.contains c.toNat

def trimStart (cs : List Char) : List Char := cs.dropWhile isBlank

def trimEnd (cs : List Char) : List Char := (cs.reverse.dropWhile isBlank).reverse

def trimChars (cs : List Char) : List Char := trimEnd (trimStart cs)

def trim (s : String) : String := String.ofList (trimChars s.toList)

/-- A text without a visible character: empty, or blanks alone. -/
def isBlankText (s : String) : Bool := s.toList.all isBlank

end VenueGateway.Text
