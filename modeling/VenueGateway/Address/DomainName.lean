import VenueGateway.Text.Capital
import VenueGateway.Text.Category
import VenueGateway.Text.Punycode
import VenueGateway.Text.Utf8

/-! # Domain names

A domain name is a sequence of labels with points between them, here in the form that is looked up:
small letters, and labels beyond ASCII in Punycode behind `xn--`. `ofBytes?` brings a name into this
form, in which `isAscii` holds of every label.
-/

namespace VenueGateway.DomainName

/-- Characters of ASCII that no name contains: controls, the space, and those that have a meaning in
an address. -/
def isDenied (c : Char) : Bool :=
  c ≤ ' ' || c = '\x7f' ||
    ['%', '#', '/', ':', '<', '>', '?', '@', '[', '\\', ']', '^', '|'].contains c

/-- The runs of characters that are left out of a name: they only say how their neighbours look. -/
def silentRuns : List (Nat × Nat) :=
  [(0xAD, 0xAD), (0x34F, 0x34F), (0x180B, 0x180D), (0x180F, 0x180F), (0x200B, 0x200B),
   (0x2060, 0x2060), (0x2064, 0x2064), (0xFE00, 0xFE0F), (0xFEFF, 0xFEFF), (0x1BCA0, 0x1BCA3),
   (0xE0100, 0xE01EF)]

/-- The runs of characters that stand for a text with a denied character in it, such as an accent on
a space, and of those that describe or replace others. -/
def excludedRuns : List (Nat × Nat) :=
  [(0xA8, 0xA8), (0xAF, 0xAF), (0xB4, 0xB4), (0xB8, 0xB8), (0x2D8, 0x2DD), (0x37A, 0x37A),
   (0x384, 0x385), (0x1806, 0x1806), (0x1FBD, 0x1FBD), (0x1FBF, 0x1FC1), (0x1FCD, 0x1FCF),
   (0x1FDD, 0x1FDF), (0x1FED, 0x1FEE), (0x1FFD, 0x1FFE), (0x2017, 0x2017), (0x203E, 0x203E),
   (0x2047, 0x2049), (0x2100, 0x2101), (0x2105, 0x2106), (0x2A74, 0x2A74), (0x2FF0, 0x2FFF),
   (0x309B, 0x309C), (0xFC5E, 0xFC63), (0xFDFA, 0xFDFB), (0xFE13, 0xFE13), (0xFE16, 0xFE16),
   (0xFE47, 0xFE4C), (0xFE55, 0xFE56), (0xFE5F, 0xFE5F), (0xFE64, 0xFE65), (0xFE68, 0xFE68),
   (0xFE6A, 0xFE6B), (0xFE70, 0xFE70), (0xFE72, 0xFE72), (0xFE74, 0xFE74), (0xFE76, 0xFE76),
   (0xFE78, 0xFE78), (0xFE7A, 0xFE7A), (0xFE7C, 0xFE7C), (0xFE7E, 0xFE7E), (0xFFE3, 0xFFE3),
   (0xFFFC, 0xFFFD)]

/-- The ASCII character that a full-width form or an ideographic full stop stands for; any other
character stands for itself. -/
def narrow (c : Char) : Char :=
  if 0xFF01 ≤ c.toNat ∧ c.toNat ≤ 0xFF5E then Char.ofNat (c.toNat - 0xFF01 + '!'.toNat)
  else if c.toNat = 0x3002 ∨ c.toNat = 0xFF61 then '.'
  else c

/-- What a character is in a name: itself or its small letter, or nothing. -/
def fold? (c : Char) : Option (List Char) :=
  let c := narrow c
  if c.toNat < 0x80 then if isDenied c then none else some [c.toLower]
  else if Text.inRuns silentRuns c then some []
  else if Text.inRuns excludedRuns c || Text.isFormless c then none
  else some [Text.smallLetter c]

def punycodeMark : List Char := "xn--".toList

def isAscii (label : List Char) : Bool := label.all (·.toNat < 0x80)

/-- Whether a label beyond ASCII may be part of a name: its characters are in their folded form and
the first one is no mark on another. -/
def isProper (label : List Char) : Bool :=
  label.all (fun c => fold? c = some [c]) && !(label.head?.any Text.isMark)

/-- A folded label in ASCII. One that is already in Punycode must stand for a label beyond ASCII. -/
def asciiLabel? (label : List Char) : Option (List Char) :=
  if punycodeMark.isPrefixOf label then do
    let meant ← Punycode.read? (label.drop punycodeMark.length)
    if isAscii label && !isAscii meant && isProper meant then some label else none
  else if isAscii label then some label
  else if isProper label then some (punycodeMark ++ Punycode.write label)
  else none

/-- The name that bytes stand for, in the form that is looked up. It may be empty. -/
def ofBytes? (bytes : List UInt8) : Option (List Char) := do
  let folded ← (← Text.ofUtf8? bytes).toList.mapM fold?
  return ['.'].intercalate (← (folded.flatten.splitOn '.').mapM asciiLabel?)

end VenueGateway.DomainName
