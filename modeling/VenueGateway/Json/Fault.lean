import VenueGateway.Text.Utf8

/-! # Where and why a JSON text cannot be read

A fault names its cause, the characters that are left at the fault, and how many bytes of them were
already taken. Its place in the text is the line and the column just behind the last byte taken,
with columns counted in UTF-8 bytes.
-/

namespace VenueGateway.Json

/-- Why a text is not JSON. -/
inductive SyntaxCause
  | endInValue
  | endInList
  | endInObject
  | endInString
  | expectedColon
  | expectedListComma
  | expectedObjectComma
  | expectedIdent
  | expectedValue
  | invalidEscape
  | invalidNumber
  | numberOutOfRange
  | controlCharacter
  | keyNotString
  | loneSurrogate
  | endOfHexEscape
  | trailingComma
  | trailingCharacters
  | recursionLimit
deriving DecidableEq

def SyntaxCause.message : SyntaxCause → String
  | endInValue => "EOF while parsing a value"
  | endInList => "EOF while parsing a list"
  | endInObject => "EOF while parsing an object"
  | endInString => "EOF while parsing a string"
  | expectedColon => "expected \x60:\x60"
  | expectedListComma => "expected \x60,\x60 or \x60]\x60"
  | expectedObjectComma => "expected \x60,\x60 or \x60\x7d\x60"
  | expectedIdent => "expected ident"
  | expectedValue => "expected value"
  | invalidEscape => "invalid escape"
  | invalidNumber => "invalid number"
  | numberOutOfRange => "number out of range"
  | controlCharacter => "control character (\\u0000-\\u001F) found while parsing a string"
  | keyNotString => "key must be a string"
  | loneSurrogate => "lone leading surrogate in hex escape"
  | endOfHexEscape => "unexpected end of hex escape"
  | trailingComma => "trailing comma"
  | trailingCharacters => "trailing characters"
  | recursionLimit => "recursion limit exceeded"

/-- A cause, the characters left at the fault, and the bytes of them already taken. -/
structure Fault where
  cause : SyntaxCause
  left : List Char
  taken : Nat
deriving DecidableEq

/-- A fault found by looking at the next character: its first byte counts as taken. -/
def Fault.next (cause : SyntaxCause) (left : List Char) : Fault := ⟨cause, left, 1⟩

def Fault.behind (cause : SyntaxCause) (left : List Char) : Fault := ⟨cause, left, 0⟩

/-- A place in a text: lines count from one, columns are the bytes read since the line began. -/
structure Place where
  line : Nat
  column : Nat
deriving DecidableEq

def Place.behind (bytes : List UInt8) : Place :=
  bytes.foldl
    (fun place byte => if byte = 10 then ⟨place.line + 1, 0⟩ else ⟨place.line, place.column + 1⟩)
    ⟨1, 0⟩

/-- Why, and where, a text is not JSON. -/
structure SyntaxError where
  cause : SyntaxCause
  place : Place
deriving DecidableEq

/-- The error that a fault means in the text that was being read. -/
def Fault.inText (fault : Fault) (text : List Char) : SyntaxError :=
  let bytes := Text.utf8 (String.ofList text)
  let before := bytes.length - (Text.utf8 (String.ofList fault.left)).length
  ⟨fault.cause, Place.behind (bytes.take (before + fault.taken))⟩

def SyntaxError.message (e : SyntaxError) : String :=
  e.cause.message ++ " at line " ++ toString e.place.line ++ " column " ++ toString e.place.column

end VenueGateway.Json
