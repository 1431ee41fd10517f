import VenueGateway.Json.Basic
import VenueGateway.Text.Digits

/-! # Writing JSON texts

Values are written without blanks, or laid out for readers with one item or member to a line. In
strings a quote, a backslash and the control characters are escaped, with the short escapes where
JSON has them.
-/

namespace VenueGateway.Json

def escapedChar : Char → List Char
  | '"' => ['\\', '"']
  | '\\' => ['\\', '\\']
  | '\x08' => ['\\', 'b']
  | '\x0c' => ['\\', 'f']
  | '\n' => ['\\', 'n']
  | '\r' => ['\\', 'r']
  | '\t' => ['\\', 't']
  | c =>
    if c.toNat < 0x20 then
      ['\\', 'u', '0', '0', Text.hexDigit (c.toNat / 16), Text.hexDigit c.toNat]
    else [c]

def writeString (s : String) : List Char := '"' :: s.toList.flatMap escapedChar ++ ['"']

mutual

def writeChars : Json → List Char
  | .null => "null".toList
  | .bool true => "true".toList
  | .bool false => "false".toList
  | .int value => (if value < 0 then ['-'] else []) ++ Nat.toDigits 10 value.natAbs
  | .float value => value.text.toList
  | .str value => writeString value
  | .arr [] => ['[', ']']
  | .arr (item :: items) => '[' :: writeChars item ++ writeItems items
  | .obj [] => ['\x7b', '\x7d']
  | .obj ((name, value) :: members) =>
    '\x7b' :: writeString name ++ ':' :: writeChars value ++ writeMembers members

/-- The items behind the first one, and the closing bracket. -/
def writeItems : List Json → List Char
  | [] => [']']
  | item :: items => ',' :: writeChars item ++ writeItems items

/-- The members behind the first one, and the closing brace. -/
def writeMembers : List (String × Json) → List Char
  | [] => ['\x7d']
  | (name, value) :: members =>
    ',' :: writeString name ++ ':' :: writeChars value ++ writeMembers members

end

def write (value : Json) : String := String.ofList (writeChars value)

def lineStart (depth : Nat) : List Char := '\n' :: List.replicate (2 * depth) ' '

mutual

/-- The characters of a value laid out at some depth. Empty collections stay on one line. -/
def layOutChars (depth : Nat) : Json → List Char
  | .arr (item :: items) =>
    '[' :: lineStart (depth + 1) ++ layOutChars (depth + 1) item ++ layOutItems (depth + 1) items ++
      lineStart depth ++ [']']
  | .obj ((name, value) :: members) =>
    '\x7b' :: lineStart (depth + 1) ++ writeString name ++ [':', ' '] ++
      layOutChars (depth + 1) value ++ layOutMembers (depth + 1) members ++ lineStart depth ++
      ['\x7d']
  | value => writeChars value

/-- The items behind the first one, each on a line of its own. -/
def layOutItems (depth : Nat) : List Json → List Char
  | [] => []
  | item :: items => ',' :: lineStart depth ++ layOutChars depth item ++ layOutItems depth items

/-- The members behind the first one, each on a line of its own. -/
def layOutMembers (depth : Nat) : List (String × Json) → List Char
  | [] => []
  | (name, value) :: members =>
    ',' :: lineStart depth ++ writeString name ++ [':', ' '] ++ layOutChars depth value ++
      layOutMembers depth members

end

def layOut (value : Json) : String := String.ofList (layOutChars 0 value)

end VenueGateway.Json
