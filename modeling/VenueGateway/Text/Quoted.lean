import VenueGateway.Text.Shown

/-! # Texts shown between quotes

Diagnostics show a text between double quotes. A quote, a backslash and the usual control characters
are written with a backslash, any other character that is not shown as it is by its code point in
hexadecimal.
-/

namespace VenueGateway.Text

/-- A code point in lowercase hexadecimal, between braces. -/
def codePointEscape (c : Char) : List Char :=
  "\\u\x7b".toList ++ Nat.toDigits 16 c.toNat ++ "\x7d".toList

def quotedChar : Char → List Char
  | '"' => ['\\', '"']
  | '\\' => ['\\', '\\']
  | '\n' => ['\\', 'n']
  | '\r' => ['\\', 'r']
  | '\t' => ['\\', 't']
  | '\x00' => ['\\', '0']
  | c => if isShown c then [c] else codePointEscape c

def quoted (s : String) : String :=
  String.ofList ('"' :: s.toList.flatMap quotedChar ++ ['"'])

/-- Texts in brackets, each already in its shown form. -/
def bracketed (items : List String) : String := "[" ++ ", ".intercalate items ++ "]"

/-- A named group of fields, each already in its shown form. -/
def shownRecord (name : String) (fields : List (String × String)) : String :=
  name ++ " \x7b " ++ ", ".intercalate (fields.map fun field => field.1 ++ ": " ++ field.2) ++
    " \x7d"

/-- A named group that shows some of its fields and keeps the others to itself. -/
def shownPartially (name : String) (fields : List (String × String)) : String :=
  name ++ " \x7b " ++ ", ".intercalate (fields.map fun field => field.1 ++ ": " ++ field.2) ++
    ", .. \x7d"

end VenueGateway.Text
