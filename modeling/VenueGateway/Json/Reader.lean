import VenueGateway.Json.Number

/-! # Reading JSON texts

`read` reads a whole text as one value, with nothing but blanks around it, and reports the first
fault with its line and column. At most 127 arrays and objects may stand inside one another.
-/

namespace VenueGateway.Json

/-- The four blanks of JSON. -/
def isSpace (c : Char) : Bool := c = ' ' || c = '\n' || c = '\t' || c = '\r'

def skipSpace (cs : List Char) : List Char := cs.dropWhile isSpace

def byteCount (cs : List Char) : Nat := cs.foldl (fun count c => count + c.utf8Size) 0

/-- Four hexadecimal digits. Without four bytes left the string has ended. -/
def readHex4 (cs : List Char) : Reading Nat :=
  if byteCount (cs.take 4) < 4 then .error (.behind .endInString [])
  else
    let fault := ⟨.invalidEscape, cs, 4⟩
    match cs with
    | a :: b :: c :: d :: rest =>
      match Text.hexValue? a, Text.hexValue? b, Text.hexValue? c, Text.hexValue? d with
      | some a, some b, some c, some d => .ok (((a * 16 + b) * 16 + c) * 16 + d, rest)
      | _, _, _, _ => .error fault
    | _ => .error fault

/-- The character written by four hexadecimal digits, or by a pair of surrogates. -/
def readUnicode (cs : List Char) : Reading Char :=
  match readHex4 cs with
  | .error fault => .error fault
  | .ok (high, rest) =>
    if 0xDC00 ≤ high ∧ high ≤ 0xDFFF then .error (.behind .loneSurrogate rest)
    else if high < 0xD800 ∨ 0xDBFF < high then .ok (Char.ofNat high, rest)
    else
      match rest with
      | '\\' :: 'u' :: rest =>
        match readHex4 rest with
        | .error fault => .error fault
        | .ok (low, rest) =>
          if 0xDC00 ≤ low ∧ low ≤ 0xDFFF then
            .ok (Char.ofNat ((high - 0xD800) * 0x400 + (low - 0xDC00) + 0x10000), rest)
          else .error (.behind .loneSurrogate rest)
      | ['\\'] | [] => .error (.behind .endInString [])
      | '\\' :: rest => .error (.next .endOfHexEscape rest)
      | rest => .error (.next .endOfHexEscape rest)

/-- The character that an escape stands for, behind its backslash. -/
def readEscape : List Char → Reading Char
  | [] => .error (.behind .endInString [])
  | '"' :: rest => .ok ('"', rest)
  | '\\' :: rest => .ok ('\\', rest)
  | '/' :: rest => .ok ('/', rest)
  | 'b' :: rest => .ok ('\x08', rest)
  | 'f' :: rest => .ok ('\x0c', rest)
  | 'n' :: rest => .ok ('\n', rest)
  | 'r' :: rest => .ok ('\r', rest)
  | 't' :: rest => .ok ('\t', rest)
  | 'u' :: rest => readUnicode rest
  | cs => .error (.next .invalidEscape cs)

/-- The characters of a string up to its closing quote, the last one read first in `done`. The fuel
is at least the number of characters left. -/
def readString (fuel : Nat) (done : List Char) (cs : List Char) : Reading String :=
  match fuel, cs with
  | _, '"' :: rest => .ok (String.ofList done.reverse, rest)
  | fuel + 1, '\\' :: rest =>
    match readEscape rest with
    | .ok (c, rest) => readString fuel (c :: done) rest
    | .error fault => .error fault
  | fuel + 1, c :: rest =>
    if c.toNat < 0x20 then .error (.next .controlCharacter (c :: rest))
    else readString fuel (c :: done) rest
  | _, _ => .error (.behind .endInString [])

/-- The rest of a fixed word. -/
def readWord (value : Json) : List Char → List Char → Reading Json
  | [], cs => .ok (value, cs)
  | _ :: _, [] => .error (.behind .endInValue [])
  | expected :: word, c :: rest =>
    if c = expected then readWord value word rest else .error (.next .expectedIdent (c :: rest))

mutual

/-- A value, blanks in front allowed. `depth` counts the containers that may still be opened, and
the fuel is at least twice the number of characters left. -/
def readValue (fuel depth : Nat) (cs : List Char) : Reading Json :=
  match fuel, skipSpace cs with
  | _, [] => .error (.behind .endInValue [])
  | 0, cs => .error (.next .expectedValue cs)
  | fuel + 1, c :: rest =>
    match c with
    | 'n' => readWord .null ['u', 'l', 'l'] rest
    | 't' => readWord (.bool true) ['r', 'u', 'e'] rest
    | 'f' => readWord (.bool false) ['a', 'l', 's', 'e'] rest
    | '-' => readDigits true rest
    | '"' => (readString fuel [] rest).map fun (s, rest) => (.str s, rest)
    | '[' =>
      match depth with
      | 0 => .error (.next .recursionLimit (c :: rest))
      | depth + 1 =>
        match skipSpace rest with
        | ']' :: rest => .ok (.arr [], rest)
        | [] => .error (.behind .endInList [])
        | rest => readItems fuel depth [] rest
    | '\x7b' =>
      match depth with
      | 0 => .error (.next .recursionLimit (c :: rest))
      | depth + 1 =>
        match skipSpace rest with
        | '\x7d' :: rest => .ok (.obj [], rest)
        | '"' :: rest => readMembers fuel depth [] rest
        | [] => .error (.behind .endInObject [])
        | rest => .error (.next .keyNotString rest)
    | c =>
      if c.isDigit then readDigits false (c :: rest) else .error (.next .expectedValue (c :: rest))

/-- The items of an array from one that must stand here to the closing bracket, the last one read
first in `done`. The fuel is above twice the number of characters left. -/
def readItems (fuel depth : Nat) (done : List Json) (cs : List Char) : Reading Json :=
  match fuel with
  | 0 => .error (.behind .endInValue [])
  | fuel + 1 =>
    match readValue fuel depth cs with
    | .error fault => .error fault
    | .ok (item, rest) =>
      match skipSpace rest with
      | ']' :: rest => .ok (.arr (item :: done).reverse, rest)
      | ',' :: rest =>
        match skipSpace rest with
        | ']' :: rest => .error (.next .trailingComma (']' :: rest))
        | [] => .error (.behind .endInValue [])
        | rest => readItems fuel depth (item :: done) rest
      | [] => .error (.behind .endInList [])
      | rest => .error (.next .expectedListComma rest)

/-- The members of an object from one whose opening quote was read to the closing brace. The fuel is
above twice the number of characters left. -/
def readMembers (fuel depth : Nat) (done : List (String × Json)) (cs : List Char) : Reading Json :=
  match fuel with
  | 0 => .error (.behind .endInString [])
  | fuel + 1 =>
    match readString fuel [] cs with
    | .error fault => .error fault
    | .ok (name, rest) =>
      match skipSpace rest with
      | ':' :: rest =>
        match readValue fuel depth rest with
        | .error fault => .error fault
        | .ok (value, rest) =>
          let done := Entries.insert name value done
          match skipSpace rest with
          | '\x7d' :: rest => .ok (.obj done, rest)
          | ',' :: rest =>
            match skipSpace rest with
            | '"' :: rest => readMembers fuel depth done rest
            | '\x7d' :: rest => .error (.next .trailingComma ('\x7d' :: rest))
            | [] => .error (.behind .endInValue [])
            | rest => .error (.next .keyNotString rest)
          | [] => .error (.behind .endInObject [])
          | rest => .error (.next .expectedObjectComma rest)
      | [] => .error (.behind .endInObject [])
      | rest => .error (.next .expectedColon rest)

end

def depthLimit : Nat := 127

/-- Read characters as one value with nothing but blanks around it. -/
def readChars (cs : List Char) : Except Fault Json := do
  let (value, rest) ← readValue (2 * cs.length) depthLimit cs
  match skipSpace rest with
  | [] => .ok value
  | rest => .error (.next .trailingCharacters rest)

/-- Read a text as one value. -/
def read (s : String) : Except SyntaxError Json :=
  (readChars s.toList).mapError fun fault => fault.inText s.toList

end VenueGateway.Json
