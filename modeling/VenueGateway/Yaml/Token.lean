import VenueGateway.Yaml.Scalar
import VenueGateway.Yaml.Tag

/-! # YAML tokens

Tokens make the structure of a text explicit: where collections begin and end, and where a key and
where a value follows. Whether a scalar was a key shows only at the colon behind it, so the token of
the key is put in front of the scalar afterwards.
-/

namespace VenueGateway.Yaml

/-- A token. -/
inductive Token
  | versionDirective (major minor : Nat)
  | tagDirective (handle : String) (expansion : Tag)
  | documentStart
  | documentEnd
  | blockSequenceStart
  | blockMappingStart
  | blockEnd
  | flowSequenceStart
  | flowSequenceEnd
  | flowMappingStart
  | flowMappingEnd
  | blockEntry
  | flowEntry
  | key
  | value
  | alias (name : String)
  | anchor (name : String)
  | tag (handle : String) (suffix : Tag)
  | scalar (text : String) (style : ScalarStyle)
deriving DecidableEq

/-- A place where a key may begin: how many tokens stand before it, and where it is in the text. A
required key must turn out to be one. -/
structure KeyPlace where
  tokensBefore : Nat
  required : Bool
  offset : Nat
  line : Nat
  column : Nat

/-- The state between two tokens: the tokens so far, the last one first; the columns of the open
blocks, the innermost first; the possible keys, one for each level of brackets, the innermost
first. -/
structure LexerState where
  cursor : Cursor
  tokens : List Token
  blocks : List Nat
  keys : List (Option KeyPlace)
  keyAllowed : Bool

namespace LexerState

def start (cs : List Char) : LexerState := ⟨.start cs, [], [], [none], true⟩

def inFlow (s : LexerState) : Bool := 1 < s.keys.length

def leastColumn (s : LexerState) : Nat := (s.blocks.head?.map (· + 1)).getD 0

def push (s : LexerState) (token : Token) : LexerState := { s with tokens := token :: s.tokens }

/-- Put a token behind the first `count` tokens. -/
def pushAt (s : LexerState) (count : Nat) (token : Token) : LexerState :=
  { s with tokens := s.tokens.insertIdx (s.tokens.length - count) token }

def moved (s : LexerState) (cursor : Cursor) : LexerState := { s with cursor := cursor }

/-- Close the blocks that begin right of a column; with no column, all of them. -/
def closeBlocks (column : Option Nat) : Nat → LexerState → LexerState
  | 0, s => s
  | fuel + 1, s =>
    match s.blocks with
    | block :: blocks =>
      if column.all (· < block) then
        closeBlocks column fuel ({ s with blocks := blocks }.push .blockEnd)
      else s
    | [] => s

/-- Close blocks unless inside of brackets. -/
def unroll (s : LexerState) (column : Option Nat) : LexerState :=
  if s.inFlow then s else closeBlocks column s.blocks.length s

/-- Open a block at a column if it lies right of the innermost one, with its token behind the first
`count` tokens. -/
def roll (s : LexerState) (column count : Nat) (token : Token) : LexerState :=
  if !s.inFlow && s.blocks.head?.all (· < column) then
    { s with blocks := column :: s.blocks }.pushAt count token
  else s

/-- A possible key can no longer be one when its line has ended or more than 1024 bytes of it were
read. -/
def isStale (cursor : Cursor) (place : KeyPlace) : Bool :=
  place.line < cursor.line || place.offset + 1024 < cursor.offset

/-- Give up the possible keys that no longer can be. A required one is malformed. -/
def dropStale (s : LexerState) : Option LexerState := do
  let keys ← s.keys.mapM fun key =>
    match key with
    | some place =>
      if isStale s.cursor place then
        if place.required then none else some none
      else some (some place)
    | none => some none
  return { s with keys := keys }

def setKey (s : LexerState) (key : Option KeyPlace) : LexerState :=
  { s with keys := key :: s.keys.drop 1 }

/-- Give up the possible key of the innermost level. A required one is malformed. -/
def removeKey (s : LexerState) : Option LexerState :=
  match s.keys.head?.join with
  | some place => if place.required then none else some (s.setKey none)
  | none => some (s.setKey none)

/-- Note that a key may begin here. -/
def saveKey (s : LexerState) : Option LexerState :=
  if s.keyAllowed then do
    let required := !s.inFlow && s.blocks.head? = some s.cursor.column
    let place :=
      ⟨s.tokens.length, required, s.cursor.offset, s.cursor.line, s.cursor.column⟩
    return (← s.removeKey).setKey (some place)
  else some s

def allowKey (s : LexerState) (allowed : Bool) : LexerState := { s with keyAllowed := allowed }

end LexerState

end VenueGateway.Yaml
