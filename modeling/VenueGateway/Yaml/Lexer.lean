import VenueGateway.Yaml.Token

/-! # From text to tokens

One step passes blanks and comments, closes the blocks that ended, and takes one token. A text with
a character that it may not hold, or in which some token is malformed, has no tokens.
-/

namespace VenueGateway.Yaml.LexerState

/-- Pass blanks, comments and breaks, and in front of everything a byte order mark, which takes a
column like any character. Tabs do not count as indentation. A break outside of brackets allows a
key. -/
def skipBlanks : Nat → LexerState → LexerState
  | 0, s => s
  | fuel + 1, s =>
    let cursor := if s.cursor.offset = 0 && s.cursor.isAt '\uFEFF' then s.cursor.skip else s.cursor
    let (_, cursor) := cursor.skipWhile fun c =>
      c = ' ' || ((s.inFlow || !s.keyAllowed) && c = '\t')
    let cursor := if cursor.isAt '#' then (cursor.skipWhile (!isBreak ·)).2 else cursor
    if cursor.peek?.any isBreak then
      skipBlanks fuel
        { s with cursor := cursor.takeBreak.2, keyAllowed := s.keyAllowed || !s.inFlow }
    else s.moved cursor

/-! ## Names, tags and directives -/

/-- The name of an anchor or an alias, behind its indicator. -/
def readName (cursor : Cursor) : Option (String × Cursor) :=
  let (name, cursor) := cursor.skipWhile isNameChar
  let mayFollow : Char → Bool := fun c =>
    isGap c || isBreak c || c = '?' || c = ':' || c = ',' || c = ']' || c = '\x7d' || c = '%' ||
      c = '@' || c = '\x60'
  if name.isEmpty || !cursor.peek?.all mayFollow then none else some (String.ofList name, cursor)

/-- Whether a character may stand in a tag; brackets and commas only in a full one. -/
def isTagChar (full : Bool) (c : Char) : Bool :=
  isNameChar c || ";/?:@&=+$.%!~*'()".toList.contains c || (full && (c = ',' || c = '[' || c = ']'))

def readTagText (full : Bool) (cursor : Cursor) : List Char × Cursor :=
  cursor.skipWhile (isTagChar full)

/-- A handle: an exclamation mark, and perhaps a name and a second one. -/
def readHandle (cursor : Cursor) : List Char × Cursor :=
  let (name, cursor) := cursor.skip.skipWhile isNameChar
  if cursor.isAt '!' then ('!' :: name ++ ['!'], cursor.skip) else ('!' :: name, cursor)

/-- A tag: in full between angles, or a handle and a suffix. An exclamation mark alone is a tag. -/
def readTag (inFlow : Bool) (cursor : Cursor) : Option (Token × Cursor) := do
  let (handle, suffix, cursor) ←
    if (cursor.ahead.drop 1).head? = some '<' then do
      let (text, cursor) := readTagText true (cursor.skipMany 2)
      if text.isEmpty || !cursor.isAt '>' then none
      some ([], ← Tag.read? text, cursor.skip)
    else do
      let (handle, cursor) := readHandle cursor
      let (text, cursor) := readTagText false cursor
      if handle.length ≥ 2 && handle.getLast? = some '!' then
        if text.isEmpty then none
        some (handle, ← Tag.read? text, cursor)
      else
        let suffix ← Tag.read? (handle.drop 1 ++ text)
        some (if suffix.isEmpty then ([], Tag.ofString "!", cursor) else (['!'], suffix, cursor))
  if cursor.blankAfter 0 || (inFlow && cursor.isAt ',') then
    some (.tag (String.ofList handle) suffix, cursor)
  else none

def readVersionNumber (cursor : Cursor) : Option (Nat × Cursor) :=
  let (digits, cursor) := cursor.skipWhile Char.isDigit
  if digits.isEmpty || 9 < digits.length then none
  else some (Text.digitsValue digits, cursor)

/-- What a directive says, behind its name. -/
def readDirectiveBody (name : String) (cursor : Cursor) : Option (Token × Cursor) :=
  let (_, cursor) := cursor.skipWhile isGap
  if name = "YAML" then do
    let (major, cursor) ← readVersionNumber cursor
    if !cursor.isAt '.' then none
    let (minor, cursor) ← readVersionNumber cursor.skip
    some (.versionDirective major minor, cursor)
  else if name = "TAG" then do
    if !cursor.isAt '!' then none
    let (handle, cursor) := readHandle cursor
    if handle.getLast? ≠ some '!' then none
    let (gap, cursor) := cursor.skipWhile isGap
    let (expansion, cursor) := readTagText true cursor
    if gap.isEmpty || expansion.isEmpty || !cursor.blankAfter 0 then none
    some (.tagDirective (String.ofList handle) (← Tag.read? expansion), cursor)
  else none

/-- A directive with the rest of its line. -/
def readDirective (cursor : Cursor) : Option (Token × Cursor) := do
  let (name, cursor) := cursor.skip.skipWhile isNameChar
  if name.isEmpty || !cursor.blankAfter 0 then none
  let (token, cursor) ← readDirectiveBody (String.ofList name) cursor
  let (_, cursor) := cursor.skipWhile isGap
  let cursor := if cursor.isAt '#' then (cursor.skipWhile (!isBreak ·)).2 else cursor
  if cursor.peek?.all isBreak then some (token, cursor.takeBreak.2) else none

/-! ## Tokens -/

def takeMark (s : LexerState) (token : Token) : Option LexerState := do
  let s ← (s.unroll none).removeKey
  return (s.allowKey false).moved (s.cursor.skipMany 3) |>.push token

def takeDirective (s : LexerState) : Option LexerState := do
  let s ← (s.unroll none).removeKey
  let (token, cursor) ← readDirective s.cursor
  return (s.allowKey false).moved cursor |>.push token

/-- An opening bracket or brace, which may itself be the beginning of a key. -/
def takeOpening (s : LexerState) (token : Token) : Option LexerState := do
  let s ← s.saveKey
  return ({ s with keys := none :: s.keys }.allowKey true).moved s.cursor.skip |>.push token

def takeClosing (s : LexerState) (token : Token) : Option LexerState := do
  let s ← s.removeKey
  let keys := if s.inFlow then s.keys.drop 1 else s.keys
  return ({ s with keys := keys }.allowKey false).moved s.cursor.skip |>.push token

def takeFlowEntry (s : LexerState) : Option LexerState := do
  let s ← s.removeKey
  return (s.allowKey true).moved s.cursor.skip |>.push .flowEntry

/-- A hyphen in front of an item. Outside of brackets it needs the place of a key. -/
def takeBlockEntry (s : LexerState) : Option LexerState := do
  if !s.inFlow && !s.keyAllowed then none
  let s ← (s.roll s.cursor.column s.tokens.length .blockSequenceStart).removeKey
  return (s.allowKey true).moved s.cursor.skip |>.push .blockEntry

def takeKey (s : LexerState) : Option LexerState := do
  if !s.inFlow && !s.keyAllowed then none
  let s ← (s.roll s.cursor.column s.tokens.length .blockMappingStart).removeKey
  return (s.allowKey (!s.inFlow)).moved s.cursor.skip |>.push .key

/-- A colon in front of a value: what may have been a key is one, or the key is empty. -/
def takeValue (s : LexerState) : Option LexerState :=
  match s.keys.head?.join with
  | some place =>
    let s := s.pushAt place.tokensBefore .key
    let s := s.roll place.column place.tokensBefore .blockMappingStart
    some (((s.setKey none).allowKey false).moved s.cursor.skip |>.push .value)
  | none => do
    if !s.inFlow && !s.keyAllowed then none
    let s := s.roll s.cursor.column s.tokens.length .blockMappingStart
    return (s.allowKey (!s.inFlow)).moved s.cursor.skip |>.push .value

/-- A token that may be the beginning of a key but is followed by none. -/
def takeAtom (s : LexerState) (read : Cursor → Option (Token × Cursor)) : Option LexerState := do
  let s ← s.saveKey
  let (token, cursor) ← read s.cursor
  return (s.allowKey false).moved cursor |>.push token

def takeQuoted (s : LexerState) (quote : Char) : Option LexerState :=
  s.takeAtom fun cursor => do
    let (text, cursor) ← readQuoted quote (cursor.ahead.length + 1) [] cursor.skip
    return (.scalar (String.ofList text) .quoted, cursor)

def takeBlock (s : LexerState) (style : ScalarStyle) : Option LexerState := do
  let s ← s.removeKey
  let (text, cursor) ← readBlock style s.blocks.head? s.cursor.skip
  return (s.allowKey true).moved cursor |>.push (.scalar (String.ofList text) style)

/-- A plain scalar; a key may follow on a new line. -/
def takePlain (s : LexerState) : Option LexerState := do
  let s ← s.saveKey
  let (text, broken, cursor) ←
    readPlain s.inFlow s.leastColumn (s.cursor.ahead.length + 1) [] .none s.cursor
  return (s.allowKey broken).moved cursor |>.push (.scalar (String.ofList text) .plain)

/-- Whether a plain scalar may begin here. -/
def startsPlain (s : LexerState) (c : Char) : Bool :=
  let indicators := "-?:,[]\x7b\x7d#&*!|>'\"%@\x60".toList
  !(isGap c || isBreak c || indicators.contains c) ||
    (c = '-' && (s.cursor.ahead.drop 1).head?.all (!isGap ·)) ||
    (!s.inFlow && (c = '?' || c = ':') && !s.cursor.blankAfter 1)

/-- Take the token that begins with the next character. -/
def takeToken (s : LexerState) (c : Char) : Option LexerState :=
  if s.cursor.column = 0 && c = '%' then s.takeDirective
  else if s.cursor.atMark '-' then s.takeMark .documentStart
  else if s.cursor.atMark '.' then s.takeMark .documentEnd
  else
    let blankNext := s.cursor.blankAfter 1
    match c with
    | '[' => s.takeOpening .flowSequenceStart
    | '\x7b' => s.takeOpening .flowMappingStart
    | ']' => s.takeClosing .flowSequenceEnd
    | '\x7d' => s.takeClosing .flowMappingEnd
    | ',' => s.takeFlowEntry
    | '*' => s.takeAtom fun cursor => do
      let (name, cursor) ← readName cursor.skip
      return (.alias name, cursor)
    | '&' => s.takeAtom fun cursor => do
      let (name, cursor) ← readName cursor.skip
      return (.anchor name, cursor)
    | '!' => s.takeAtom (readTag s.inFlow)
    | '\'' => s.takeQuoted '\''
    | '"' => s.takeQuoted '"'
    | c =>
      if c = '-' && blankNext then s.takeBlockEntry
      else if c = '?' && (s.inFlow || blankNext) then s.takeKey
      else if c = ':' && (s.inFlow || blankNext) then s.takeValue
      else if c = '|' && !s.inFlow then s.takeBlock .literal
      else if c = '>' && !s.inFlow then s.takeBlock .folded
      else if s.startsPlain c then s.takePlain
      else none

def run : Nat → LexerState → Option (List Token)
  | 0, _ => none
  | fuel + 1, s => do
    let s ← (skipBlanks (s.cursor.ahead.length + 1) s).dropStale
    let s := s.unroll (some s.cursor.column)
    match s.cursor.peek? with
    | some c => run fuel (← s.takeToken c)
    | none => return (← (s.unroll none).removeKey).tokens.reverse

def tokens? (text : List Char) : Option (List Token) :=
  if text.all isPrintable then run (text.length + 1) (.start text) else none

end VenueGateway.Yaml.LexerState
