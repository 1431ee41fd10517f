import VenueGateway.Text.Digits
import VenueGateway.Yaml.Cursor

/-! # YAML scalars

The text of a scalar in each of its styles: plain, between quotes, and in a block below an
indicator. A line break inside a scalar is folded to a space, and a run of breaks to one break less,
except in literal blocks. Nothing is read where a scalar is malformed.
-/

namespace VenueGateway.Yaml

/-- How a scalar is written: plain, between quotes, or in a block whose lines are kept or folded. -/
inductive ScalarStyle
  | plain
  | quoted
  | literal
  | folded
deriving DecidableEq

/-- Blanks between two words of a scalar: the gap before the first break, that break, and all
further breaks. -/
structure Interval where
  gap : List Char
  first : List Char
  further : List Char
  broken : Bool

def Interval.none : Interval := ⟨[], [], [], false⟩

/-- What the blanks between two words become. -/
def Interval.folded (interval : Interval) : List Char :=
  if !interval.broken then interval.gap
  else if interval.first = ['\n'] then
    if interval.further.isEmpty then [' '] else interval.further
  else interval.first ++ interval.further

/-- Pass gaps and breaks. A tab left of the least column, where there is one, is malformed. -/
def readInterval (least : Option Nat) : Nat → Interval → Cursor → Option (Interval × Cursor)
  | 0, interval, cursor => some (interval, cursor)
  | fuel + 1, interval, cursor =>
    match cursor.peek? with
    | none => some (interval, cursor)
    | some c =>
      if isGap c then
        if interval.broken then
          if c = '\t' && least.any (cursor.column < ·) then none
          else readInterval least fuel interval cursor.skip
        else readInterval least fuel { interval with gap := interval.gap ++ [c] } cursor.skip
      else if isBreak c then
        let (mark, after) := cursor.takeBreak
        if interval.broken then
          readInterval least fuel { interval with further := interval.further ++ mark } after
        else
          readInterval least fuel { interval with gap := [], first := mark, broken := true } after
      else some (interval, cursor)

/-! ## Plain scalars -/

/-- Brackets, braces and commas, which end a plain scalar inside of brackets or braces. -/
def isFlowMark (c : Char) : Bool := c = ',' || c = '[' || c = ']' || c = '\x7b' || c = '\x7d'

/-- The characters of a plain word. A colon ends it before a blank; inside of brackets it must not
be followed by a mark. -/
def readWord (inFlow : Bool) : Nat → List Char → Cursor → Option (List Char × Cursor)
  | 0, done, cursor => some (done.reverse, cursor)
  | fuel + 1, done, cursor =>
    match cursor.peek? with
    | none => some (done.reverse, cursor)
    | some c =>
      let next := (cursor.ahead.drop 1).head?
      if isGap c || isBreak c then some (done.reverse, cursor)
      else if inFlow && c = ':' && next.any (fun n => isFlowMark n || n = '?') then none
      else if c = ':' && cursor.blankAfter 1 then some (done.reverse, cursor)
      else if inFlow && isFlowMark c then some (done.reverse, cursor)
      else readWord inFlow fuel (c :: done) cursor.skip

/-- The words of a plain scalar, which stand right of the parent's column unless inside of brackets.
Also tells whether the scalar was followed by a break. -/
def readPlain (inFlow : Bool) (least : Nat) :
    Nat → List Char → Interval → Cursor → Option (List Char × Bool × Cursor)
  | 0, done, interval, cursor => some (done, interval.broken, cursor)
  | fuel + 1, done, interval, cursor =>
    if cursor.atAnyMark || cursor.isAt '#' then some (done, interval.broken, cursor)
    else do
      let (word, cursor) ← readWord inFlow cursor.ahead.length [] cursor
      let (done, interval) :=
        if word.isEmpty then (done, interval) else (done ++ interval.folded ++ word, Interval.none)
      if cursor.peek?.any (fun c => isGap c || isBreak c) then
        let (interval, cursor) ← readInterval (some least) cursor.ahead.length interval cursor
        if !inFlow && cursor.column < least then some (done, interval.broken, cursor)
        else readPlain inFlow least fuel done interval cursor
      else some (done, interval.broken, cursor)

/-! ## Quoted scalars -/

/-- The character with a code point of a number of hexadecimal digits. -/
def readCodePoint (count : Nat) (cursor : Cursor) : Option (Char × Cursor) := do
  let digits := cursor.ahead.take count
  if digits.length < count then none
  let code ← digits.foldlM (fun n c => (Text.hexValue? c).map (n * 16 + ·)) 0
  if code.isValidChar then some (Char.ofNat code, cursor.skipMany count) else none

/-- The character that an escape stands for, behind its backslash. -/
def readEscape (cursor : Cursor) : Option (Char × Cursor) := do
  let c ← cursor.peek?
  let after := cursor.skip
  match c with
  | '0' => some ('\x00', after)
  | 'a' => some ('\x07', after)
  | 'b' => some ('\x08', after)
  | 't' | '\t' => some ('\t', after)
  | 'n' => some ('\n', after)
  | 'v' => some ('\x0b', after)
  | 'f' => some ('\x0c', after)
  | 'r' => some ('\r', after)
  | 'e' => some ('\x1b', after)
  | ' ' | '"' | '/' | '\\' => some (c, after)
  | 'N' => some ('\x85', after)
  | '_' => some ('\xa0', after)
  | 'L' => some ('\u2028', after)
  | 'P' => some ('\u2029', after)
  | 'x' => readCodePoint 2 after
  | 'u' => readCodePoint 4 after
  | 'U' => readCodePoint 8 after
  | _ => none

/-- A word of a quoted scalar, and whether it ended at an escaped break. -/
def readQuotedWord (quote : Char) : Nat → List Char → Cursor → Option (List Char × Bool × Cursor)
  | 0, done, cursor => some (done.reverse, false, cursor)
  | fuel + 1, done, cursor =>
    match cursor.ahead with
    | [] => some (done.reverse, false, cursor)
    | c :: rest =>
      if isGap c || isBreak c then some (done.reverse, false, cursor)
      else if c = quote then
        if quote = '\'' && rest.head? = some '\'' then
          readQuotedWord quote fuel (c :: done) (cursor.skipMany 2)
        else some (done.reverse, false, cursor)
      else if quote = '"' && c = '\\' then
        if rest.head?.any isBreak then some (done.reverse, true, cursor.skip.takeBreak.2)
        else do
          let (escaped, cursor) ← readEscape cursor.skip
          readQuotedWord quote fuel (escaped :: done) cursor
      else readQuotedWord quote fuel (c :: done) cursor.skip

/-- The words of a quoted scalar up to its closing quote. -/
def readQuoted (quote : Char) : Nat → List Char → Cursor → Option (List Char × Cursor)
  | 0, _, _ => none
  | fuel + 1, done, cursor =>
    if cursor.atAnyMark || cursor.atEnd then none
    else do
      let (word, escapedBreak, cursor) ← readQuotedWord quote cursor.ahead.length [] cursor
      let done := done ++ word
      if cursor.isAt quote then some (done, cursor.skip)
      else
        let blanks := { Interval.none with broken := escapedBreak }
        let (interval, cursor) ← readInterval none cursor.ahead.length blanks cursor
        readQuoted quote fuel (done ++ interval.folded) cursor

/-! ## Block scalars -/

/-- What becomes of the breaks behind a block. -/
inductive Chomping
  | strip
  | clip
  | keep
deriving DecidableEq

/-- The header of a block: chomping and indentation in either order. -/
structure BlockHeader where
  chomping : Chomping
  indentation : Option Nat

/-- A sign of chomping. -/
def readChomping (cursor : Cursor) : Option Chomping × Cursor :=
  if cursor.isAt '+' then (some .keep, cursor.skip)
  else if cursor.isAt '-' then (some .strip, cursor.skip)
  else (none, cursor)

/-- A digit of indentation, which must not be zero. -/
def readIndentation (cursor : Cursor) : Option (Option Nat × Cursor) :=
  match cursor.peek? with
  | some c =>
    if c.isDigit then
      if c = '0' then none else some (some (Text.digitValue c), cursor.skip)
    else some (none, cursor)
  | none => some (none, cursor)

/-- The header behind the indicator of a block, and the rest of its line. -/
def readBlockHeader (cursor : Cursor) : Option (BlockHeader × Cursor) := do
  let (before, cursor) := readChomping cursor
  let (indentation, cursor) ← readIndentation cursor
  let (behind, cursor) :=
    if before.isNone && indentation.isSome then readChomping cursor else (none, cursor)
  let (_, cursor) := cursor.skipWhile isGap
  let cursor := if cursor.isAt '#' then (cursor.skipWhile (!isBreak ·)).2 else cursor
  if cursor.peek?.any (!isBreak ·) then none
  return (⟨(before.or behind).getD .clip, indentation⟩, cursor.takeBreak.2)

/-- Pass the indentation of empty lines. Without a known indentation the widest one is noted. A tab
inside of the indentation is malformed. -/
def readBlockBreaks (indent : Option Nat) :
    Nat → Nat → List Char → Cursor → Option (Nat × List Char × Cursor)
  | 0, widest, breaks, cursor => some (widest, breaks, cursor)
  | fuel + 1, widest, breaks, cursor =>
    let room := match indent with
      | some indent => indent - cursor.column
      | none => cursor.ahead.length
    let spaces := (cursor.ahead.takeWhile (· = ' ')).length
    let cursor := cursor.skipMany (min room spaces)
    let widest := max widest cursor.column
    if cursor.isAt '\t' && indent.all (cursor.column < ·) then none
    else if cursor.peek?.any isBreak then
      let (mark, after) := cursor.takeBreak
      readBlockBreaks indent fuel widest (breaks ++ mark) after
    else some (widest, breaks, cursor)

/-- The lines of a block from the first that is not empty. `pending` is the break behind the last
line, and `gapBefore` tells whether that line began with a gap. -/
def readBlockLines (literal : Bool) (indent : Nat) :
    Nat → List Char → List Char → List Char → Bool → Cursor →
      Option (List Char × List Char × List Char × Cursor)
  | 0, done, pending, breaks, _, cursor => some (done, pending, breaks, cursor)
  | fuel + 1, done, pending, breaks, gapBefore, cursor =>
    if cursor.column = indent && !cursor.atEnd then
      let gapHere := cursor.peek?.any isGap
      let joint :=
        if !literal && pending = ['\n'] && !gapBefore && !gapHere then
          if breaks.isEmpty then [' '] else []
        else pending
      let (line, cursor) := cursor.skipWhile (!isBreak ·)
      let (mark, cursor) := cursor.takeBreak
      do
        let (_, further, cursor) ← readBlockBreaks (some indent) cursor.ahead.length 0 [] cursor
        readBlockLines literal indent fuel (done ++ joint ++ breaks ++ line) mark further gapHere
          cursor
    else some (done, pending, breaks, cursor)

/-- A block behind its indicator, below a parent at some column if there is one. -/
def readBlock (style : ScalarStyle) (parent : Option Nat) (cursor : Cursor) :
    Option (List Char × Cursor) := do
  let (header, cursor) ← readBlockHeader cursor
  let given := header.indentation.map (parent.getD 0 + ·)
  let (widest, breaks, cursor) ← readBlockBreaks given cursor.ahead.length 0 [] cursor
  let indent := given.getD (max widest (max 1 ((parent.map (· + 1)).getD 0)))
  let (text, pending, breaks, cursor) ←
    readBlockLines (style = .literal) indent (cursor.ahead.length + 1) [] [] breaks false cursor
  let tail := match header.chomping with
    | .strip => []
    | .clip => pending
    | .keep => pending ++ breaks
  return (text ++ tail, cursor)

end VenueGateway.Yaml
