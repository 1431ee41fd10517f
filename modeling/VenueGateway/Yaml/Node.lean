import VenueGateway.Yaml.Lexer

/-! # YAML documents

A document is one node: a scalar, a sequence or a mapping. Anchors are numbered, and an alias stands
for the node that holds the number of its anchor when the whole document has been read. A text is a
document if its tokens follow the grammar and nothing follows the document.
-/

namespace VenueGateway.Yaml

/-- A node of a document. Scalars keep their text, how it was written, and their tag; an alias has
the number of an anchor. -/
inductive Node
  | scalar (text : String) (style : ScalarStyle) (tag : Option Tag)
  | sequence (items : List Node)
  | mapping (pairs : List (Node × Node))
  | alias (number : Nat)
deriving Inhabited

namespace Node

/-- The scalar that stands where nothing is written. -/
def nothing : Node := .scalar "" .plain none

def isNothing : Node → Bool
  | .scalar text style _ => style = .plain && text.isEmpty
  | _ => false

end Node

/-- The anchors of a document as far as it was read. An anchor is numbered by how many different
names were given before it. A name that is given again thus shares its number with the next new
name, and a number belongs to the last node that began with it. -/
structure Anchors where
  /-- The different names, each with its latest number. -/
  names : List (String × Nat)
  /-- The numbers of the nodes with an anchor in the order in which they began, the last first. -/
  numbers : List Nat
  /-- The nodes that were read to their end, each with how many had begun when it began. -/
  nodes : List (Nat × Node)

namespace Anchors

def empty : Anchors := ⟨[], [], []⟩

def number? (anchors : Anchors) (name : String) : Option Nat :=
  (anchors.names.find? (·.1 = name)).map Prod.snd

/-- A node with an anchor begins. -/
def enter (anchors : Anchors) (name : String) : Anchors :=
  let number := anchors.names.length
  { anchors with
    names := (name, number) :: anchors.names.filter (·.1 ≠ name)
    numbers := number :: anchors.numbers }

/-- The node that was the last to begin when there were the anchors `within` has been read. -/
def leave (anchors within : Anchors) (node : Node) : Anchors :=
  { anchors with nodes := (within.numbers.length, node) :: anchors.nodes }

/-- The node to which a number belongs. -/
def node? (anchors : Anchors) (number : Nat) : Option Node := do
  let later ← anchors.numbers.idxOf? number
  let (_, node) ← anchors.nodes.find? (·.1 = anchors.numbers.length - later)
  return node

end Anchors

/-- What a reader of nodes gives: a node, the anchors so far, and the tokens behind the node. -/
abbrev Parsed := Node × Anchors × List Token

abbrev Handles := List (String × Tag)

/-- A tag with its handle expanded. An unknown handle is malformed. -/
def expandTag (handles : Handles) (handle : String) (suffix : Tag) : Option Tag :=
  if handle.isEmpty then some suffix
  else ((handles.find? (·.1 = handle)).map Prod.snd).map (· ++ suffix)

/-- The anchor and the tag in front of a node, in either order. -/
structure Properties where
  anchor : Option String
  tag : Option Tag

/-- Properties in front of a node, and the tokens behind them. -/
def readProperties (handles : Handles) (tokens : List Token) : Option (Properties × List Token) :=
  match tokens with
  | .anchor name :: .tag handle suffix :: rest
  | .tag handle suffix :: .anchor name :: rest =>
    (expandTag handles handle suffix).map fun tag => (⟨some name, some tag⟩, rest)
  | .anchor name :: rest => some (⟨some name, none⟩, rest)
  | .tag handle suffix :: rest =>
    (expandTag handles handle suffix).map fun tag => (⟨none, some tag⟩, rest)
  | rest => some (⟨none, none⟩, rest)

def Properties.enter (properties : Properties) (anchors : Anchors) : Anchors :=
  match properties.anchor with
  | some name => anchors.enter name
  | none => anchors

/-- The anchors behind a node that had the anchors `within` when it began. -/
def Properties.leave (properties : Properties) (within : Anchors) (node : Node)
    (anchors : Anchors) : Anchors :=
  if properties.anchor.isSome then anchors.leave within node else anchors

/-- Tokens before which a key or a value of a block was left out. -/
def endsBlockPart : List Token → Bool
  | .key :: _ | .value :: _ | .blockEnd :: _ => true
  | _ => false

/-- Tokens before which an item without brackets was left out. -/
def endsBlockItem (indentless : Bool) : List Token → Bool
  | .blockEntry :: _ | .blockEnd :: _ => true
  | .key :: _ | .value :: _ => indentless
  | _ => false

/-- Tokens before which a key or a value in brackets was left out. -/
def endsFlowPart : List Token → Bool
  | .flowEntry :: _ | .flowMappingEnd :: _ | .flowSequenceEnd :: _ => true
  | _ => false

mutual

/-- A node. `block` tells whether it may be a block collection, `indentless` whether it may be a
sequence without indentation. The fuel is above three times the number of tokens. -/
def readNode (handles : Handles) (block indentless : Bool) (anchors : Anchors) :
    Nat → List Token → Option Parsed
  | 0, _ => none
  | _ + 1, .alias name :: rest => do
    let number ← anchors.number? name
    some (.alias number, anchors, rest)
  | fuel + 1, tokens => do
    let (properties, tokens) ← readProperties handles tokens
    let within := properties.enter anchors
    let finish : Option Parsed → Option Parsed := fun parsed =>
      parsed.map fun (node, anchors, rest) => (node, properties.leave within node anchors, rest)
    match tokens with
    | .scalar text style :: rest => finish (some (.scalar text style properties.tag, within, rest))
    | .flowSequenceStart :: rest => finish (readFlowItems handles true [] within fuel rest)
    | .flowMappingStart :: rest => finish (readFlowPairs handles true [] within fuel rest)
    | .blockSequenceStart :: rest =>
      if block then finish (readBlockItems handles false [] within fuel rest) else none
    | .blockMappingStart :: rest =>
      if block then finish (readBlockPairs handles [] within fuel rest) else none
    | .blockEntry :: rest =>
      if indentless then finish (readBlockItems handles true [] within fuel (.blockEntry :: rest))
      else if properties.anchor.isSome || properties.tag.isSome then
        finish (some (.scalar "" .plain properties.tag, within, .blockEntry :: rest))
      else none
    | rest =>
      if properties.anchor.isSome || properties.tag.isSome then
        finish (some (.scalar "" .plain properties.tag, within, rest))
      else none

/-- A node, or nothing where it was left out. -/
def readPart (handles : Handles) (block indentless leftOut : Bool) (anchors : Anchors) :
    Nat → List Token → Option Parsed
  | 0, _ => none
  | fuel + 1, tokens =>
    if leftOut then some (.nothing, anchors, tokens)
    else readNode handles block indentless anchors fuel tokens

/-- The items of a block sequence, the last one read first in `done`. -/
def readBlockItems (handles : Handles) (indentless : Bool) (done : List Node) (anchors : Anchors) :
    Nat → List Token → Option Parsed
  | 0, _ => none
  | fuel + 1, .blockEntry :: rest => do
    let (item, anchors, rest) ←
      readPart handles true false (endsBlockItem indentless rest) anchors fuel rest
    readBlockItems handles indentless (item :: done) anchors fuel rest
  | _ + 1, tokens =>
    if indentless then some (.sequence done.reverse, anchors, tokens)
    else
      match tokens with
      | .blockEnd :: rest => some (.sequence done.reverse, anchors, rest)
      | _ => none

/-- The pairs of a block mapping, the last one read first in `done`. A key or a value may be left
out. -/
def readBlockPairs (handles : Handles) (done : List (Node × Node)) (anchors : Anchors) :
    Nat → List Token → Option Parsed
  | 0, _ => none
  | _ + 1, .blockEnd :: rest => some (.mapping done.reverse, anchors, rest)
  | fuel + 1, .key :: rest => do
    let (key, anchors, rest) ← readPart handles true true (endsBlockPart rest) anchors fuel rest
    match rest with
    | .value :: rest => do
      let (value, anchors, rest) ← readPart handles true true (endsBlockPart rest) anchors fuel rest
      readBlockPairs handles ((key, value) :: done) anchors fuel rest
    | rest => readBlockPairs handles ((key, .nothing) :: done) anchors fuel rest
  | _ + 1, _ => none

/-- The items of a sequence in brackets, the last one read first in `done`. A key among them makes a
mapping of one pair. -/
def readFlowItems (handles : Handles) (first : Bool) (done : List Node) (anchors : Anchors) :
    Nat → List Token → Option Parsed
  | 0, _ => none
  | fuel + 1, tokens => do
    let tokens ← match tokens with
      | .flowSequenceEnd :: _ => some tokens
      | .flowEntry :: rest => if first then some tokens else some rest
      | _ => if first then some tokens else none
    match tokens with
    | .flowSequenceEnd :: rest => some (.sequence done.reverse, anchors, rest)
    | .key :: rest => do
      let skipped := match rest with
        | .value :: _ | .flowEntry :: _ | .flowSequenceEnd :: _ => true
        | _ => false
      let (key, anchors, rest) ←
        if skipped then some (.nothing, anchors, rest.drop 1)
        else readNode handles false false anchors fuel rest
      match rest with
      | .value :: rest => do
        let (value, anchors, rest) ←
          readPart handles false false (endsFlowPart rest) anchors fuel rest
        readFlowItems handles false (.mapping [(key, value)] :: done) anchors fuel rest
      | rest => readFlowItems handles false (.mapping [(key, .nothing)] :: done) anchors fuel rest
    | tokens => do
      let (item, anchors, rest) ← readNode handles false false anchors fuel tokens
      readFlowItems handles false (item :: done) anchors fuel rest

/-- The pairs of a mapping in braces, the last one read first in `done`. A key without a value has
nothing for a value. -/
def readFlowPairs (handles : Handles) (first : Bool) (done : List (Node × Node))
    (anchors : Anchors) : Nat → List Token → Option Parsed
  | 0, _ => none
  | fuel + 1, tokens => do
    let tokens ← match tokens with
      | .flowMappingEnd :: _ => some tokens
      | .flowEntry :: rest => if first then some tokens else some rest
      | _ => if first then some tokens else none
    match tokens with
    | .flowMappingEnd :: rest => some (.mapping done.reverse, anchors, rest)
    | .key :: rest => do
      let leftOut := match rest with
        | .value :: _ | .flowEntry :: _ | .flowMappingEnd :: _ => true
        | _ => false
      let (key, anchors, rest) ← readPart handles false false leftOut anchors fuel rest
      match rest with
      | .value :: rest => do
        let (value, anchors, rest) ←
          readPart handles false false (endsFlowPart rest) anchors fuel rest
        readFlowPairs handles false ((key, value) :: done) anchors fuel rest
      | rest => readFlowPairs handles false ((key, .nothing) :: done) anchors fuel rest
    | tokens => do
      let (key, anchors, rest) ← readNode handles false false anchors fuel tokens
      readFlowPairs handles false ((key, .nothing) :: done) anchors fuel rest

end

/-- The handles that need no directive. -/
def standardHandles : Handles :=
  [("!", Tag.ofString "!"), ("!!", Tag.ofString "tag:yaml.org,2002:")]

/-- The directives in front of a document: at most one version, which must be 1.1 or 1.2, and
handles that are not given twice. -/
def readDirectives (versionSeen : Bool) (handles : Handles) :
    List Token → Option (Handles × List Token)
  | .versionDirective major minor :: rest =>
    if versionSeen || major ≠ 1 || !(minor = 1 || minor = 2) then none
    else readDirectives true handles rest
  | .tagDirective handle expansion :: rest =>
    if handles.any (·.1 = handle) then none
    else readDirectives versionSeen ((handle, expansion) :: handles) rest
  | tokens => some (handles, tokens)

/-- The node of a document, nothing where none is written, and the tokens behind it. -/
def readContent (handles : Handles) (tokens : List Token) : Option Parsed :=
  match tokens with
  | [] | .documentStart :: _ | .documentEnd :: _ | .versionDirective .. :: _
  | .tagDirective .. :: _ =>
    some (.nothing, .empty, tokens)
  | tokens => readNode handles true false .empty (3 * tokens.length + 3) tokens

/-- A document: its node, and the anchors to which its aliases refer. -/
structure Document where
  root : Node
  anchors : Anchors

namespace Document

/-- What a node of the document stands for. -/
def resolve? (document : Document) : Node → Option Node
  | .alias number => document.anchors.node? number
  | node => some node

def ofTokens? (tokens : List Token) : Option Document := do
  let (given, behind) ← readDirectives false [] tokens
  let handles := given ++ standardHandles
  let (root, anchors, rest) ←
    match behind with
    | .documentStart :: rest => readContent handles rest
    | [] => none
    | .documentEnd :: _ => none
    | rest =>
      if given.isEmpty && rest.length = tokens.length then readContent handles rest else none
  if (rest.dropWhile (· == .documentEnd)).isEmpty then some ⟨root, anchors⟩ else none

def read? (text : String) : Option Document := (LexerState.tokens? text.toList).bind ofTokens?

end Document

end VenueGateway.Yaml
