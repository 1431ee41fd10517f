import VenueGateway.Settings.Basic
import VenueGateway.Trouble
import VenueGateway.Yaml.Node

/-! # Settings documents

A settings document is written in YAML. Any scalar is accepted where a text is wanted, as it is
written; numbers must be plain. Records are mappings whose unknown members are ignored and whose
known ones stand once; of a name that is repeated in free entries the last one counts. A record or a
list whose value was left out is empty. A document can be used only if it has no defect.
-/

namespace VenueGateway

namespace Yaml

/-! ## Numbers -/

/-- A number written in digits of a base. -/
def readBase (base : Nat) (cs : List Char) : Option Nat :=
  if cs.isEmpty then none
  else
    cs.foldlM
      (fun n c => (Text.hexValue? c).bind fun digit =>
        if digit < base then some (n * base + digit) else none)
      0

/-- A number without a sign: in base 16, 8 or 2 behind its mark, else decimal without leading
zeros. -/
def readUnsigned (cs : List Char) : Option Nat :=
  let marked := match cs with
    | '0' :: 'x' :: rest => readBase 16 rest
    | '0' :: 'o' :: rest => readBase 8 rest
    | '0' :: 'b' :: rest => readBase 2 rest
    | _ => none
  let decimal := match cs with
    | '0' :: _ :: _ => none
    | cs => readBase 10 cs
  marked.or decimal

/-- A natural number: a plus may stand in front. -/
def readNatural (cs : List Char) : Option Nat :=
  match cs with
  | '+' :: rest => readUnsigned rest
  | cs => readUnsigned cs

/-- The tag of numbers that are no fractions. -/
def wholeTag : Tag := Tag.ofString "tag:yaml.org,2002:int"

/-! ## What a node of a document is read as -/

namespace Document

def text? (document : Document) (node : Node) : Option String := do
  match ← document.resolve? node with
  | .scalar text _ _ => some text
  | _ => none

/-- The items of a sequence, none where it was left out. -/
def items? (document : Document) (node : Node) : Option (List Node) := do
  match ← document.resolve? node with
  | .sequence items => some items
  | node => if node.isNothing then some [] else none

/-- The members of a mapping by the texts of their keys, none where it was left out. -/
def members? (document : Document) (node : Node) : Option (List (String × Node)) := do
  match ← document.resolve? node with
  | .mapping pairs => pairs.mapM fun pair => (document.text? pair.1).map fun name => (name, pair.2)
  | node => if node.isNothing then some [] else none

/-- The text of a scalar that may be a number: a plain one, or a literal block tagged as a
number. -/
def numeral? (document : Document) (node : Node) : Option String := do
  match ← document.resolve? node with
  | .scalar text .plain _ => some text
  | .scalar text .literal (some tag) => if tag = wholeTag then some text else none
  | _ => none

/-- A natural number below a limit. -/
def natBelow? (document : Document) (limit : Nat) (node : Node) : Option (Fin limit) := do
  let n ← readNatural (← document.numeral? node).toList
  if h : n < limit then some ⟨n, h⟩ else none

/-- A list whose items are read one by one. -/
def list? {α : Type} (document : Document) (item : Node → Option α) (node : Node) :
    Option (List α) := do
  (← document.items? node).mapM item

/-- Free entries: a text under each name. -/
def entries? (document : Document) (node : Node) : Option (NameMap String) := do
  let members ← document.members? node
  let texts ← members.mapM fun (name, value) =>
    (document.text? value).map fun text => (name, text)
  return NameMap.ofList texts

end Document

/-- A member of a record, which must not stand twice. -/
def member? (members : List (String × Node)) (name : String) : Option (Option Node) :=
  match members.filter (·.1 = name) with
  | [] => some none
  | [member] => some (some member.2)
  | _ => none

def memberOr {α : Type} (members : List (String × Node)) (name : String) (read : Node → Option α)
    (fallback : α) : Option α := do
  match ← member? members name with
  | some node => read node
  | none => some fallback

end Yaml

open Yaml (Node)

namespace NetworkSettings

def ofNode? (document : Yaml.Document) (node : Node) : Option NetworkSettings := do
  let members ← document.members? node
  let timeout ← Yaml.memberOr members "connection_timeout_seconds"
    (document.natBelow? UInt64.size) standard.timeoutSeconds
  let statuses ← Yaml.memberOr members "non_fatal_http_status_codes"
    (document.list? (document.natBelow? 65536)) standard.transientStatuses
  let fragments ← Yaml.memberOr members "non_fatal_error_messages"
    (document.list? document.text?) standard.transientFragments
  return ⟨timeout, statuses, fragments⟩

end NetworkSettings

namespace VenueSettings

def ofNode? (document : Yaml.Document) (node : Node) : Option VenueSettings := do
  let members ← document.members? node
  let secrets ← Yaml.memberOr members "authentication" document.entries? standard.secrets
  let network ←
    Yaml.memberOr members "network" (NetworkSettings.ofNode? document) standard.network
  let entries ← Yaml.memberOr members "other" document.entries? standard.entries
  return ⟨secrets, network, entries⟩

end VenueSettings

namespace SettingsDocument

def ofYaml? (document : Yaml.Document) : Option SettingsDocument := do
  let members ← document.members? document.root
  let venue ← (← Yaml.member? members "exchange").bind document.text?
  let market ← (← Yaml.member? members "market").bind document.text?
  let settings ← Yaml.memberOr members "config" (VenueSettings.ofNode? document) .standard
  return ⟨venue, market, settings⟩

def checked (document : SettingsDocument) : Except Trouble SettingsDocument :=
  match document.defect? with
  | some defect => .error (.settings defect.message)
  | none => .ok document

def read (text : String) : Except Trouble SettingsDocument :=
  match (Yaml.Document.read? text).bind ofYaml? with
  | some document => document.checked
  | none => .error (.settings "YAML parse error")

/-- Read a document from the content of a file, if there is one. -/
def ofContent (path : String) : Option String → Except Trouble SettingsDocument
  | none => .error (.settings ("Configuration file not found: " ++ path))
  | some text =>
    match (Yaml.Document.read? text).bind ofYaml? with
    | some document => document.checked
    | none => .error (.settings ("YAML parse error in '" ++ path ++ "'"))

end SettingsDocument

end VenueGateway
