import VenueGateway.Address.Basic
import VenueGateway.Text.Ascii

/-! # Reading addresses

An address is read from the front: the scheme, whom it belongs to, the path; a question mark begins
the query and a number sign the fragment, wherever they stand behind the scheme. Of two faults the
one further to the front is found. A path, a query and a fragment have no faults: what may not stand
in them is escaped.
-/

namespace VenueGateway

/-- The login that the characters in front of the last `@` write. Without a name and a password
there is none. -/
def Login.read? (cs : List Char) : Option Login :=
  let name := cs.takeWhile (· ≠ ':')
  let password := (cs.dropWhile (· ≠ ':')).drop 1
  if name.isEmpty && password.isEmpty then none
  else some
    { name := AddressPart.login.text name
      password := if password.isEmpty then none else some (AddressPart.login.text password) }

namespace Authority

/-- Cut in front of the first colon outside of brackets. -/
def splitHost (inBrackets : Bool) : List Char → List Char × List Char
  | [] => ([], [])
  | c :: rest =>
    if c = ':' && !inBrackets then ([], c :: rest)
    else
      let (host, port) := splitHost ((inBrackets || c = '[') && c ≠ ']') rest
      (c :: host, port)

/-- The port that digits write, unless it need not be given. -/
def readPort (kind : SchemeKind) (digits : List Char) : Except AddressFault (Option Nat) :=
  match Text.readNat? digits with
  | none => .ok none
  | some port =>
    if 65536 ≤ port then .error .invalidPort
    else .ok (if kind.impliedPort? = some port then none else some port)

/-- The authority that characters write, and those behind a backslash that ends its port. -/
def read (kind : SchemeKind) (cs : List Char) : Except AddressFault (Authority × List Char) := do
  let located := (cs.reverse.takeWhile (· ≠ '@')).reverse
  let login := Login.read? (cs.take (cs.length - located.length - 1))
  if cs = ['@'] then throw .emptyHost
  let (host, behind) := splitHost false located
  let host ← Host.read kind host
  if host.isNone && !behind.isEmpty then throw .emptyHost
  let digits := (behind.drop 1).takeWhile Char.isDigit
  let rest := (behind.drop 1).dropWhile Char.isDigit
  let port ← readPort kind digits
  if !rest.isEmpty && rest.head? ≠ some '\\' then throw .invalidPort
  if host.isNone && login.isSome then throw .emptyHost
  return (⟨login, host, port⟩, rest)

end Authority

namespace Address

/-- Tabs and line breaks do not count in an address, nor do spaces and control characters at its
ends. -/
def clean (cs : List Char) : List Char :=
  let inner := cs.filter fun c => !(c = '\t' || c = '\n' || c = '\r')
  ((inner.dropWhile (· ≤ ' ')).reverse.dropWhile (· ≤ ' ')).reverse

/-- The scheme, in lower case, and what stands behind its colon. A scheme begins with a letter. -/
def splitScheme? (cs : List Char) : Option (String × List Char) :=
  let isSchemeChar : Char → Bool := fun c => c.isAlphanum || c = '+' || c = '-' || c = '.'
  match cs.takeWhile isSchemeChar, cs.dropWhile isSchemeChar with
  | c :: scheme, ':' :: rest =>
    if c.isAlpha then some (Text.lower (String.ofList (c :: scheme)), rest) else none
  | _, _ => none

/-- Drop the slash that stands for the root. -/
def dropRoot (kind : SchemeKind) : List Char → List Char
  | c :: rest => if kind.isSlash c then rest else c :: rest
  | [] => []

/-- Authority and path under a scheme that names a host. Any number of slashes stands in front. -/
def readHosted (kind : SchemeKind) (cs : List Char) :
    Except AddressFault (Option Authority × Path) := do
  let cs := cs.dropWhile kind.isSlash
  let (authority, _) ← Authority.read kind (cs.takeWhile (!kind.isSlash ·))
  let below := dropRoot kind (cs.dropWhile (!kind.isSlash ·))
  return (some authority, .ofSegments (below.splitOnP kind.isSlash))

/-- The host of a file and what stands behind it. A drive is no host, and a file on this computer
needs none. -/
def readFileHost (cs : List Char) : Except AddressFault (Option Host × List Char) := do
  let host := cs.takeWhile (!SchemeKind.file.isSlash ·)
  let rest := cs.dropWhile (!SchemeKind.file.isSlash ·)
  if host.isEmpty || Path.isDrive host then return (none, cs)
  let host ← Host.read .file host
  if host = some (.name "localhost") then return (none, rest)
  return (host, dropRoot .file rest)

/-- Authority and path of a file. A drive in the path is a drive of this computer. -/
def readFile (cs : List Char) : Except AddressFault (Option Authority × Path) := do
  let (host, below) ← match cs with
    | first :: second :: rest =>
      if SchemeKind.file.isSlash first && SchemeKind.file.isSlash second then readFileHost rest
      else pure (none, dropRoot .file cs)
    | _ => pure (none, dropRoot .file cs)
  let segments := below.splitOnP SchemeKind.file.isSlash
  let host := if segments.any Path.isDrive then none else host
  return (some ⟨none, host, none⟩, .ofFileSegments segments)

/-- Authority and path under a scheme of which nothing is known. Two slashes begin an authority, one
begins a path. -/
def readOther (cs : List Char) : Except AddressFault (Option Authority × Path) := do
  match cs with
  | '/' :: '/' :: rest =>
    let (authority, behind) ← Authority.read .other (rest.takeWhile (· ≠ '/'))
    let below := behind ++ rest.dropWhile (· ≠ '/')
    if below.isEmpty then return (some authority, .rooted [])
    return (some authority, .ofSegments ((dropRoot .other below).splitOn '/'))
  | '/' :: rest => return (none, .ofSegments (rest.splitOn '/'))
  | _ => return (none, .rootless (AddressPart.rootless.text cs))

/-- The address that a text writes. -/
def read (text : String) : Except AddressFault Address :=
  match splitScheme? (clean text.toList) with
  | none => .error .relative
  | some (scheme, cs) => do
    let kind := SchemeKind.ofScheme scheme
    let front := cs.takeWhile (· ≠ '#')
    let body := front.takeWhile (· ≠ '?')
    let (authority, path) ← match kind with
      | .hosted _ => readHosted kind body
      | .file => readFile body
      | .other => readOther body
    return {
      scheme, authority, path
      query := (front.dropWhile (· ≠ '?')).tail?.map (AddressPart.query kind).text
      fragment := (cs.dropWhile (· ≠ '#')).tail?.map AddressPart.fragment.text }

end Address

end VenueGateway
