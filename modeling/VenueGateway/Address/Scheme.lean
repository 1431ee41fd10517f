import VenueGateway.Text.Percent

/-! # Schemes and what they decide

The scheme of an address decides how the rest is read: which characters divide it, whether it must
name a host, which port need not be given, and which characters are escaped.
-/

namespace VenueGateway

/-- How the addresses of a scheme are read: they name a host and a port, of which one need not be
given; or a file; or nothing is known of them. -/
inductive SchemeKind
  | hosted (impliedPort : Nat)
  | file
  | other
deriving DecidableEq

namespace SchemeKind

/-- Schemes whose addresses name a host, with the ports that need not be given. -/
def hostedSchemes : List (String × Nat) :=
  [("http", 80), ("https", 443), ("ws", 80), ("wss", 443), ("ftp", 21)]

def ofScheme (scheme : String) : SchemeKind :=
  match hostedSchemes.find? (·.1 = scheme) with
  | some (_, impliedPort) => hosted impliedPort
  | none => if scheme = "file" then file else other

/-- Whether a character divides host and path. A backslash does so under the known schemes. -/
def isSlash : SchemeKind → Char → Bool
  | other, c => c = '/'
  | _, c => c = '/' || c = '\\'

def impliedPort? : SchemeKind → Option Nat
  | hosted port => some port
  | _ => none

end SchemeKind

/-- The parts of an address that differ in what is escaped. -/
inductive AddressPart
  | login
  | path
  | rootless
  | query (kind : SchemeKind)
  | fragment

namespace AddressPart

/-- Whether a character is a control character or beyond ASCII; such ones are escaped everywhere. -/
def isBeyondPrint (c : Char) : Bool := c < ' ' || '\x7f' ≤ c

/-- The printed characters of ASCII that are escaped in a part. A query under a known scheme escapes
the apostrophe as well. -/
def escaped : AddressPart → List Char
  | rootless => []
  | fragment => [' ', '"', '<', '>', '`']
  | path => [' ', '"', '<', '>', '`', '#', '?', '\x7b', '\x7d']
  | login =>
    [' ', '"', '<', '>', '`', '#', '?', '\x7b', '\x7d', '/', ':', ';', '=', '@', '[', '\\', ']',
     '^', '|']
  | query .other => [' ', '"', '#', '<', '>']
  | query _ => [' ', '"', '#', '<', '>', '\'']

def encode (part : AddressPart) (cs : List Char) : List Char :=
  Percent.encode (fun c => isBeyondPrint c || part.escaped.contains c) cs

def text (part : AddressPart) (cs : List Char) : String := String.ofList (part.encode cs)

end AddressPart

end VenueGateway
