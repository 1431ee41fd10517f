import VenueGateway.Address.Host
import VenueGateway.Address.Path

/-! # Addresses

The parts of an address and how it is shown. Every part is kept in escaped form, so that the text of
an address is its parts with their marks between them.
-/

namespace VenueGateway

/-- The name and the password in front of a host. -/
structure Login where
  name : String
  password : Option String
deriving DecidableEq

/-- A login as it is shown, with the mark behind it. -/
def Login.text (login : Login) : String :=
  login.name ++ (login.password.map (":" ++ ·)).getD "" ++ "@"

/-- Whom an address belongs to. A port is given only if the scheme does not imply it. -/
structure Authority where
  login : Option Login
  host : Option Host
  port : Option Nat
deriving DecidableEq

/-- An authority as it is shown, with the marks in front of it. -/
def Authority.text (authority : Authority) : String :=
  "//" ++ (authority.login.map Login.text).getD "" ++ (authority.host.map Host.text).getD "" ++
    (authority.port.map fun port => ":" ++ toString port).getD ""

/-- An absolute address. -/
structure Address where
  scheme : String
  authority : Option Authority
  path : Path
  query : Option String
  fragment : Option String
deriving DecidableEq

namespace Address

def host? (address : Address) : Option Host := address.authority.bind Authority.host

/-- An address as it is shown. A path without an authority in front keeps apart from its scheme by a
segment of a single point if it begins like an authority. -/
def text (address : Address) : String :=
  let belongsTo := match address.authority with
    | some authority => authority.text
    | none => if address.path.beginsTwice then "/." else ""
  address.scheme ++ ":" ++ belongsTo ++ address.path.text ++
    (address.query.map ("?" ++ ·)).getD "" ++ (address.fragment.map ("#" ++ ·)).getD ""

/-- The address without name and password. -/
def withoutLogin (address : Address) : Address :=
  { address with
    authority := address.authority.map fun authority => { authority with login := none } }

end Address

end VenueGateway
