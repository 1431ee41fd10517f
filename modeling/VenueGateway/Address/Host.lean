import VenueGateway.Address.DomainName
import VenueGateway.Address.Fault
import VenueGateway.Address.Ipv4
import VenueGateway.Address.Ipv6
import VenueGateway.Address.Scheme

/-! # Hosts

The host of an address is a domain name or an IP address. Under a known scheme a name whose last
part is a number is read as an IPv4 address; under any other one a name is taken as it is.
-/

namespace VenueGateway

/-- What an address names as its host. -/
inductive Host
  | name (text : String)
  | ipv4 (address : Ipv4)
  | ipv6 (address : Ipv6)
deriving DecidableEq

namespace Host

def text : Host → String
  | name text => text
  | ipv4 address => address.text
  | ipv6 address => "[" ++ address.text ++ "]"

/-- The characters that no name contains under a scheme of which nothing is known. -/
def divisions : List Char :=
  ['\x00', '\t', '\n', '\r', ' ', '#', '/', ':', '<', '>', '?', '@', '[', '\\', ']', '^', '|']

/-- The IPv6 address behind an opening bracket, up to the closing bracket at the end. -/
def readBracketed (cs : List Char) : Except AddressFault Host :=
  if cs.getLast? = some ']' then ((Ipv6.read? cs.dropLast).map ipv6).elim (.error .invalidIpv6) .ok
  else .error .invalidIpv6

/-- The host that a name stands for under a known scheme. -/
def readName (cs : List Char) : Except AddressFault Host :=
  match DomainName.ofBytes? (Percent.decode cs) with
  | none => .error .invalidName
  | some [] => .error .emptyHost
  | some known =>
    if Ipv4.isMeantBy known then ((Ipv4.read? known).map ipv4).elim (.error .invalidIpv4) .ok
    else .ok (name (String.ofList known))

/-- The host that characters stand for, if they name one; a known scheme needs one. -/
def read (kind : SchemeKind) (cs : List Char) : Except AddressFault (Option Host) :=
  match kind, cs with
  | .other, [] => .ok none
  | _, '[' :: rest => some <$> readBracketed rest
  | .other, _ =>
    if cs.any divisions.contains then .error .invalidNameCharacter
    else .ok (some (name (AddressPart.rootless.text cs)))
  | _, [] => .error .emptyHost
  | _, _ => some <$> readName cs

end Host

end VenueGateway
