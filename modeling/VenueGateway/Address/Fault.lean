/-! # Texts that are no addresses

What stands in the way of reading an address.
-/

namespace VenueGateway

/-- Why a text is not an address. -/
inductive AddressFault
  | relative
  | emptyHost
  | invalidName
  | invalidNameCharacter
  | invalidIpv4
  | invalidIpv6
  | invalidPort
deriving DecidableEq

def AddressFault.message : AddressFault → String
  | relative => "relative URL without a base"
  | emptyHost => "empty host"
  | invalidName => "invalid international domain name"
  | invalidNameCharacter => "invalid domain character"
  | invalidIpv4 => "invalid IPv4 address"
  | invalidIpv6 => "invalid IPv6 address"
  | invalidPort => "invalid port number"

end VenueGateway
