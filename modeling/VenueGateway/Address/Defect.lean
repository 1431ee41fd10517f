import VenueGateway.Address.Reader

/-! # Addresses that no request can be sent to

A request needs an address that names a host, under one of the schemes `http` and `https`. Its login
is taken out of the address and sent apart. What is left must fit the line of a request, which has
a limit on its length and allows fewer characters in a host than an address does.
-/

namespace VenueGateway

/-- Whether a login can be sent apart: its name is a text, and name or password says something. -/
def Login.isSendable (login : Login) : Bool :=
  let textOf? : String → Option String := fun s => Text.ofUtf8? (Percent.decode s.toList)
  (textOf? login.name).any fun name =>
    !name.isEmpty || (login.password.bind textOf?).isSome

namespace Address

/-- Why nothing can be sent to an address. -/
inductive Defect
  | noAddress (fault : AddressFault)
  | schemeNotAllowed (shown : String)
  | unfitForRequest (shown : String)
deriving DecidableEq

def Defect.message : Defect → String
  | noAddress fault => "builder error: " ++ fault.message
  | schemeNotAllowed shown => "builder error for url (" ++ shown ++ "): URL scheme is not allowed"
  | unfitForRequest shown =>
    "builder error for url (" ++ shown ++ "): Parsed Url is not a valid Uri"

/-- The address with its login taken out, if that can be sent apart. -/
def withoutSentLogin (address : Address) : Address :=
  if (address.authority.bind Authority.login).any Login.isSendable then address.withoutLogin
  else address

/-- Whether an address fits the line of a request. -/
def fitsRequest (address : Address) : Bool :=
  address.text.utf8ByteSize < 65535 &&
    !(address.host?.any fun host => host.text.any ['"', '`', '\x7b', '\x7d'].contains)

/-- What stands in the way of sending a request to an address. -/
def defect? (text : String) : Option Defect :=
  match read text with
  | .error fault => some (.noAddress fault)
  | .ok address =>
    if address.host?.isNone then some (.schemeNotAllowed address.text)
    else
      let address := address.withoutSentLogin
      if address.scheme ≠ "http" ∧ address.scheme ≠ "https" then
        some (.schemeNotAllowed address.text)
      else if address.fitsRequest then none
      else some (.unfitForRequest address.text)

end Address

end VenueGateway
