import VenueGateway.Envelope
import VenueGateway.Http.Message

/-! # How a venue is addressed

An endpoint is one row of a venue's table of operations. A profile holds what all of a venue's
requests and replies have in common.
-/

namespace VenueGateway

/-- Whether a request needs the caller's signature. -/
inductive Access
  | anonymous
  | signed
deriving DecidableEq

/-- One operation of a venue: its path behind the base address, its access and its method. -/
structure Endpoint where
  path : String
  access : Access
  method : Method
deriving DecidableEq

namespace Endpoint

/-- An endpoint for everybody, read by `GET` unless it says otherwise. -/
def anonymous (path : String) : Endpoint := ⟨path, .anonymous, .get⟩

/-- An endpoint for a known caller, called by `POST` unless it says otherwise. -/
def signed (path : String) : Endpoint := ⟨path, .signed, .post⟩

def isSigned (endpoint : Endpoint) : Bool := endpoint.access = .signed

end Endpoint

/-- What all of a venue's requests and replies have in common. Paths are appended to the base. -/
structure Profile where
  name : String
  base : String
  envelope : EnvelopeNames
  signatureHeader : String
  nonceParameter : String
  keyParameter : String
deriving DecidableEq

def EnvelopeNames.shown (names : EnvelopeNames) : String :=
  Text.shownRecord "EnvelopeSchema"
    [("success", Text.quoted names.success), ("message", Text.quoted names.message),
      ("result", Text.quoted names.result)]

def Profile.shown (profile : Profile) : String :=
  Text.shownRecord "ExchangeProfile"
    [("name", Text.quoted profile.name), ("base_url", Text.quoted profile.base),
      ("envelope", profile.envelope.shown),
      ("signature_header", Text.quoted profile.signatureHeader),
      ("nonce_param", Text.quoted profile.nonceParameter),
      ("api_key_param", Text.quoted profile.keyParameter)]

end VenueGateway
