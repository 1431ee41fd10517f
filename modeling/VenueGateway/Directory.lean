import VenueGateway.Bittrex.Client
import VenueGateway.Address.Defect

/-! # The venues that are served

An adapter is looked up by the name of its venue, in any case of letters and with blanks around it,
and is set up at once: either it is ready for calls or there is none.
-/

namespace VenueGateway.Directory

def supported : List String := [Bittrex.shortName]

def unknown (name : String) : Failure :=
  .configuration ("Unknown exchange adapter: '" ++ name ++ "'. Supported: " ++
    ", ".intercalate supported)

def isBittrex (name : String) : Bool := Text.lower (Text.trim name) = Bittrex.shortName

/-- The transport of a program without a network: what is wrong with an address shows, but nothing
is ever reached. -/
def offline : Transport := fun request =>
  match Address.defect? request.url with
  | some defect => .error (.network ("Malformed request: " ++ defect.message))
  | none => .error (.network "Connection failed: no network")

/-- The adapter of a venue, set up and with the first nonce to use. -/
def create (name : String) (settings : VenueSettings) (nonces : NonceCounter) :
    Except Failure Bittrex.Client :=
  if isBittrex name then Bittrex.Client.ofSettings settings nonces else .error (unknown name)

end VenueGateway.Directory
