import VenueGateway.Failure
import VenueGateway.Hash.Hmac
import VenueGateway.Text.Quoted
import VenueGateway.Text.Utf8

/-! # Credentials and signatures

A venue knows its caller by a key, and trusts a request that is signed with the secret that belongs
to the key. No shown form of either type contains the secret.
-/

namespace VenueGateway

/-- A key and its secret. -/
structure Credentials where
  key : String
  secret : String
deriving DecidableEq

def Credentials.shown (credentials : Credentials) : String :=
  Text.shownRecord "Credentials"
    [("api_key", Text.quoted credentials.key), ("api_secret", Text.quoted "<redacted>")]

/-- A signer of request addresses: a secret that is not empty. -/
structure Signer where
  secret : String
  secret_ne : secret ≠ ""
deriving DecidableEq

namespace Signer

def emptySecret : Failure := .configuration "Failed to setup MAC security. Secret key is empty"

def ofSecret (secret : String) : Except Failure Signer :=
  if h : secret = "" then .error emptySecret else .ok ⟨secret, h⟩

def sign (signer : Signer) (text : String) : String :=
  Hmac.hex (Hmac.code (Text.utf8 signer.secret) (Text.utf8 text))

def shown (_ : Signer) : String :=
  Text.shownPartially "HmacSigner" [("algorithm", Text.quoted "HmacSHA512")]

end Signer

end VenueGateway
