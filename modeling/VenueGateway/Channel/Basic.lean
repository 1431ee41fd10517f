import VenueGateway.Channel.Reply
import VenueGateway.Http.Query
import VenueGateway.Nonce

/-! # Channels

A channel is one caller's line to one venue. It knows how the venue is addressed and owns the
caller's key, signer and nonces. Each step prepares one request, hands it to the transport once, and
reads the outcome. A signed request takes a nonce, whatever becomes of it. A step is a function of
the channel and the transport; it gives the outcome, the request that was sent, and the channel
afterwards.
-/

namespace VenueGateway

/-- What is sent where: the outcome of a request. -/
abbrev Transport := Request → Except Failure Response

/-- A caller's line to a venue. -/
structure Channel where
  profile : Profile
  key : String
  signer : Signer
  nonces : NonceCounter
  tolerance : Tolerance
deriving DecidableEq

/-- What a step gives: its outcome, the request that was sent if there was one, and the state
afterwards. -/
structure Step (σ α : Type) where
  outcome : Except Abort α
  sent : Option Request
  after : σ

namespace Channel

variable {α β : Type}

def emptyKey : Failure := .configuration "API key is empty"

/-- A channel for some credentials. -/
def establish (profile : Profile) (credentials : Credentials) (network : NetworkSettings)
    (nonces : NonceCounter) : Except Failure Channel :=
  if credentials.key.isEmpty then .error emptyKey
  else do
    let signer ← Signer.ofSecret credentials.secret
    return ⟨profile, credentials.key, signer, nonces, .ofSettings network⟩

/-- The parameters of a signed request: the caller's, and above them the nonce and the key. -/
def signedQuery (channel : Channel) (nonce : Nat) (query : Query) : Query :=
  (query.insert channel.profile.nonceParameter (toString nonce)).insert
    channel.profile.keyParameter channel.key

/-- A signed request. Exactly the address that is sent is signed. -/
def signedRequest (channel : Channel) (endpoint : Endpoint) (nonce : Nat) (query : Query) :
    Request :=
  let url := (channel.signedQuery nonce query).address channel.profile.base endpoint.path
  { method := endpoint.method
    url := url
    body := match endpoint.method with
      | .post => some ""
      | .get => none
    headers := [(channel.profile.signatureHeader, channel.signer.sign url)] }

/-- A request of an anonymous endpoint. -/
def anonymousRequest (channel : Channel) (endpoint : Endpoint) (query : Query) : Request :=
  { method := endpoint.method
    url := query.address channel.profile.base endpoint.path
    body := none
    headers := [("Content-Type", "application/x-www-form-urlencoded")] }

/-- The request for an endpoint, and the channel after a nonce was taken for it. -/
def prepare (channel : Channel) (endpoint : Endpoint) (query : Query) :
    Except Failure (Request × Channel) :=
  match endpoint.access with
  | .anonymous => .ok (channel.anonymousRequest endpoint query, channel)
  | .signed => do
    let (nonce, nonces) ← channel.nonces.take
    return (channel.signedRequest endpoint nonce query, { channel with nonces := nonces })

/-- What the tolerance makes of the transport's outcome. -/
def receive (tolerance : Tolerance) : Except Failure Response → Except Failure Response
  | .ok response => tolerance.checkResponse response
  | .error failure => .error (tolerance.checkFailure failure)

def exchange (channel : Channel) (transport : Transport) (endpoint : Endpoint) (query : Query)
    (read : Response → Except Abort α) : Step Channel α :=
  match channel.prepare endpoint query with
  | .error failure => ⟨.error (.failure failure), none, channel⟩
  | .ok (request, after) =>
    match receive channel.tolerance (transport request) with
    | .error failure => ⟨.error (.failure failure), some request, after⟩
    | .ok response => ⟨read response, some request, after⟩

def execute (channel : Channel) (transport : Transport) (endpoint : Endpoint) (query : Query) :
    Step Channel Response :=
  channel.exchange transport endpoint query .ok

/-- How the channel reads the replies to an operation whose failures begin with a context. -/
def rules (channel : Channel) (context : String) : ReplyRules :=
  ⟨channel.profile.envelope, channel.tolerance, context⟩

def call (channel : Channel) (transport : Transport) (endpoint : Endpoint) (query : Query)
    (context : String) (shape : Json.Shape α) (understand : α → Except Abort β) : Step Channel β :=
  channel.exchange transport endpoint query ((channel.rules context).readResult shape understand)

def acknowledge (channel : Channel) (transport : Transport) (endpoint : Endpoint) (query : Query)
    (context : String) : Step Channel Unit :=
  channel.exchange transport endpoint query (channel.rules context).readFlag

/-- The channel as shown in diagnostics: neither the key nor the secret is among it. -/
def shown (channel : Channel) (listing : Text.Listing := .asGiven) : String :=
  Text.shownPartially "ProtocolKit"
    [("profile", channel.profile.shown), ("nonce", channel.nonces.shown),
      ("classifier", channel.tolerance.shown listing)]

end Channel

end VenueGateway
