import VenueGateway.Channel.Profile
import VenueGateway.Tolerance

/-! # What a reply means

A response that the tolerance let pass is a value only if its status is 200, its body is an accepted
envelope, the result has the expected shape, and the domain can make something of it. Everything
else is a failure of the venue that says for which operation it arose and keeps the response. One
case is a network failure: a rejection whose message the tolerance covers.
-/

namespace VenueGateway

/-- How the replies to one operation are read. -/
structure ReplyRules where
  names : EnvelopeNames
  tolerance : Tolerance
  /-- What the operation's failures begin with. -/
  context : String

namespace ReplyRules

variable {α β : Type}

def failed (rules : ReplyRules) (detail : String) (response : Response) : Failure :=
  .tradingApi (rules.context ++ detail) (some response)

/-- Only status 200 is served. -/
def requireServed (rules : ReplyRules) (response : Response) : Except Failure Unit :=
  if response.isOk then .ok () else .error (rules.failed response.text response)

/-- Only an accepted envelope has a result. -/
def requireAccepted (rules : ReplyRules) (envelope : Envelope α) (response : Response) :
    Except Failure Unit :=
  if envelope.success then .ok ()
  else
    match envelope.message with
    | some message =>
      if rules.tolerance.coversText message then .error (.network (rules.context ++ message))
      else .error (rules.failed response.text response)
    | none => .error (rules.failed response.text response)

/-- A body that is no envelope of the expected shape. -/
def undecodable (rules : ReplyRules) (response : Response) (cause : Envelope.DecodeError) :
    Failure :=
  rules.failed (cause.message ++ " in " ++ response.text) response

/-- The envelope of a served and accepted reply. -/
def openAccepted (rules : ReplyRules)
    (decode : String → Except Envelope.DecodeError (Envelope α)) (response : Response) :
    Except Failure (Envelope α) := do
  rules.requireServed response
  let envelope ← (decode response.payload).mapError (rules.undecodable response)
  rules.requireAccepted envelope response
  return envelope

/-- A failure of the domain, completed by the response that showed it. -/
def attach (rules : ReplyRules) (response : Response) : Abort → Abort
  | .failure (.tradingApi detail none) => .failure (rules.failed detail response)
  | abort => abort

/-- The result of a reply, by its shape, as the domain understands it. -/
def readResult (rules : ReplyRules) (shape : Json.Shape α) (understand : α → Except Abort β)
    (response : Response) : Except Abort β :=
  match rules.openAccepted (Envelope.decode rules.names shape) response with
  | .error failure => .error (.failure failure)
  | .ok envelope =>
    match envelope.result with
    | some result => (understand result).mapError (rules.attach response)
    | none => .error (.failure (rules.failed ("missing result in " ++ response.text) response))

/-- Whether a reply is accepted; its result does not matter. -/
def readFlag (rules : ReplyRules) (response : Response) : Except Abort Unit :=
  match rules.openAccepted (Envelope.decodeFlag rules.names) response with
  | .error failure => .error (.failure failure)
  | .ok _ => .ok ()

end ReplyRules

end VenueGateway
