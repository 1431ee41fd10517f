import VenueGateway.Text.Ascii

/-! # Requests and responses

What is handed to a transport, and what it brings back. A transport is any function from a request
to its outcome, so that the outcome of a step can depend on all that was sent.
-/

namespace VenueGateway

/-- How a request is made. -/
inductive Method
  | get
  | post
deriving DecidableEq

def Method.text : Method → String
  | get => "GET"
  | post => "POST"

/-- A request ready for the wire. -/
structure Request where
  method : Method
  url : String
  body : Option String
  headers : List (String × String)
deriving DecidableEq

/-- The value of the first header with this name, in any case of letters. -/
def Request.headerValue? (request : Request) (name : String) : Option String :=
  (request.headers.find? fun header => Text.sameIgnoringCase header.1 name).map Prod.snd

/-- A status code and a body, not interpreted. Status codes are below `2 ^ 16`. -/
structure Response where
  status : Fin 65536
  payload : String
deriving DecidableEq

namespace Response

def isOk (response : Response) : Bool := response.status.val = 200

def isSuccess (response : Response) : Bool :=
  200 ≤ response.status.val && response.status.val < 300

def text (response : Response) : String :=
  "HTTP " ++ toString response.status.val ++ " - " ++ response.payload

end Response

end VenueGateway
