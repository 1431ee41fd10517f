import VenueGateway.Http.Form
import VenueGateway.NameMap

/-! # Queries and request addresses

A query holds one value under each parameter name. Its text lists the parameters in the order of
their names, so that equal queries have equal texts; the same text is signed and sent.
-/

namespace VenueGateway

abbrev Query := NameMap String

namespace Query

def text (query : Query) : String := String.ofList (Form.encodePairs query.entries)

/-- The address of a request: base, path, and the query behind a question mark if there is one. -/
def address (query : Query) (base path : String) : String :=
  if query.isEmpty then base ++ path else base ++ path ++ "?" ++ text query

end Query

end VenueGateway
