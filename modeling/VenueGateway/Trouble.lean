import VenueGateway.Failure
import VenueGateway.Json.Fault
import VenueGateway.Json.Shape

/-! # Trouble of the whole program

Beside the failures of a venue a program can meet settings that it cannot use, JSON that it cannot
read, and files that it cannot open.
-/

namespace VenueGateway

/-- What can go wrong in the program. -/
inductive Trouble
  | settings (detail : String)
  | venue (failure : Failure)
  | json (detail : String)
  | file (detail : String)
deriving DecidableEq

namespace Trouble

def message : Trouble → String
  | settings detail => "Configuration error: " ++ detail
  | venue failure => "Exchange error: " ++ failure.message
  | json detail => "Serialization error: " ++ detail
  | file detail => "IO error: " ++ detail

def ofSyntax (cause : Json.SyntaxError) : Trouble := .json cause.message

def ofShape (cause : Json.ShapeError) : Trouble := .json cause.message

end Trouble

end VenueGateway
