import VenueGateway.Http.Message

/-! # Failures

A call on a venue fails in one of four ways, and callers decide by the way alone what to do next:
only a network failure is worth another attempt. A failure reported by the venue keeps the response
that showed it, for diagnosis.
-/

namespace VenueGateway

/-- Why a call on a venue gave no value. -/
inductive Failure
  | configuration (detail : String)
  | network (detail : String)
  | tradingApi (detail : String) (response : Option Response)
  | invalidArgument (detail : String)
deriving DecidableEq

namespace Failure

def message : Failure → String
  | configuration detail => "Configuration error: " ++ detail
  | network detail => "Network error: " ++ detail
  | tradingApi detail _ => "Trading API error: " ++ detail
  | invalidArgument detail => "Invalid argument: " ++ detail

def isRetryable : Failure → Bool
  | network _ => true
  | _ => false

def response? : Failure → Option Response
  | tradingApi _ response => response
  | _ => none

end Failure

/-- Why a call was given up: it failed, or a product of two amounts was too large to have one. -/
inductive Abort
  | failure (failure : Failure)
  | overflow
deriving DecidableEq

namespace Abort

def overflowMessage : String := "Multiplication overflowed"

/-- Why the call was given up, in words. -/
def message : Abort → String
  | failure cause => cause.message
  | overflow => overflowMessage

end Abort

end VenueGateway
