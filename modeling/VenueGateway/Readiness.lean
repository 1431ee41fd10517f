import VenueGateway.Failure
import VenueGateway.Text.Quoted

/-! # Readiness

An adapter is set up once. Until then, and for good if the setup fails, there is nothing to call. A
second setup is refused whatever became of the first.
-/

namespace VenueGateway

/-- How far an adapter has come on its way to a session. -/
inductive Readiness (σ : Type)
  | uninitialized
  | initializing
  | ready (session : σ)
  | failed (reason : String)
deriving DecidableEq

namespace Readiness

variable {σ : Type}

def name : Readiness σ → String
  | uninitialized => "Uninitialized"
  | initializing => "Initializing"
  | ready _ => "Ready"
  | failed _ => "Failed"

def isReady : Readiness σ → Bool
  | ready _ => true
  | _ => false

def alreadyAttempted (state : Readiness σ) : Failure :=
  .configuration ("Adapter initialisation already attempted (state: " ++ state.name ++ ")")

def canSetUp : Readiness σ → Bool
  | uninitialized => true
  | _ => false

/-- Set up once: the outcome of the setup, and the state it leads to. -/
def setUp (state : Readiness σ) (setup : Except Failure σ) : Except Failure Unit × Readiness σ :=
  match state with
  | uninitialized =>
    match setup with
    | .ok session => (.ok (), ready session)
    | .error failure => (.error failure, failed failure.message)
  | state => (.error state.alreadyAttempted, state)

/-- The session, or the failure of having none. -/
def session : Readiness σ → Except Failure σ
  | ready session => .ok session
  | failed reason => .error (.configuration ("Adapter failed to initialise: " ++ reason))
  | state => .error (.configuration ("Adapter is not ready (state: " ++ state.name ++ ")"))

def shown (showSession : σ → String) : Readiness σ → String
  | ready session => "Ready(" ++ showSession session ++ ")"
  | failed reason => "Failed(" ++ Text.quoted reason ++ ")"
  | state => state.name

end Readiness

end VenueGateway
