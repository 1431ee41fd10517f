import VenueGateway.Settings.Basic
import VenueGateway.Text.Fragment

/-! # Tolerance

Which statuses and fragments of text are taken for passing trouble. The tolerance only applies the
settings: it turns what they name into network failures and leaves everything else as it is.
-/

namespace VenueGateway

/-- Statuses and fragments that mean passing trouble. No fragment is empty, since that would cover
every text. -/
structure Tolerance where
  statuses : List (Fin 65536)
  fragments : List String
  fragments_ne : ∀ fragment ∈ fragments, fragment ≠ ""
deriving DecidableEq

namespace Tolerance

/-- The tolerance that the network settings ask for. Empty fragments are left out. -/
def ofSettings (network : NetworkSettings) : Tolerance :=
  ⟨network.transientStatuses, network.transientFragments.filter (· ≠ ""), by simp⟩

def coversStatus (tolerance : Tolerance) (status : Fin 65536) : Bool :=
  tolerance.statuses.contains status

def coversText (tolerance : Tolerance) (text : String) : Bool :=
  tolerance.fragments.any (Text.hasFragment text)

/-- A response, or the network failure that it stands for: by its status, or, outside of the 200s,
by what its body says. -/
def checkResponse (tolerance : Tolerance) (response : Response) : Except Failure Response :=
  if tolerance.coversStatus response.status then
    .error (.network ("Non-fatal HTTP status " ++ toString response.status.val ++
      " from exchange: " ++ response.payload))
  else if !response.isSuccess && tolerance.coversText response.payload then
    .error (.network ("Non-fatal error from exchange: " ++ response.text))
  else .ok response

/-- A failure of the transport, turned into a network failure if its words are covered. -/
def checkFailure (tolerance : Tolerance) : Failure → Failure
  | .tradingApi detail response =>
    if tolerance.coversText detail then .network detail else .tradingApi detail response
  | failure => failure

/-- The tolerance as shown in diagnostics. Each status is shown once, and their order is not fixed. -/
def shown (listing : Text.Listing) (tolerance : Tolerance) : String :=
  Text.shownRecord "FailureClassifier"
    [("status_codes",
        listing.braced (tolerance.statuses.eraseDups.map fun status => toString status.val)),
      ("messages", Text.bracketed (tolerance.fragments.map Text.quoted))]

end Tolerance

end VenueGateway
