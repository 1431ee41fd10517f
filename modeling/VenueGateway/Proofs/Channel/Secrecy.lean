import VenueGateway.Proofs.Channel.Exchange
import VenueGateway.Proofs.NameMap
import VenueGateway.Proofs.Text.Listing

/-! # What a secret changes of an exchange

Channels that differ in their signer alone send requests that differ in the signature alone. If the
transports do not look at it, both exchanges end in the same way, and the channels differ in the
signer alone again. The text of a channel has no signer in it, and one thing without an order: the
statuses that it lets pass.
-/

namespace VenueGateway

/-- A request without the value of its signature. -/
def Request.unsigned (request : Request) : Request :=
  { request with headers := Entries.strikeOut "apisign" request.headers }

/-- Transports that bring the same for requests that differ in the signature alone. -/
def SameOutcomes (transport other : Transport) : Prop :=
  ∀ request changed : Request, request.unsigned = changed.unsigned →
    transport request = other changed

namespace Channel

variable {α : Type} {channel : Channel} {endpoint : Endpoint} {query : Query}
  {transport other : Transport}

def withSigner (channel : Channel) (signer : Signer) : Channel := { channel with signer := signer }

end Channel

/-! ## Texts -/

theorem Tolerance.listsOnce_shown (tolerance : Tolerance) :
    Text.ListsOnce fun listing => tolerance.shown listing := by
  have statuses := Text.ListsOnce.braced (tolerance.statuses.eraseDups.map fun status => toString status.val)
  have placed := statuses.record "FailureClassifier" "status_codes" []
    [("messages", Text.bracketed (tolerance.fragments.map Text.quoted))]
  simpa only [shown, List.nil_append] using placed

theorem Channel.listsOnce_shown (channel : Channel) :
    Text.ListsOnce fun listing => channel.shown listing := by
  have placed := channel.tolerance.listsOnce_shown.partially "ProtocolKit" "classifier"
    [("profile", channel.profile.shown), ("nonce", channel.nonces.shown)] []
  simpa only [shown, List.cons_append, List.nil_append] using placed

end VenueGateway
