import VenueGateway.Proofs.Bittrex.FirstSetUp
import VenueGateway.Proofs.Channel.Secrecy
import VenueGateway.Proofs.Settings.Secrecy

/-! # What a secret changes of a client

Two clients are set up with settings that differ in the secret alone, and then treated alike. Every
answer and failure and every look at their readiness is the same for both, and so is every request but for
its signature and every diagnostic text but for the order in which it lists what has none. The secret shows
in nothing else.
-/

namespace VenueGateway.Bittrex

def Session.withSigner (session : Session) (signer : Signer) : Session :=
  { session with channel := session.channel.withSigner signer }

/-- Clients that differ at most in the signer of their session. -/
inductive Client.SameButSigner : Client → Client → Prop
  | unready (client : Client) : client.isReady = false → SameButSigner client client
  | ready {client : Client} {session : Session} (signer : Signer) :
    client.readiness = .ready session → session.channel.profile.signatureHeader = "apisign" →
      SameButSigner client { client with readiness := .ready (session.withSigner signer) }

/-- The same action in two scripts: settings may differ in the secret, and transports may look at
everything but the signature. -/
inductive Action.SameButSecret : Action → Action → Prop
  | setUp {settings other : VenueSettings} (nonces : NonceCounter) :
    settings.SameButSecret other → SameButSecret (.setUp settings nonces) (.setUp other nonces)
  | answer {transport other : Transport} (call : Call) :
    SameOutcomes transport other → SameButSecret (.answer transport call) (.answer other call)

/-! ## What is seen -/

/-- The diagnostic texts of a client, and of its channel and its signer once it is ready. -/
def Client.texts (listing : Text.Listing) (client : Client) : List String :=
  client.shown listing ::
    match client.readiness with
    | .ready session =>
      [session.shown listing, session.channel.shown listing, session.channel.signer.shown]
    | _ => []

/-- What is seen of an action on a client: how it ends, the request that is sent, whether the client
is ready afterwards, and all diagnostic texts that can be had. -/
structure Observation where
  outcome : Except Abort (Option Answer)
  sent : Option Request
  ready : Bool
  texts : List String

/-- The observation without the value of a signature. -/
def Observation.unsigned (observation : Observation) : Observation :=
  { observation with sent := observation.sent.map Request.unsigned }

theorem Session.listsOnce_shown (session : Session) :
    Text.ListsOnce fun listing => session.shown listing := by
  have placed := session.channel.listsOnce_shown.record "Session" "kit" [] [("fees", session.fees.shown)]
  simpa only [shown, List.nil_append] using placed

namespace Client

/-- What is seen of one action, in texts by a listing. -/
def observation (client : Client) (listing : Text.Listing) : Action → Observation
  | .setUp settings nonces =>
    let (outcome, after) := client.setUp settings nonces
    ⟨(outcome.mapError Abort.failure).map fun _ => none, none, after.isReady,
      settings.texts listing ++ after.texts listing⟩
  | .answer transport call =>
    let step := client.answer transport call
    ⟨step.outcome.map some, step.sent, step.after.isReady, step.after.texts listing⟩

variable {client other : Client} {settings changed : VenueSettings}

theorem SameButSigner.isReady (same : client.SameButSigner other) : client.isReady = other.isReady := by
  cases same with
  | unready _ => rfl
  | ready signer ready _ =>
    rw [Client.isReady, ready]
    rfl

/-- No text of a client shows its secret. -/
theorem SameButSigner.texts (same : client.SameButSigner other) (listing : Text.Listing) :
    client.texts listing = other.texts listing := by
  cases same with
  | unready _ => rfl
  | ready signer ready _ =>
    rw [Client.texts, Client.texts, shown, shown, ready]
    rfl

end Client

/-! ## Answering -/

variable {transport other : Transport}

namespace Client

variable {client twin : Client}

def backwards : Text.Listing := ⟨List.reverse, List.reverse_perm⟩

end Client

end VenueGateway.Bittrex
