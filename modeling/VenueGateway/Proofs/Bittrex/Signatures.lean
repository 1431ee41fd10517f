import VenueGateway.Proofs.Bittrex.FirstSetUp
import VenueGateway.Proofs.Channel.Signed
import VenueGateway.Proofs.Settings.Secrets

/-! # Who signs for a client

All requests of a client are signed with the secret of its first setup, however often it was set up
with other settings since.
-/

namespace VenueGateway.Bittrex

namespace Client

variable {client : Client} {transport : Transport} {call : Call} {request : Request}

/-- Whatever is sent after a run shows the secret of the first setup of the run. -/
theorem showsSender_of_run (fresh : client.readiness = .uninitialized) {actions : List Action}
    (sent : ((client.run actions).answer transport call).sent = some request) :
    ∃ settings nonces secret operation query read, firstSetUp? actions = some (settings, nonces) ∧
      (client.setUp settings nonces).1 = .ok () ∧
      settings.secrets.get? Secrets.secretName = some secret ∧
      work call = .request operation query read ∧
      request.ShowsSender "apisign" secret operation.endpoint := by
  obtain ⟨now, ready, sent, -⟩ := sent_eq_some sent
  cases first : firstSetUp? actions with
  | none =>
    rw [run_of_no_setUp fresh first, fresh] at ready
    cases ready
  | some chosen =>
    obtain ⟨settings, nonces⟩ := chosen
    cases done : (client.setUp settings nonces).1 with
    | error failure =>
      rw [run_of_setUp_error fresh first done] at ready
      cases ready
    | ok _ =>
      obtain ⟨session, asked, later, ran⟩ := run_of_setUp_ok fresh first done
      rw [ran] at ready
      cases ready
      have setUpFor := (setUpFor_of_sessionFor asked).1
      have usable := (Secrets.credentials_eq_ok_iff.mp setUpFor.credentials).2
      obtain ⟨operation, query, read, wired, built⟩ := Session.sent_eq_some sent
      have shows := Channel.showsSender_of_request? built
      have header : (session.withNonces later).channel.profile.signatureHeader = "apisign" := by
        change session.channel.profile.signatureHeader = "apisign"
        rw [setUpFor.profile, profile]
      rw [header] at shows
      exact ⟨settings, nonces, _, operation, query, read, rfl, done,
        (Secrets.required_eq_ok_iff.mp usable).1, wired, shows⟩

end Client

/-- Every request that a channel or a client hands over shows its sender: by the secret of the channel,
and by the one of the client's first setup, whatever settings it was offered since. -/
theorem sent_showsSender :
    (∀ (channel : Channel) (uses : List Use) (use : Use) (request : Request),
      (use.effect (channel.run uses)).sent = some request →
        request.ShowsSender channel.profile.signatureHeader channel.signer.secret use.endpoint) ∧
    ∀ (client : Client) (actions : List Action) (transport : Transport) (call : Call)
      (request : Request), client.readiness = .uninitialized →
        ((client.run actions).answer transport call).sent = some request →
        ∃ settings nonces secret operation query read,
          firstSetUp? actions = some (settings, nonces) ∧ (client.setUp settings nonces).1 = .ok () ∧
          settings.secrets.get? Secrets.secretName = some secret ∧
          work call = .request operation query read ∧
          request.ShowsSender "apisign" secret operation.endpoint := by
  constructor
  · intro channel uses use request sent
    exact Channel.showsSender_of_effect sent
  · intro client actions transport call request fresh sent
    exact Client.showsSender_of_run fresh sent

/-- A signed `GET` has no body, a client that was offered another secret signs with its first, and what
is signed so is what the reference says. -/
theorem sent_showsSender_otherSecret :
    (∃ request, (Use.effect (Channel.sample ⟨7⟩ .standard)
        (.execute (fun _ => .error (.network "offline")) ⟨"account", .signed, .get⟩ ∅)).sent =
          some request ∧ request.body = none ∧
        ∃ signature, request.headers = [("apisign", signature)] ∧
          IsSignature "secret" request.url signature) ∧
      (Client.new true).readiness = .uninitialized ∧
      (∃ request, (((Client.new true).run
          [.setUp plainSettings ⟨1000⟩, .setUp otherSecret ⟨5⟩]).answer
            (fun _ => .error (.network "offline")) .balances).sent = some request ∧
        request.body = some "" ∧ ∃ signature, request.headers = [("apisign", signature)] ∧
          IsSignature "secret" request.url signature) ∧
      IsSignature "testest" "test"
        ("7333d46949b6001c4acf6ebabab423e00acf67e861e0fb3edb3b1b38e02689698d9394b92ab64881cbc6ab641f769cbc" ++
          "8c79a820af9f5694e5d8f225d5e64ff1") := by
  refine ⟨?get, rfl, ?post, ?reference⟩
  case get =>
    obtain ⟨request, sent⟩ : ∃ request, (Use.effect (Channel.sample ⟨7⟩ .standard)
        (.execute (fun _ => .error (.network "offline")) ⟨"account", .signed, .get⟩ ∅)).sent =
          some request := ⟨_, rfl⟩
    have shows := sent_showsSender.1 (Channel.sample ⟨7⟩ .standard) [] _ request sent
    exact ⟨request, sent, shows.get rfl shows.method, shows.signed rfl⟩
  case post =>
    obtain ⟨request, sent⟩ : ∃ request, (((Client.new true).run
        [.setUp plainSettings ⟨1000⟩, .setUp otherSecret ⟨5⟩]).answer
          (fun _ => .error (.network "offline")) .balances).sent = some request := ⟨_, rfl⟩
    obtain ⟨settings, nonces, secret, operation, query, read, first, -, kept, wired, shows⟩ :=
      sent_showsSender.2 (Client.new true) _ _ _ request rfl sent
    cases first
    cases wired
    have known : plainSettings.secrets.get? Secrets.secretName = some "secret" := by decide +kernel
    obtain rfl : secret = "secret" := Option.some.inj (kept.symm.trans known)
    exact ⟨request, sent, shows.post rfl shows.method, shows.signed rfl⟩
  case reference =>
    have signed := Signer.isSignature_sign ⟨"testest", by decide⟩ "test"
    rwa [Signer.sign, Hmac.hex_code_reference] at signed

end VenueGateway.Bittrex
