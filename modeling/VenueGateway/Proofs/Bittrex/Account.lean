import VenueGateway.Proofs.Bittrex.Failures
import VenueGateway.Proofs.Bittrex.Requests
import VenueGateway.Proofs.Bittrex.Signatures

/-! # The account that a client acts for

A client that is set up is ready, and acts for one account: every request for the account carries its
key, and is signed with its secret. Nothing that is done with the client changes this, and neither do
the credentials of later setups.
-/

namespace VenueGateway.Bittrex

/-- A request for an operation that is made in the name of an account. -/
structure MadeFor (request : Request) (base : String) (credentials : Credentials)
    (operation : Operation) : Prop where
  shows : request.ShowsSender "apisign" credentials.secret operation.endpoint
  carries : operation.endpoint.access = .signed → ∃ nonce query,
    (profile base).CarriesNonce credentials.key operation.endpoint nonce query request.url

/-- A client that acts for an account, whatever is done with it: it is ready, it asks for what it is
called for while there are nonces, and all that it sends is made for the account. -/
structure Client.ActsFor (client : Client) (base : String) (credentials : Credentials) : Prop where
  ready : ∀ actions, (client.run actions).isReady = true
  asks : ∀ actions, ∃ session, (client.run actions).readiness = .ready session ∧
    (session.channel.nonces.HasNext → ∀ transport call, (client.run actions).Sends base
      (wire? credentials.key session.channel.nonces.next.val call) transport call)
  sends : ∀ actions transport call request,
    ((client.run actions).answer transport call).sent = some request →
    ∃ operation, operation? call = some operation ∧ MadeFor request base credentials operation

theorem operation?_of_work {call : Call} {operation : Operation} {query : Query}
    {read : ReplyRules → Response → Except Abort Answer}
    (wired : work call = .request operation query read) : operation? call = some operation := by
  cases call with
  | buyFee | sellFee => cases wired
  | orderBook | openOrders | createOrder | cancelOrder | latestPrice | balances =>
    cases wired
    rfl

variable {session : Session} {base : String} {settings : VenueSettings}

theorem Session.madeFor (setUpFor : session.SetUpFor base settings) {transport : Transport}
    {call : Call} {request : Request} (sent : (session.answer transport call).sent = some request) :
    ∃ operation, operation? call = some operation ∧
      MadeFor request base ⟨session.channel.key, session.channel.signer.secret⟩ operation := by
  obtain ⟨operation, query, read, wired, built⟩ := sent_eq_some sent
  refine ⟨operation, operation?_of_work wired, ?shows, ?carries⟩
  case shows =>
    have shows := Channel.showsSender_of_request? built
    rwa [setUpFor.profile] at shows
  case carries =>
    intro signed
    have next := Channel.hasNext_of_request? signed built
    rw [Channel.request?_of_signed signed next] at built
    cases built
    have distinct : session.channel.profile.nonceParameter ≠ session.channel.profile.keyParameter := by
      rw [setUpFor.profile]
      exact (by decide : "nonce" ≠ "apikey")
    have carries := Channel.carriesNonce_signedRequest distinct operation.endpoint
      session.channel.nonces.next.val query
    rw [setUpFor.profile] at carries
    exact ⟨_, query, carries⟩

namespace Client

variable {client : Client} {credentials : Credentials}

/-- A client that serves some settings acts for the account that they name. -/
theorem Serves.actsFor (serves : client.Serves base settings session)
    (named : settings.secrets.credentials = .ok credentials) : client.ActsFor base credentials := by
  have account : ∀ {now : Session}, now.SetUpFor base settings →
      credentials = ⟨now.channel.key, now.channel.signer.secret⟩ := by
    intro now setUpFor
    exact Except.ok.inj (named.symm.trans setUpFor.credentials)
  refine ⟨?ready, ?asks, ?sends⟩
  case ready =>
    intro actions
    obtain ⟨now, still⟩ := serves.run actions
    rw [isReady, still.ready]
    rfl
  case asks =>
    intro actions
    obtain ⟨now, still⟩ := serves.run actions
    rw [account still.setUpFor]
    exact ⟨now, still.ready, still.sends⟩
  case sends =>
    intro actions transport call request sent
    obtain ⟨now, still⟩ := serves.run actions
    rw [account still.setUpFor]
    exact Session.madeFor still.setUpFor (still.sent_eq_some sent)

/-- A client that serves some settings answers the fees that they name. -/
theorem Serves.fees (serves : client.Serves base settings session) (actions : List Action)
    (transport : Transport) (market : String) :
    ((client.run actions).answer transport (.buyFee market)).outcome = .ok (.fee session.fees.buy) ∧
      ((client.run actions).answer transport (.sellFee market)).outcome =
        .ok (.fee session.fees.sell) := by
  obtain ⟨now, ran⟩ := run_of_ready serves.ready actions
  rw [ran]
  exact ⟨rfl, rfl⟩

end Client

end VenueGateway.Bittrex
