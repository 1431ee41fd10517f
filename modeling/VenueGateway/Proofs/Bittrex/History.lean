import VenueGateway.Bittrex.Client
import VenueGateway.Proofs.Channel.Exchange
import VenueGateway.Proofs.Traversal

/-! # What becomes of a client

A client is set up, asked and set up again in any order. Its first setup decides what it is: from
then on nothing but the nonces of its channel changes, whatever it is asked and whatever the
transports bring.
-/

namespace VenueGateway

theorem Readiness.setUp_of_attempted {σ : Type} {state : Readiness σ}
    (attempted : state.canSetUp = false) (setup : Except Failure σ) :
    state.setUp setup = (.error state.alreadyAttempted, state) := by
  cases state with
  | uninitialized => cases attempted
  | initializing | ready session | failed reason => rfl

namespace Bittrex

/-- A session is what some settings ask for, with any nonces. -/
structure Session.SetUpFor (session : Session) (base : String) (settings : VenueSettings) : Prop where
  profile : session.channel.profile = Bittrex.profile base
  credentials : settings.secrets.credentials = .ok ⟨session.channel.key, session.channel.signer.secret⟩
  tolerance : session.channel.tolerance = .ofSettings settings.network
  fees : Fees.ofEntries settings.entries = .ok session.fees

/-- A client answers by a session that some settings ask for. -/
structure Client.Serves (client : Client) (base : String) (settings : VenueSettings)
    (session : Session) : Prop where
  ready : client.readiness = .ready session
  setUpFor : session.SetUpFor base settings

/-- What is done with a client. -/
inductive Action
  | setUp (settings : VenueSettings) (nonces : NonceCounter)
  | answer (transport : Transport) (call : Call)

/-- The client after an action. -/
def Client.act (client : Client) : Action → Client
  | .setUp settings nonces => (client.setUp settings nonces).2
  | .answer transport call => (client.answer transport call).after

def Client.run (client : Client) (actions : List Action) : Client := actions.foldl Client.act client

/-! ## Setting up -/

theorem establish_eq_ok {profile : Profile} {credentials : Credentials} {network : NetworkSettings}
    {nonces : NonceCounter} {channel : Channel}
    (established : Channel.establish profile credentials network nonces = .ok channel) :
    channel.profile = profile ∧ credentials = ⟨channel.key, channel.signer.secret⟩ ∧
      channel.tolerance = .ofSettings network ∧ channel.nonces = nonces := by
  rw [Channel.establish] at established
  split at established
  · cases established
  · obtain ⟨signer, signed, made⟩ := bind_eq_ok_iff.mp established
    cases made
    rw [Signer.ofSecret] at signed
    split at signed
    · cases signed
    · cases signed
      exact ⟨rfl, rfl, rfl, rfl⟩

namespace Client

variable {client : Client} {base : String} {settings : VenueSettings} {nonces : NonceCounter}
  {session : Session}

theorem setUpFor_of_sessionFor (asked : client.sessionFor settings nonces = .ok session) :
    session.SetUpFor (client.baseFor settings) settings ∧ session.channel.nonces = nonces := by
  rw [sessionFor] at asked
  obtain ⟨found, credentials, asked⟩ := bind_eq_ok_iff.mp asked
  obtain ⟨channel, established, asked⟩ := bind_eq_ok_iff.mp asked
  obtain ⟨fees, read, made⟩ := bind_eq_ok_iff.mp asked
  cases made
  obtain ⟨profile, found_eq, tolerance, nonces⟩ := establish_eq_ok established
  exact ⟨⟨profile, by rw [credentials, found_eq], tolerance, mapError_eq_ok_iff.mp read⟩, nonces⟩

/-- The first setup, if it succeeds, leads to what its settings ask for. -/
theorem serves_setUp (fresh : client.readiness = .uninitialized)
    (done : (client.setUp settings nonces).1 = .ok ()) :
    ∃ session, (client.setUp settings nonces).2.Serves (client.baseFor settings) settings session ∧
      session.channel.nonces = nonces := by
  cases asked : client.sessionFor settings nonces with
  | error failure =>
    rw [setUp, fresh, asked] at done
    cases done
  | ok session =>
    obtain ⟨setUpFor, taken⟩ := setUpFor_of_sessionFor asked
    rw [setUp, fresh, asked]
    exact ⟨session, ⟨rfl, setUpFor⟩, taken⟩

theorem setUp_of_attempted (attempted : client.readiness.canSetUp = false)
    (settings : VenueSettings) (nonces : NonceCounter) :
    client.setUp settings nonces = (.error client.readiness.alreadyAttempted, client) := by
  rw [setUp, Readiness.setUp_of_attempted attempted]

/-! ## Answering -/

theorem answer_of_refused {call : Call} {failure : Failure}
    (refused : checkCall call = .error failure) (transport : Transport) :
    client.answer transport call = ⟨.error (.failure failure), none, client⟩ := by
  rw [answer, refused]

theorem answer_of_ready (ready : client.readiness = .ready session) {call : Call}
    (allowed : checkCall call = .ok ()) (transport : Transport) :
    client.answer transport call =
      ⟨(session.answer transport call).outcome, (session.answer transport call).sent,
        { client with readiness := .ready (session.answer transport call).after }⟩ := by
  rw [answer, allowed, ready]
  rfl

end Client

def Session.withNonces (session : Session) (nonces : NonceCounter) : Session :=
  { session with channel := { session.channel with nonces := nonces } }

/-- Answering changes nothing of a session but the nonces. -/
theorem Session.answer_after (session : Session) (transport : Transport) (call : Call) :
    ∃ nonces, (session.answer transport call).after = session.withNonces nonces := by
  rw [Session.answer]
  split
  · exact ⟨session.channel.nonces, rfl⟩
  · rename_i operation query read _
    dsimp only
    rw [Channel.exchange_after, Channel.advance_eq]
    exact ⟨_, rfl⟩

namespace Client

variable {client : Client} {base : String} {settings : VenueSettings} {nonces : NonceCounter}
  {session : Session}

/-- An action on a ready client changes nothing but the nonces. -/
theorem act_of_ready (ready : client.readiness = .ready session) (action : Action) :
    ∃ nonces, client.act action = { client with readiness := .ready (session.withNonces nonces) } := by
  have same : { client with readiness := .ready (session.withNonces session.channel.nonces) } = client := by
    rw [Session.withNonces, ← ready]
  cases action with
  | setUp settings nonces =>
    have attempted : client.readiness.canSetUp = false := by rw [ready]; rfl
    refine ⟨session.channel.nonces, ?_⟩
    rw [same, act, setUp_of_attempted attempted]
  | answer transport call =>
    rw [act]
    cases allowed : checkCall call with
    | error failure =>
      refine ⟨session.channel.nonces, ?_⟩
      rw [same, answer_of_refused allowed]
    | ok _ =>
      obtain ⟨nonces, after⟩ := session.answer_after transport call
      refine ⟨nonces, ?_⟩
      rw [answer_of_ready ready allowed, after]

/-! ## Runs -/

theorem run_cons (client : Client) (action : Action) (rest : List Action) :
    client.run (action :: rest) = (client.act action).run rest := rfl

theorem run_of_ready (ready : client.readiness = .ready session) (actions : List Action) :
    ∃ nonces, client.run actions = { client with readiness := .ready (session.withNonces nonces) } := by
  induction actions generalizing client session with
  | nil =>
    refine ⟨session.channel.nonces, ?_⟩
    change client = _
    rw [Session.withNonces, ← ready]
  | cons action rest ih =>
    obtain ⟨moved, stepped⟩ := act_of_ready ready action
    have still : (client.act action).readiness = .ready (session.withNonces moved) := by rw [stepped]
    obtain ⟨nonces, ran⟩ := ih still
    refine ⟨nonces, ?_⟩
    rw [run_cons, ran, stepped]
    rfl

/-- Whatever is done with a client after it was set up, it serves the settings of that setup. -/
theorem Serves.run (serves : client.Serves base settings session) (actions : List Action) :
    ∃ session, (client.run actions).Serves base settings session := by
  obtain ⟨nonces, ran⟩ := run_of_ready serves.ready actions
  have kept : session.SetUpFor base settings := serves.setUpFor
  refine ⟨session.withNonces nonces, ?_, ?_⟩
  · rw [ran]
  · exact ⟨kept.profile, kept.credentials, kept.tolerance, kept.fees⟩

theorem serves_run (fresh : client.readiness = .uninitialized)
    (done : (client.setUp settings nonces).1 = .ok ()) (actions : List Action) :
    ∃ session, ((client.setUp settings nonces).2.run actions).Serves (client.baseFor settings)
      settings session := by
  obtain ⟨session, serves, -⟩ := serves_setUp fresh done
  exact serves.run actions

end Client

def plainSettings : VenueSettings where
  secrets := .ofList [("key", "key"), ("secret", "secret")]
  network := .standard
  entries := .ofList [("buy-fee", "0.25"), ("sell-fee", "0.25")]

def otherSecret : VenueSettings :=
  { plainSettings with secrets := .ofList [("key", "key"), ("secret", "other")] }

end Bittrex

end VenueGateway
