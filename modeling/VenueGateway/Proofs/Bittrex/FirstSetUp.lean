import VenueGateway.Proofs.Bittrex.History
import VenueGateway.Proofs.Fees

/-! # The first setup

A client can be set up at any time and any number of times, but only the first attempt counts. Its
settings decide whether the client is ready or has failed, for good: whatever is done afterwards, a
ready client changes nothing but its nonces, and a failed one nothing at all. Later attempts are
refused without a look at their settings.
-/

namespace VenueGateway

namespace Readiness

variable {σ : Type} {state : Readiness σ}

/-- Without a session there is a configuration failure. -/
theorem session_of_not_ready (notReady : state.isReady = false) :
    ∃ detail, state.session = .error (.configuration detail) := by
  cases state with
  | ready session => cases notReady
  | uninitialized | initializing | failed reason => exact ⟨_, rfl⟩

end Readiness

namespace Bittrex

/-- The settings and the nonces of the first setup in a run. -/
def firstSetUp? : List Action → Option (VenueSettings × NonceCounter)
  | [] => none
  | .setUp settings nonces :: _ => some (settings, nonces)
  | .answer _ _ :: rest => firstSetUp? rest

/-- A session hands over a request only for the operation that the call is about. -/
theorem Session.sent_eq_some {session : Session} {transport : Transport} {call : Call}
    {request : Request} (sent : (session.answer transport call).sent = some request) :
    ∃ operation query read, work call = .request operation query read ∧
      session.channel.request? operation.endpoint query = some request := by
  rw [Session.answer] at sent
  split at sent
  · cases sent
  · rename_i operation query read wired
    dsimp only at sent
    rw [Channel.exchange_sent] at sent
    exact ⟨operation, query, read, wired, sent⟩

namespace Client

variable {client : Client} {settings : VenueSettings} {nonces : NonceCounter} {session : Session}
  {reason : String}

/-! ## One action -/

/-- A client that is not ready sends nothing and stays as it is. -/
theorem answer_of_not_ready (notReady : client.isReady = false) (transport : Transport)
    (call : Call) :
    (client.answer transport call).sent = none ∧ (client.answer transport call).after = client := by
  rw [answer]
  cases checkCall call with
  | error failure => exact ⟨rfl, rfl⟩
  | ok _ =>
    obtain ⟨detail, missing⟩ := Readiness.session_of_not_ready notReady
    rw [missing]
    exact ⟨rfl, rfl⟩

/-- A client that hands over a request is ready, and answers as its session does. -/
theorem sent_eq_some {transport : Transport} {call : Call} {request : Request}
    (sent : (client.answer transport call).sent = some request) :
    ∃ session, client.readiness = .ready session ∧
      (session.answer transport call).sent = some request ∧
      (client.answer transport call).outcome = (session.answer transport call).outcome := by
  cases state : client.readiness with
  | ready session =>
    cases allowed : checkCall call with
    | error failure =>
      rw [answer_of_refused allowed] at sent
      cases sent
    | ok _ =>
      rw [answer_of_ready state allowed] at sent ⊢
      exact ⟨session, rfl, sent, rfl⟩
  | uninitialized | initializing | failed reason =>
    have notReady : client.isReady = false := by rw [isReady, state]; rfl
    rw [(answer_of_not_ready notReady transport call).1] at sent
    cases sent

/-- A client hands over what the session that it serves by does. -/
theorem Serves.sent_eq_some {base : String} (serves : client.Serves base settings session)
    {transport : Transport} {call : Call} {request : Request}
    (sent : (client.answer transport call).sent = some request) :
    (session.answer transport call).sent = some request := by
  obtain ⟨found, ready, alsoSent, -⟩ := Client.sent_eq_some sent
  obtain rfl : session = found := Readiness.ready.inj (serves.ready.symm.trans ready)
  exact alsoSent

theorem Serves.outcome_eq {base : String} (serves : client.Serves base settings session)
    {transport : Transport} {call : Call} {request : Request}
    (sent : (client.answer transport call).sent = some request) :
    (client.answer transport call).outcome = (session.answer transport call).outcome := by
  obtain ⟨found, ready, -, same⟩ := Client.sent_eq_some sent
  obtain rfl : session = found := Readiness.ready.inj (serves.ready.symm.trans ready)
  exact same

theorem act_of_failed (failed : client.readiness = .failed reason) (action : Action) :
    client.act action = client := by
  cases action with
  | setUp settings nonces =>
    have attempted : client.readiness.canSetUp = false := by rw [failed]; rfl
    rw [act, setUp_of_attempted attempted]
  | answer transport call =>
    have notReady : client.isReady = false := by rw [isReady, failed]; rfl
    exact (answer_of_not_ready notReady transport call).2

/-! ## Runs -/

theorem run_of_failed (failed : client.readiness = .failed reason) (actions : List Action) :
    client.run actions = client := by
  induction actions with
  | nil => rfl
  | cons action rest ih => rw [run_cons, act_of_failed failed, ih]

/-- Up to its first setup a client stays as it is. -/
theorem run_of_no_setUp (fresh : client.readiness = .uninitialized) {actions : List Action}
    (absent : firstSetUp? actions = none) : client.run actions = client := by
  have notReady : client.isReady = false := by rw [isReady, fresh]; rfl
  induction actions with
  | nil => rfl
  | cons action rest ih =>
    cases action with
    | setUp settings nonces => cases absent
    | answer transport call =>
      rw [run_cons, act, (answer_of_not_ready notReady transport call).2]
      exact ih absent

/-- The first setup of a run is made on the client as it was at the beginning. -/
theorem run_of_setUp (fresh : client.readiness = .uninitialized) {actions : List Action}
    (first : firstSetUp? actions = some (settings, nonces)) :
    ∃ later, client.run actions = (client.setUp settings nonces).2.run later := by
  have notReady : client.isReady = false := by rw [isReady, fresh]; rfl
  induction actions with
  | nil => cases first
  | cons action rest ih =>
    cases action with
    | setUp settings' nonces' =>
      cases first
      exact ⟨rest, rfl⟩
    | answer transport call =>
      rw [run_cons, act, (answer_of_not_ready notReady transport call).2]
      exact ih first

/-! ## What a setup leads to -/

theorem setUp_of_fresh (fresh : client.readiness = .uninitialized) (settings : VenueSettings)
    (nonces : NonceCounter) :
    (∃ session, client.sessionFor settings nonces = .ok session ∧
        client.setUp settings nonces = (.ok (), { client with readiness := .ready session })) ∨
      ∃ failure, client.sessionFor settings nonces = .error failure ∧
        client.setUp settings nonces =
          (.error failure, { client with readiness := .failed failure.message }) := by
  rw [setUp, fresh]
  cases client.sessionFor settings nonces with
  | ok session => exact .inl ⟨session, rfl, rfl⟩
  | error failure => exact .inr ⟨failure, rfl, rfl⟩

/-- After a run whose first setup succeeds the client has the session of that setup, at some nonces. -/
theorem run_of_setUp_ok (fresh : client.readiness = .uninitialized) {actions : List Action}
    (first : firstSetUp? actions = some (settings, nonces))
    (done : (client.setUp settings nonces).1 = .ok ()) :
    ∃ session, client.sessionFor settings nonces = .ok session ∧ ∃ now,
      client.run actions = { client with readiness := .ready (session.withNonces now) } := by
  obtain ⟨later, ran⟩ := run_of_setUp fresh first
  obtain ⟨session, asked, led⟩ | ⟨failure, -, led⟩ := setUp_of_fresh fresh settings nonces
  · have ready : { client with readiness := .ready session }.readiness = .ready session := rfl
    obtain ⟨now, kept⟩ := run_of_ready ready later
    refine ⟨session, asked, now, ?_⟩
    rw [ran, led, kept]
  · rw [led] at done
    cases done

/-- After a run whose first setup fails the client keeps that failure. -/
theorem run_of_setUp_error (fresh : client.readiness = .uninitialized) {actions : List Action}
    (first : firstSetUp? actions = some (settings, nonces)) {failure : Failure}
    (failed : (client.setUp settings nonces).1 = .error failure) :
    client.run actions = { client with readiness := .failed failure.message } := by
  obtain ⟨later, ran⟩ := run_of_setUp fresh first
  obtain ⟨session, -, led⟩ | ⟨cause, -, led⟩ := setUp_of_fresh fresh settings nonces
  · rw [led] at failed
    cases failed
  · rw [led] at failed
    cases failed
    have stuck : { client with readiness := .failed failure.message }.readiness =
        .failed failure.message := rfl
    rw [ran, led, run_of_failed stuck]

/-- After its first setup a client is no longer set up. -/
theorem canSetUp_run (fresh : client.readiness = .uninitialized) {actions : List Action}
    (first : firstSetUp? actions = some (settings, nonces)) :
    (client.run actions).readiness.canSetUp = false := by
  cases done : (client.setUp settings nonces).1 with
  | ok _ =>
    obtain ⟨session, -, now, ran⟩ := run_of_setUp_ok fresh first done
    rw [ran]
    rfl
  | error failure =>
    rw [run_of_setUp_error fresh first done]
    rfl

/-- What a run of actions makes of a client that was not set up before. -/
structure Settled (client : Client) (actions : List Action) : Prop where
  idle : firstSetUp? actions = none → client.run actions = client
  ready : ∀ settings nonces, firstSetUp? actions = some (settings, nonces) →
    (client.setUp settings nonces).1 = .ok () →
    ∃ session, client.sessionFor settings nonces = .ok session ∧
      session.SetUpFor (client.baseFor settings) settings ∧
      ∃ now, client.run actions = { client with readiness := .ready (session.withNonces now) }
  failed : ∀ settings nonces failure, firstSetUp? actions = some (settings, nonces) →
    (client.setUp settings nonces).1 = .error failure →
    client.run actions = { client with readiness := .failed failure.message }
  /-- A later setup is refused, in the same way whatever its settings are. -/
  again : firstSetUp? actions ≠ none → ∃ detail, ∀ settings nonces,
    (client.run actions).setUp settings nonces = (.error (.configuration detail), client.run actions)
  silent : (client.run actions).isReady = false → ∀ transport call,
    ((client.run actions).answer transport call).sent = none
  fees : ∀ settings nonces, firstSetUp? actions = some (settings, nonces) →
    (client.setUp settings nonces).1 = .ok () →
    ∃ buy sell, Fees.readEntry settings.entries Fees.buyEntry = .ok buy ∧
      Fees.readEntry settings.entries Fees.sellEntry = .ok sell ∧ ∀ transport market,
        ((client.run actions).answer transport (.buyFee market)).outcome = .ok (.fee buy) ∧
        ((client.run actions).answer transport (.sellFee market)).outcome = .ok (.fee sell)

/-- The fees of a session are those that its entries ask for. -/
theorem readEntry_of_ofEntries {entries : NameMap String} {fees : Fees}
    (read : Fees.ofEntries entries = .ok fees) :
    Fees.readEntry entries Fees.buyEntry = .ok fees.buy ∧
      Fees.readEntry entries Fees.sellEntry = .ok fees.sell :=
  Fees.ofEntries_eq_ok_iff.mp read

/-- Whatever is done with a client, its first setup alone decides what it is from then on. -/
theorem run_settled (fresh : client.readiness = .uninitialized) (actions : List Action) :
    client.Settled actions := by
  refine ⟨run_of_no_setUp fresh, ?ready, ?failed, ?again, ?silent, ?fees⟩
  case ready =>
    intro settings nonces first done
    obtain ⟨session, asked, now, ran⟩ := run_of_setUp_ok fresh first done
    exact ⟨session, asked, (setUpFor_of_sessionFor asked).1, now, ran⟩
  case failed =>
    intro settings nonces failure first failed
    exact run_of_setUp_error fresh first failed
  case again =>
    intro attempted
    obtain ⟨⟨settings, nonces⟩, first⟩ := Option.ne_none_iff_exists'.mp attempted
    refine ⟨_, fun settings nonces => setUp_of_attempted ?_ settings nonces⟩
    exact canSetUp_run fresh first
  case silent =>
    intro notReady transport call
    exact (answer_of_not_ready notReady transport call).1
  case fees =>
    intro settings nonces first done
    obtain ⟨session, asked, now, ran⟩ := run_of_setUp_ok fresh first done
    obtain ⟨buy, sell⟩ := readEntry_of_ofEntries (setUpFor_of_sessionFor asked).1.fees
    refine ⟨_, _, buy, sell, fun transport market => ?_⟩
    rw [ran]
    exact ⟨rfl, rfl⟩

def feelessSettings : VenueSettings := { plainSettings with entries := ∅ }

/-- A client whose first settings have no fees is never ready, and one whose first settings have them
keeps them, whatever settings follow. -/
theorem run_settled_feeless :
    (new true).readiness = .uninitialized ∧
      ((new true).run [.answer (fun _ => .error (.network "offline")) .balances,
        .setUp feelessSettings ⟨7⟩, .setUp plainSettings ⟨1000⟩]).readiness =
          .failed "Configuration error: Missing 'buy-fee' in other config" ∧
      (((new true).run [.setUp plainSettings ⟨1000⟩, .setUp feelessSettings ⟨7⟩]).answer
        (fun _ => .error (.network "offline")) (.buyFee "BTC-LTC")).outcome =
          .ok (.fee ⟨false, 250000, 8, by decide, by decide⟩) := by
  refine ⟨rfl, ?_, ?_⟩
  · have failed : ((new true).setUp feelessSettings ⟨7⟩).1 =
        .error (.configuration "Missing 'buy-fee' in other config") := by decide +kernel
    have settled : (new true).Settled [.answer (fun _ => .error (.network "offline")) .balances,
        .setUp feelessSettings ⟨7⟩, .setUp plainSettings ⟨1000⟩] := run_settled rfl _
    rw [settled.failed feelessSettings ⟨7⟩ _ rfl failed]
    rfl
  · have done : ((new true).setUp plainSettings ⟨1000⟩).1 = .ok () := by decide +kernel
    have settled : (new true).Settled
        [.setUp plainSettings ⟨1000⟩, .setUp feelessSettings ⟨7⟩] := run_settled rfl _
    obtain ⟨buy, sell, read, -, same⟩ := settled.fees plainSettings ⟨1000⟩ rfl done
    have quarter : Fees.readEntry plainSettings.entries Fees.buyEntry =
        .ok ⟨false, 250000, 8, by decide, by decide⟩ := by decide +kernel
    rw [(same _ _).1, Except.ok.inj (read.symm.trans quarter)]

end Client

end Bittrex

end VenueGateway
