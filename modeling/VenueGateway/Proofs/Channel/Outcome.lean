import VenueGateway.Proofs.Channel.Exchange
import VenueGateway.Proofs.Channel.Reply
import VenueGateway.Proofs.Tolerance

/-! # How the transport decides a call

The outcome of a call follows from what the transport makes of the one request that is sent, from
the network settings and from the body, and from nothing else. `CallSettled` lists all cases: which
failures of the transport are softened, for which replies there is a value, which replies are passing
trouble, and that every other reply is a failure of the venue that keeps the response.
-/

namespace VenueGateway

variable {α β : Type}

/-- A reply that stands for passing trouble: by a status that the settings name, outside of the 200s
by a fragment in its body, or as a rejection by a fragment in its message. -/
inductive NetworkSettings.Passing (network : NetworkSettings) (names : EnvelopeNames)
    (response : Response) : Prop
  | status (named : response.status ∈ network.transientStatuses)
  | body (outside : response.status.val < 200 ∨ 300 ≤ response.status.val)
      (found : network.FragmentIn response.payload)
  | rejection (message : String) (served : response.status.val = 200)
      (rejects : names.Rejects response.payload message) (found : network.FragmentIn message)

/-- A reply that delivers a value to the domain, with a status that the settings do not name. -/
def NetworkSettings.Delivers (network : NetworkSettings) (names : EnvelopeNames)
    (shape : Json.Shape α) (response : Response) (value : α) : Prop :=
  response.status ∉ network.transientStatuses ∧ names.Delivers shape response value

/-- The outcome of a call, by what the transport reached. -/
structure CallSettled (network : NetworkSettings) (names : EnvelopeNames) (context : String)
    (shape : Json.Shape α) (understand : α → Except Abort β) (reached : Except Failure Response)
    (outcome : Except Abort β) : Prop where
  softened : ∀ detail response, reached = .error (.tradingApi detail response) →
    network.FragmentIn detail → outcome = .error (.failure (.network detail))
  kept : ∀ failure, reached = .error failure →
    (∀ detail response, failure = .tradingApi detail response → ¬ network.FragmentIn detail) →
    outcome = .error (.failure failure)
  ok_iff : ∀ response, reached = .ok response → ∀ answer, outcome = .ok answer ↔
    ∃ value, network.Delivers names shape response value ∧ understand value = .ok answer
  network_iff : ∀ response, reached = .ok response →
    ((∃ detail, outcome = .error (.failure (.network detail))) ↔
      network.Passing names response ∨ ∃ value detail, network.Delivers names shape response value ∧
        understand value = .error (.failure (.network detail)))
  completed : ∀ response, reached = .ok response → ∀ value detail,
    network.Delivers names shape response value →
    understand value = .error (.failure (.tradingApi detail none)) →
    outcome = .error (.failure (.tradingApi (context ++ detail) (some response)))
  passedOn : ∀ response, reached = .ok response → ∀ value abort,
    network.Delivers names shape response value → understand value = .error abort →
    (∀ detail, abort ≠ .failure (.tradingApi detail none)) → outcome = .error abort
  otherwise : ∀ response, reached = .ok response → ¬ network.Passing names response →
    (∀ value, ¬ network.Delivers names shape response value) →
    ∃ detail, outcome = .error (.failure (.tradingApi (context ++ detail) (some response)))

theorem Response.isSuccess_eq_false_iff (response : Response) :
    response.isSuccess = false ↔ response.status.val < 200 ∨ 300 ≤ response.status.val := by
  rw [Response.isSuccess, Bool.and_eq_false_iff, decide_eq_false_iff_not, decide_eq_false_iff_not]
  omega

theorem NetworkSettings.Delivers.not_passing {network : NetworkSettings} {names : EnvelopeNames}
    {shape : Json.Shape α} {response : Response} {value : α}
    (delivers : network.Delivers names shape response value) : ¬ network.Passing names response := by
  obtain ⟨unnamed, status, result, accepts, -⟩ := delivers
  rintro (named | ⟨outside, -⟩ | ⟨message, -, rejects, -⟩)
  · exact unnamed named
  · omega
  · exact accepts.not_rejects rejects

namespace Channel

variable {channel : Channel} {network : NetworkSettings} {transport : Transport}
  {endpoint : Endpoint} {query : Query} {request : Request} {response : Response}

/-- The tolerance refuses, and the rules excuse, exactly the replies that are passing trouble. -/
private theorem passing_iff (configured : channel.tolerance = .ofSettings network)
    (context : String) (response : Response) :
    network.Passing channel.profile.envelope response ↔
      channel.tolerance.Refuses response ∨
        ∃ message, (channel.rules context).Excuses response message := by
  simp only [Tolerance.Refuses, ReplyRules.Excuses, rules, configured,
    Tolerance.coversStatus_ofSettings, Tolerance.coversText_ofSettings,
    Response.isSuccess_eq_false_iff]
  constructor
  · rintro (named | ⟨outside, found⟩ | ⟨message, served, rejects, found⟩)
    · exact .inl (.inl named)
    · exact .inl (.inr ⟨outside, found⟩)
    · exact .inr ⟨message, served, rejects, found⟩
  · rintro ((named | ⟨outside, found⟩) | ⟨message, served, rejects, found⟩)
    · exact .status named
    · exact .body outside found
    · exact .rejection message served rejects found

/-- What a reply that the tolerance lets pass delivers, it delivers under the settings. -/
theorem delivers_iff (configured : channel.tolerance = .ofSettings network) {names : EnvelopeNames}
    {shape : Json.Shape α} {value : α} :
    network.Delivers names shape response value ↔
      ¬ channel.tolerance.Refuses response ∧ names.Delivers shape response value := by
  rw [NetworkSettings.Delivers, Tolerance.Refuses, Response.isSuccess_eq_false_iff, configured,
    Tolerance.coversStatus_ofSettings]
  constructor
  · rintro ⟨unnamed, delivers⟩
    have served := delivers.1
    exact ⟨fun refused => refused.elim unnamed fun outside => by omega, delivers⟩
  · rintro ⟨passed, delivers⟩
    exact ⟨fun named => passed (.inl named), delivers⟩

/-- The three ways of a call whose request the transport answers. -/
theorem call_cases (configured : channel.tolerance = .ofSettings network)
    (distinct : channel.profile.envelope.message ≠ channel.profile.envelope.result)
    (context : String) (shape : Json.Shape α) (understand : α → Except Abort β)
    (built : channel.request? endpoint query = some request)
    (reached : transport request = .ok response) :
    (network.Passing channel.profile.envelope response ∧ ∃ detail,
      (channel.call transport endpoint query context shape understand).outcome =
        .error (.failure (.network detail))) ∨
    (∃ value, network.Delivers channel.profile.envelope shape response value ∧
      (channel.call transport endpoint query context shape understand).outcome =
        (understand value).mapError ((channel.rules context).attach response)) ∨
    (¬ network.Passing channel.profile.envelope response ∧
      (∀ value, ¬ network.Delivers channel.profile.envelope shape response value) ∧ ∃ detail,
      (channel.call transport endpoint query context shape understand).outcome =
        .error (.failure (.tradingApi (context ++ detail) (some response)))) := by
  rw [call, exchange_outcome_of_some _ _ built, reached, receive, passing_iff configured context]
  rcases channel.tolerance.checkResponse_cases response with
    ⟨refused, detail, checked⟩ | ⟨passed, checked⟩
  · exact .inl ⟨.inl refused, detail, by rw [checked]⟩
  · have same : ∀ value, network.Delivers channel.profile.envelope shape response value ↔
        channel.profile.envelope.Delivers shape response value :=
      fun value => (delivers_iff configured).trans (and_iff_right passed)
    simp only [checked, same]
    rcases (channel.rules context).readResult_cases distinct shape understand
      response with ⟨value, delivers, read⟩ | ⟨message, excuses, read⟩ | ⟨noValue, noExcuse, read⟩
    · exact .inr (.inl ⟨value, delivers, read⟩)
    · exact .inl ⟨.inr ⟨message, excuses⟩, _, read⟩
    · exact .inr (.inr ⟨fun h => h.elim passed fun excuse => excuse.elim noExcuse, noValue, read⟩)

private theorem settled_of_failure (configured : channel.tolerance = .ofSettings network)
    (names : EnvelopeNames) (context : String) (shape : Json.Shape α)
    (understand : α → Except Abort β) (failure : Failure) :
    CallSettled network names context shape understand (.error failure)
      (.error (.failure (channel.tolerance.checkFailure failure))) := by
  refine ⟨?softened, ?kept, nofun, nofun, nofun, nofun, nofun⟩
  case softened =>
    rintro detail response ⟨⟩ found
    have covered : channel.tolerance.coversText detail = true := by
      rw [configured]
      exact (Tolerance.coversText_ofSettings network detail).mpr found
    rw [Tolerance.checkFailure_of_covered covered]
  case kept =>
    rintro _ ⟨⟩ absent
    have uncovered : ∀ detail response, failure = .tradingApi detail response →
        channel.tolerance.coversText detail ≠ true := by
      intro detail response same covered
      rw [configured] at covered
      exact absent detail response same ((Tolerance.coversText_ofSettings network detail).mp covered)
    rw [Tolerance.checkFailure_of_uncovered uncovered]

private theorem settled_of_passing {names : EnvelopeNames} (context : String)
    (shape : Json.Shape α) (understand : α → Except Abort β)
    (passing : network.Passing names response) (detail : String) :
    CallSettled network names context shape understand (.ok response)
      (.error (.failure (.network detail))) := by
  refine ⟨nofun, nofun, ?_, ?_, ?_, ?_, ?_⟩
  · rintro _ ⟨⟩ answer
    exact ⟨nofun, fun ⟨value, delivers, _⟩ => absurd passing delivers.not_passing⟩
  · rintro _ ⟨⟩
    exact ⟨fun _ => .inl passing, fun _ => ⟨detail, rfl⟩⟩
  · rintro _ ⟨⟩ value _ delivers
    exact absurd passing delivers.not_passing
  · rintro _ ⟨⟩ value _ delivers
    exact absurd passing delivers.not_passing
  · rintro _ ⟨⟩ notPassing
    exact absurd passing notPassing

private theorem settled_of_delivers (rules : ReplyRules) {shape : Json.Shape α}
    (understand : α → Except Abort β) {value : α}
    (delivers : network.Delivers rules.names shape response value) :
    CallSettled network rules.names rules.context shape understand (.ok response)
      ((understand value).mapError (rules.attach response)) := by
  have only : ∀ other, network.Delivers rules.names shape response other → other = value :=
    fun other h => h.2.unique delivers.2
  refine ⟨nofun, nofun, ?_, ?_, ?_, ?_, ?_⟩
  · rintro _ ⟨⟩ answer
    constructor
    · intro answered
      refine ⟨value, delivers, ?_⟩
      cases understood : understand value with
      | error abort =>
        rw [understood] at answered
        cases answered
      | ok other =>
        rw [understood] at answered
        cases answered
        rfl
    · rintro ⟨other, h, understood⟩
      obtain rfl := only other h
      rw [understood]
      rfl
  · rintro _ ⟨⟩
    constructor
    · rintro ⟨detail, failed⟩
      refine .inr ⟨value, detail, delivers, ?_⟩
      cases understood : understand value with
      | error abort =>
        rw [understood, mapError_error, Except.error.injEq] at failed
        rw [ReplyRules.attach_eq_network_iff.mp failed]
      | ok answer =>
        rw [understood] at failed
        cases failed
    · rintro (passing | ⟨other, detail, h, understood⟩)
      · exact absurd passing delivers.not_passing
      · obtain rfl := only other h
        rw [understood]
        exact ⟨detail, rfl⟩
  · rintro _ ⟨⟩ other detail h understood
    obtain rfl := only other h
    rw [understood]
    rfl
  · rintro _ ⟨⟩ other abort h understood complete
    obtain rfl := only other h
    rw [understood, mapError_error, ReplyRules.attach_of_ne complete]
  · rintro _ ⟨⟩ - none
    exact absurd delivers (none value)

private theorem settled_of_neither {names : EnvelopeNames} {context : String}
    {shape : Json.Shape α} (understand : α → Except Abort β)
    (notPassing : ¬ network.Passing names response)
    (none : ∀ value, ¬ network.Delivers names shape response value) (detail : String) :
    CallSettled network names context shape understand (.ok response)
      (.error (.failure (.tradingApi (context ++ detail) (some response)))) := by
  refine ⟨nofun, nofun, ?_, ?_, ?_, ?_, ?_⟩
  · rintro _ ⟨⟩ answer
    exact ⟨nofun, fun ⟨value, delivers, _⟩ => absurd delivers (none value)⟩
  · rintro _ ⟨⟩
    constructor
    · rintro ⟨_, ⟨⟩⟩
    · rintro (passing | ⟨value, _, delivers, _⟩)
      · exact absurd passing notPassing
      · exact absurd delivers (none value)
  · rintro _ ⟨⟩ value _ delivers
    exact absurd delivers (none value)
  · rintro _ ⟨⟩ value _ delivers
    exact absurd delivers (none value)
  · rintro _ ⟨⟩ - -
    exact ⟨detail, rfl⟩

/-- A call whose nonce can be had sends one request, and what the transport makes of that request
settles its outcome. -/
theorem call_settled (configured : channel.tolerance = .ofSettings network)
    (distinct : channel.profile.envelope.message ≠ channel.profile.envelope.result)
    (available : endpoint.access = .signed → channel.nonces.HasNext) (transport : Transport)
    (query : Query) (context : String) (shape : Json.Shape α) (understand : α → Except Abort β) :
    ∃ request, (channel.call transport endpoint query context shape understand).sent = some request ∧
      CallSettled network channel.profile.envelope context shape understand (transport request)
        (channel.call transport endpoint query context shape understand).outcome := by
  obtain ⟨request, built⟩ : ∃ request, channel.request? endpoint query = some request := by
    apply Option.ne_none_iff_exists'.mp
    intro refused
    obtain ⟨signed, last⟩ := request?_eq_none_iff.mp refused
    exact last (available signed)
  refine ⟨request, by rw [call, exchange_sent, built], ?_⟩
  cases reached : transport request with
  | error failure =>
    rw [call, exchange_outcome_of_some _ _ built, reached]
    exact settled_of_failure configured _ context shape understand failure
  | ok response =>
    rcases call_cases configured distinct context shape understand built reached with
      ⟨passing, detail, outcome⟩ | ⟨value, delivers, outcome⟩ | ⟨notPassing, none, detail, outcome⟩
    · rw [outcome]
      exact settled_of_passing context shape understand passing detail
    · rw [outcome]
      exact settled_of_delivers (channel.rules context) understand delivers
    · rw [outcome]
      exact settled_of_neither understand notPassing none detail

/-- A channel for which a throttled key is passing trouble. -/
def patient : Channel :=
  sample .zero { NetworkSettings.standard with transientFragments := ["APIKEY_THROTTLED"] }

/-- A reply that turns a throttled key away. Its result is not a list. -/
def throttled : Response :=
  .served "\x7b\"success\":false,\"message\":\"APIKEY_THROTTLED\",\"result\":\x7b\x7d\x7d"

theorem rejects_throttled :
    EnvelopeNames.standard.Rejects throttled.payload "APIKEY_THROTTLED" := by
  refine (Envelope.decode_eq_rejected_iff (by decide) .bool (by decide)).mp ?_
  decide +kernel

/-- A rejection is excused by its message although its result has no expected shape. -/
theorem call_settled_throttled :
    patient.profile.envelope.message ≠ patient.profile.envelope.result ∧ patient.nonces.HasNext ∧
      ∃ detail, (patient.call (fun _ => .ok throttled) (.signed "account/getbalances") ∅ "balances: "
        (.list .decimal) (fun amounts => .ok amounts.length)).outcome =
          .error (.failure (.network detail)) := by
  have configured : patient.tolerance =
      .ofSettings { NetworkSettings.standard with transientFragments := ["APIKEY_THROTTLED"] } := rfl
  have distinct : patient.profile.envelope.message ≠ patient.profile.envelope.result := by decide
  have next : patient.nonces.HasNext := by decide
  have available : (Endpoint.signed "account/getbalances").access = .signed → patient.nonces.HasNext :=
    fun _ => next
  obtain ⟨request, -, settled⟩ := call_settled configured distinct available
    (fun _ => .ok throttled) ∅ "balances: " (.list .decimal) (fun amounts => .ok amounts.length)
  refine ⟨distinct, next, (settled.network_iff throttled rfl).mpr (.inl ?_)⟩
  exact .rejection _ rfl rejects_throttled ⟨_, List.mem_singleton.mpr rfl, by decide, "", "", rfl⟩

end Channel

end VenueGateway
