import VenueGateway.Proofs.Channel.Exchange
import VenueGateway.Proofs.Channel.Reply

/-! # Settings that name more

Settings are asked at three places of an exchange: when the transport fails, when a response comes
in, and when an envelope is rejected. Settings that name more statuses and fragments can turn an
outcome into a network failure at each of them, and change nothing else. Only what is named counts:
neither the order nor the repetition of names, nor an empty fragment, makes a difference.
-/

namespace VenueGateway

variable {α β : Type}

/-- Settings whose statuses and fragments are all named by other settings too. An empty fragment
does not count. -/
structure NetworkSettings.Within (strict lenient : NetworkSettings) : Prop where
  statuses : ∀ status ∈ strict.transientStatuses, status ∈ lenient.transientStatuses
  fragments : ∀ fragment ∈ strict.transientFragments, fragment ≠ "" →
    fragment ∈ lenient.transientFragments

/-- An outcome that is a network failure, so that another attempt may succeed. -/
def FailsByNetwork (outcome : Except Abort α) : Prop :=
  ∃ detail, outcome = .error (.failure (.network detail))

/-- What becomes of an outcome when settings that name more take the place of others. Settings that
name the same make no difference at all. -/
structure SoftenedUnder (narrow wide : NetworkSettings)
    (outcome : NetworkSettings → Except Abort α) : Prop where
  network : FailsByNetwork (outcome narrow) → FailsByNetwork (outcome wide)
  unchanged : ¬ FailsByNetwork (outcome wide) → outcome narrow = outcome wide
  same : wide.Within narrow → outcome narrow = outcome wide

namespace Tolerance

/-- What one tolerance covers, the other covers too. -/
structure Below (strict lenient : Tolerance) : Prop where
  status : ∀ status, strict.coversStatus status = true → lenient.coversStatus status = true
  text : ∀ text, strict.coversText text = true → lenient.coversText text = true

theorem below_of_within {strict lenient : NetworkSettings} (within : strict.Within lenient) :
    (ofSettings strict).Below (ofSettings lenient) := by
  constructor
  · intro status covered
    rw [coversStatus_ofSettings] at covered ⊢
    exact within.statuses status covered
  · intro text covered
    rw [coversText_ofSettings] at covered ⊢
    obtain ⟨fragment, named, nonempty, found⟩ := covered
    exact ⟨fragment, within.fragments fragment named nonempty, nonempty, found⟩

variable {strict lenient : Tolerance}

theorem Below.coversStatus_eq (below : strict.Below lenient) (above : lenient.Below strict)
    (status : Fin 65536) : lenient.coversStatus status = strict.coversStatus status :=
  Bool.eq_iff_iff.mpr ⟨above.status status, below.status status⟩

theorem Below.coversText_eq (below : strict.Below lenient) (above : lenient.Below strict)
    (text : String) : lenient.coversText text = strict.coversText text :=
  Bool.eq_iff_iff.mpr ⟨above.text text, below.text text⟩

theorem Below.refuses (below : strict.Below lenient) {response : Response}
    (refused : strict.Refuses response) : lenient.Refuses response :=
  refused.imp (below.status _) (And.imp_right (below.text _))

/-! Each of the three places gives the same under both tolerances, or a network failure under the
lenient one, and then the lenient one covers something that the strict one does not. -/

theorem checkResponse_below (below : strict.Below lenient) (response : Response) :
    lenient.checkResponse response = strict.checkResponse response ∨
      ¬ lenient.Below strict ∧
        ∃ detail, lenient.checkResponse response = .error (.network detail) := by
  rcases lenient.checkResponse_cases response with ⟨-, detail, checked⟩ | ⟨passed, checked⟩
  · by_cases above : lenient.Below strict
    · left
      rw [checkResponse, checkResponse, below.coversStatus_eq above, below.coversText_eq above]
    · exact .inr ⟨above, detail, checked⟩
  · left
    rcases strict.checkResponse_cases response with ⟨refused, -⟩ | ⟨-, alsoChecked⟩
    · exact absurd (below.refuses refused) passed
    · rw [checked, alsoChecked]

theorem checkFailure_below (below : strict.Below lenient) (failure : Failure) :
    lenient.checkFailure failure = strict.checkFailure failure ∨
      ¬ lenient.Below strict ∧ ∃ detail, lenient.checkFailure failure = .network detail := by
  cases failure with
  | tradingApi detail response =>
    by_cases covered : lenient.coversText detail = true
    · by_cases above : lenient.Below strict
      · left
        rw [checkFailure, checkFailure, below.coversText_eq above]
      · exact .inr ⟨above, detail, checkFailure_of_covered covered response⟩
    · left
      have uncovered : ¬ strict.coversText detail = true := fun h => covered (below.text detail h)
      rw [checkFailure, checkFailure, if_neg covered, if_neg uncovered]
  | configuration | network | invalidArgument => exact .inl rfl

/-- An outcome is the strict one, or a network failure in its place, for something that only the
lenient tolerance covers. -/
def Softened (strict lenient : Tolerance) (before after : Except Abort α) : Prop :=
  after = before ∨ ¬ lenient.Below strict ∧ FailsByNetwork after

end Tolerance

open Tolerance

variable {strict lenient : Tolerance}

/-! ## Replies -/

namespace ReplyRules

def tolerating (rules : ReplyRules) (tolerance : Tolerance) : ReplyRules :=
  { rules with tolerance := tolerance }

variable {rules : ReplyRules}

theorem tolerating_names (rules : ReplyRules) (tolerance : Tolerance) :
    (rules.tolerating tolerance).names = rules.names := rfl

theorem requireAccepted_below (below : strict.Below lenient) (envelope : Envelope α)
    (response : Response) :
    (rules.tolerating lenient).requireAccepted envelope response =
        (rules.tolerating strict).requireAccepted envelope response ∨
      ¬ lenient.Below strict ∧ ∃ detail,
        (rules.tolerating lenient).requireAccepted envelope response =
          .error (.network detail) := by
  cases accepted : envelope.success with
  | true =>
    left
    rw [requireAccepted_of_accepted accepted, requireAccepted_of_accepted accepted]
  | false =>
    rcases (rules.tolerating lenient).requireAccepted_of_rejected response accepted with
      ⟨message, -, -, refused⟩ | ⟨uncovered, refused⟩
    · by_cases above : lenient.Below strict
      · left
        simp only [requireAccepted, tolerating, below.coversText_eq above]
        rfl
      · exact .inr ⟨above, _, refused⟩
    · left
      rcases (rules.tolerating strict).requireAccepted_of_rejected response accepted with
        ⟨message, told, covered, -⟩ | ⟨-, alsoRefused⟩
      · exact absurd (below.text message covered) (uncovered message told)
      · rw [refused, alsoRefused]
        rfl

theorem openAccepted_below (below : strict.Below lenient)
    (decode : String → Except Envelope.DecodeError (Envelope α)) (response : Response) :
    (rules.tolerating lenient).openAccepted decode response =
        (rules.tolerating strict).openAccepted decode response ∨
      ¬ lenient.Below strict ∧ ∃ detail,
        (rules.tolerating lenient).openAccepted decode response = .error (.network detail) := by
  cases served : response.isOk with
  | false =>
    left
    rw [openAccepted_of_not_served served, openAccepted_of_not_served served]
    rfl
  | true =>
    cases decoded : decode response.payload with
    | error cause =>
      left
      rw [openAccepted_of_undecodable served decoded, openAccepted_of_undecodable served decoded]
      rfl
    | ok envelope =>
      rw [openAccepted_of_decoded served decoded, openAccepted_of_decoded served decoded]
      rcases rules.requireAccepted_below below envelope response with same | ⟨more, detail, refused⟩
      · exact .inl (by rw [same])
      · exact .inr ⟨more, detail, by rw [refused]; rfl⟩

theorem readResult_below (below : strict.Below lenient) (shape : Json.Shape α)
    (understand : α → Except Abort β) (response : Response) :
    Softened strict lenient ((rules.tolerating strict).readResult shape understand response)
      ((rules.tolerating lenient).readResult shape understand response) := by
  rcases rules.openAccepted_below below (Envelope.decode rules.names shape) response with
    same | ⟨more, detail, refused⟩
  · left
    rw [readResult, readResult, tolerating_names, tolerating_names, same]
    rfl
  · right
    rw [readResult, tolerating_names, refused]
    exact ⟨more, detail, rfl⟩

theorem readFlag_below (below : strict.Below lenient) (response : Response) :
    Softened strict lenient ((rules.tolerating strict).readFlag response)
      ((rules.tolerating lenient).readFlag response) := by
  rcases rules.openAccepted_below below (Envelope.decodeFlag rules.names) response with
    same | ⟨more, detail, refused⟩
  · left
    rw [readFlag, readFlag, tolerating_names, tolerating_names, same]
  · right
    rw [readFlag, tolerating_names, refused]
    exact ⟨more, detail, rfl⟩

end ReplyRules

/-! ## Exchanges -/

namespace Channel

def tolerating (channel : Channel) (tolerance : Tolerance) : Channel :=
  { channel with tolerance := tolerance }

variable {channel : Channel} {transport : Transport} {endpoint : Endpoint} {query : Query}

theorem tolerating_tolerance (channel : Channel) (tolerance : Tolerance) :
    (channel.tolerating tolerance).tolerance = tolerance := rfl

theorem receive_below (below : strict.Below lenient) (reached : Except Failure Response) :
    receive lenient reached = receive strict reached ∨
      ¬ lenient.Below strict ∧ ∃ detail, receive lenient reached = .error (.network detail) := by
  cases reached with
  | ok response => exact checkResponse_below below response
  | error failure =>
    rw [receive, receive]
    rcases checkFailure_below below failure with same | ⟨more, detail, softened⟩
    · exact .inl (by rw [same])
    · exact .inr ⟨more, detail, by rw [softened]⟩

theorem exchange_below (below : strict.Below lenient) {before after : Response → Except Abort α}
    (reads : ∀ response, Softened strict lenient (before response) (after response)) :
    Softened strict lenient
      ((channel.tolerating strict).exchange transport endpoint query before).outcome
      ((channel.tolerating lenient).exchange transport endpoint query after).outcome := by
  have requests : ∀ tolerance,
      (channel.tolerating tolerance).request? endpoint query = channel.request? endpoint query :=
    fun _ => rfl
  cases built : channel.request? endpoint query with
  | none =>
    left
    rw [exchange_outcome_of_none _ _ ((requests lenient).trans built),
      exchange_outcome_of_none _ _ ((requests strict).trans built)]
  | some request =>
    rw [exchange_outcome_of_some _ _ ((requests lenient).trans built),
      exchange_outcome_of_some _ _ ((requests strict).trans built), tolerating_tolerance,
      tolerating_tolerance]
    rcases receive_below below (transport request) with same | ⟨more, detail, softened⟩
    · rw [same]
      cases receive strict (transport request) with
      | error failure => exact .inl rfl
      | ok response => exact reads response
    · rw [softened]
      exact .inr ⟨more, detail, rfl⟩

theorem call_below (below : strict.Below lenient) (context : String) (shape : Json.Shape α)
    (understand : α → Except Abort β) :
    Softened strict lenient
      ((channel.tolerating strict).call transport endpoint query context shape understand).outcome
      ((channel.tolerating lenient).call transport endpoint query context shape
        understand).outcome :=
  exchange_below below fun response =>
    (channel.rules context).readResult_below below shape understand response

theorem acknowledge_below (below : strict.Below lenient) (context : String) :
    Softened strict lenient
      ((channel.tolerating strict).acknowledge transport endpoint query context).outcome
      ((channel.tolerating lenient).acknowledge transport endpoint query context).outcome :=
  exchange_below below fun response => (channel.rules context).readFlag_below below response

theorem softenedUnder_of {narrow wide : NetworkSettings}
    {outcome : NetworkSettings → Except Abort α}
    (softened : Softened (ofSettings narrow) (ofSettings wide) (outcome narrow) (outcome wide)) :
    SoftenedUnder narrow wide outcome := by
  rcases softened with same | ⟨more, network⟩
  · exact ⟨fun network => same ▸ network, fun _ => same.symm, fun _ => same.symm⟩
  · exact ⟨fun _ => network, fun other => absurd network other,
      fun within => absurd (below_of_within within) more⟩

/-- Under settings that name more, calls and acknowledgements end as before or become network
failures. Under settings that name the same, in whatever order and however often, they end alike. -/
theorem outcomes_soften {narrow wide : NetworkSettings} (within : narrow.Within wide)
    (channel : Channel) (transport : Transport) (endpoint : Endpoint) (query : Query)
    (context : String) (shape : Json.Shape α) (understand : α → Except Abort β) :
    SoftenedUnder narrow wide (fun network =>
        ((channel.tolerating (.ofSettings network)).call transport endpoint query context shape
          understand).outcome) ∧
      SoftenedUnder narrow wide (fun network =>
        ((channel.tolerating (.ofSettings network)).acknowledge transport endpoint query
          context).outcome) := by
  have below : (ofSettings narrow).Below (ofSettings wide) := below_of_within within
  exact ⟨softenedUnder_of (call_below below context shape understand),
    softenedUnder_of (acknowledge_below below context)⟩

/-- Settings that excuse a throttled key, written once and with an empty fragment. -/
def throttledOnce : NetworkSettings :=
  { NetworkSettings.standard with transientFragments := ["", "THROTTLED"] }

/-- Settings that excuse a throttled key and an unavailable venue. -/
def throttledOrDown : NetworkSettings :=
  { NetworkSettings.standard with
    transientStatuses := [⟨503, by decide⟩]
    transientFragments := ["THROTTLED", "Connection reset", "THROTTLED"] }

/-- A rejection that is excused by a fragment stays excused when more is. -/
theorem outcomes_soften_throttled :
    throttledOnce.Within throttledOrDown ∧
      FailsByNetwork ((((sample ⟨7⟩ .standard).tolerating (.ofSettings throttledOrDown)).acknowledge
        (fun _ => .ok (.served "\x7b\"success\":false,\"message\":\"APIKEY_THROTTLED\"\x7d"))
        (.signed "market/cancel") ∅ "cancel: ").outcome) := by
  have within : throttledOnce.Within throttledOrDown := by
    refine ⟨nofun, ?_⟩
    intro fragment named nonempty
    rcases List.mem_pair.mp named with rfl | rfl
    · exact absurd rfl nonempty
    · exact List.mem_cons_self
  obtain ⟨-, acknowledged⟩ := outcomes_soften within (sample ⟨7⟩ .standard)
    (fun _ => .ok (.served "\x7b\"success\":false,\"message\":\"APIKEY_THROTTLED\"\x7d"))
    (.signed "market/cancel") ∅ "cancel: " .bool (fun _ => .ok ())
  exact ⟨within, acknowledged.network ⟨"cancel: APIKEY_THROTTLED", by decide +kernel⟩⟩

end Channel

end VenueGateway
