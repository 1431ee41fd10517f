import VenueGateway.Proofs.Channel.Exchange
import VenueGateway.Proofs.Envelope.Agreement

/-! # Calls and acknowledgements

A call wants the result of a reply, an acknowledgement only its acceptance. Apart from that they are
the same exchange: they send the same request, and what turns an acknowledgement away turns a call
away as well, in the same words and before the result is looked at. A call that fails although its
reply is acknowledged fails by the result, or by what the domain makes of it.
-/

namespace VenueGateway

open EnvelopeNames

variable {α β : Type}

/-- The member that is read as the result. The message is taken out first, so it is never read as a
result as well. -/
def EnvelopeNames.resultIn (names : EnvelopeNames) (members : List (String × Json)) : Option Json :=
  Entries.find? names.result (Entries.erase names.message members)

namespace ReplyRules

/-- Why an accepted reply gives no value: there is no result, it does not have the shape, or the
domain refuses it. -/
inductive LateFault (rules : ReplyRules) (shape : Json.Shape α) (understand : α → Except Abort β)
    (response : Response) : Abort → Prop
  | missing {members : List (String × Json)} (object : ObjectIn response.payload members)
    (absent : rules.names.resultIn members = none ∨ rules.names.resultIn members = some .null) :
    LateFault rules shape understand response
      (.failure (rules.undecodable response (.missingResult rules.names.result)))
  | misshapen {members : List (String × Json)} {result : Json} {fault : Json.ShapeError}
    (object : ObjectIn response.payload members)
    (found : rules.names.resultIn members = some result) (notNull : result ≠ .null)
    (unread : shape result = .error fault) :
    LateFault rules shape understand response
      (.failure (rules.undecodable response (.invalidResult rules.names.result fault)))
  | refused {members : List (String × Json)} {result : Json} {value : α} {abort : Abort}
    (object : ObjectIn response.payload members)
    (found : rules.names.resultIn members = some result) (notNull : result ≠ .null)
    (read : shape result = .ok value) (refusal : understand value = .error abort) :
    LateFault rules shape understand response (rules.attach response abort)

variable {rules : ReplyRules} {response : Response} {shape : Json.Shape α}

/-- Whether an envelope is accepted does not depend on its result. -/
theorem requireAccepted_congr {envelope : Envelope α} {other : Envelope β}
    (success : envelope.success = other.success) (message : envelope.message = other.message) :
    rules.requireAccepted envelope response = rules.requireAccepted other response := by
  rw [requireAccepted, requireAccepted, success, message]

/-- A reply whose flag is turned away is turned away whatever is expected of its result. -/
theorem openAccepted_decode_of_flag {failure : Failure}
    (turned : rules.openAccepted (Envelope.decodeFlag rules.names) response = .error failure)
    (shape : Json.Shape α) :
    rules.openAccepted (Envelope.decode rules.names shape) response = .error failure := by
  cases served : response.isOk with
  | false =>
    rw [openAccepted_of_not_served served] at turned ⊢
    exact error_congr.mp turned
  | true =>
    cases opens : Envelope.openBody rules.names response.payload with
    | error cause =>
      rw [openAccepted_of_undecodable served (Envelope.decodeFlag_eq_error_iff.mpr opens)] at turned
      rw [openAccepted_of_undecodable served (Envelope.decode_eq_error_iff.mpr (.inl opens))]
      exact error_congr.mp turned
    | ok opened =>
      rw [openAccepted_of_decoded served (Envelope.decodeFlag_of_opened opens), map_eq_error_iff]
        at turned
      cases accepted : opened.success with
      | true =>
        rw [requireAccepted_of_accepted accepted] at turned
        cases turned
      | false =>
        rw [openAccepted_of_decoded served (Envelope.decode_of_opened_rejected opens accepted),
          map_eq_error_iff, ← turned]
        exact requireAccepted_congr accepted.symm rfl

theorem readResult_of_turnedAway {abort : Abort} (turned : rules.readFlag response = .error abort)
    (shape : Json.Shape α) (understand : α → Except Abort β) :
    rules.readResult shape understand response = .error abort := by
  rw [readFlag] at turned
  split at turned
  · rename_i failure refused
    rw [readResult, openAccepted_decode_of_flag refused]
    exact error_congr.mp turned
  · cases turned

/-- A reply that is acknowledged is an object whose result alone decides what becomes of it. -/
theorem readResult_of_acknowledged (acknowledged : rules.readFlag response = .ok ())
    (shape : Json.Shape α) (understand : α → Except Abort β) :
    ∃ members, ObjectIn response.payload members ∧
      rules.readResult shape understand response =
        match Envelope.resultOf rules.names shape (Entries.erase rules.names.message members) with
        | .error cause => .error (.failure (rules.undecodable response cause))
        | .ok value => (understand value).mapError (rules.attach response) := by
  rw [readFlag] at acknowledged
  split at acknowledged
  · cases acknowledged
  · rename_i flag opened
    obtain ⟨served, decodedFlag, accepted⟩ := openAccepted_eq_ok opened
    obtain ⟨opened, opens, success, -, -⟩ := Envelope.decodeFlag_eq_ok decodedFlag
    have decoded : Envelope.decode rules.names shape response.payload = _ :=
      Envelope.decode_of_opened_accepted opens (success.symm.trans accepted)
    obtain ⟨members, _, object, -, rfl⟩ := Envelope.openBody_eq_ok_iff.mp opens
    refine ⟨members, object, ?_⟩
    cases result : Envelope.resultOf rules.names shape
        (Entries.erase rules.names.message members) with
    | error cause =>
      rw [result] at decoded
      rw [readResult, openAccepted_of_undecodable served decoded]
    | ok value =>
      rw [result] at decoded
      rw [readResult, openAccepted_of_decoded served decoded, requireAccepted_of_accepted rfl]
      rfl

theorem lateFault_of_acknowledged (acknowledged : rules.readFlag response = .ok ())
    {understand : α → Except Abort β} {abort : Abort}
    (failed : rules.readResult shape understand response = .error abort) :
    rules.LateFault shape understand response abort := by
  obtain ⟨members, object, read⟩ := readResult_of_acknowledged acknowledged shape understand
  rw [read] at failed
  cases result : Envelope.resultOf rules.names shape
      (Entries.erase rules.names.message members) with
  | error cause =>
    rw [result] at failed
    cases failed
    rcases Envelope.resultOf_eq_error_iff.mp result with
      ⟨absent, rfl⟩ | ⟨found, fault, member, notNull, unread, rfl⟩
    · exact .missing object absent
    · exact .misshapen object member notNull unread
  | ok value =>
    rw [result] at failed
    dsimp only at failed
    obtain ⟨found, member, notNull, shaped⟩ := Envelope.resultOf_eq_ok_iff.mp result
    cases understood : understand value with
    | error refusal =>
      rw [understood] at failed
      cases failed
      exact .refused object member notNull shaped understood
    | ok answer =>
      rw [understood] at failed
      cases failed

end ReplyRules

namespace Channel

/-- How a call goes together with the acknowledgement of the same request. -/
structure CallFollows (channel : Channel) (transport : Transport) (endpoint : Endpoint)
    (query : Query) (context : String) (shape : Json.Shape α) (understand : α → Except Abort β) :
    Prop where
  sent : (channel.call transport endpoint query context shape understand).sent =
    (channel.acknowledge transport endpoint query context).sent
  after : (channel.call transport endpoint query context shape understand).after =
    (channel.acknowledge transport endpoint query context).after
  /-- The call fails alike whatever the domain would have made of a result. -/
  turnedAway : ∀ abort,
    (channel.acknowledge transport endpoint query context).outcome = .error abort →
    ∀ other : α → Except Abort β,
      (channel.call transport endpoint query context shape other).outcome = .error abort
  acknowledged : ∀ answer,
    (channel.call transport endpoint query context shape understand).outcome = .ok answer →
    (channel.acknowledge transport endpoint query context).outcome = .ok ()
  late : (channel.acknowledge transport endpoint query context).outcome = .ok () → ∀ abort,
    (channel.call transport endpoint query context shape understand).outcome = .error abort →
    ∃ request response,
      (channel.call transport endpoint query context shape understand).sent = some request ∧
      transport request = .ok response ∧
      (channel.rules context).LateFault shape understand response abort

variable {channel : Channel} {transport : Transport} {endpoint : Endpoint} {query : Query}
  {context : String} {abort : Abort}

theorem call_of_turnedAway
    (failed : (channel.acknowledge transport endpoint query context).outcome = .error abort)
    (shape : Json.Shape α) (understand : α → Except Abort β) :
    (channel.call transport endpoint query context shape understand).outcome = .error abort := by
  rcases channel.exchange_outcome_cases transport endpoint query with
    ⟨failure, fails⟩ | ⟨_, response, -, -, -, reads⟩
  · rw [acknowledge, fails] at failed
    rw [call, fails]
    exact error_congr.mp failed
  · rw [acknowledge, reads] at failed
    rw [call, reads]
    exact ReplyRules.readResult_of_turnedAway failed shape understand

theorem lateFault_of_call {shape : Json.Shape α} {understand : α → Except Abort β}
    (acknowledged : (channel.acknowledge transport endpoint query context).outcome = .ok ())
    (failed : (channel.call transport endpoint query context shape understand).outcome =
      .error abort) :
    ∃ request response,
      (channel.call transport endpoint query context shape understand).sent = some request ∧
      transport request = .ok response ∧
      (channel.rules context).LateFault shape understand response abort := by
  rcases channel.exchange_outcome_cases transport endpoint query with
    ⟨failure, fails⟩ | ⟨request, response, built, reached, -, reads⟩
  · rw [acknowledge, fails] at acknowledged
    cases acknowledged
  · rw [acknowledge, reads] at acknowledged
    rw [call, reads] at failed
    refine ⟨request, response, ?_, reached, ?_⟩
    · rw [call, exchange_sent, built]
    · exact ReplyRules.lateFault_of_acknowledged acknowledged failed

/-- A call and an acknowledgement part only over the result of an accepted reply. -/
theorem call_follows (channel : Channel) (transport : Transport) (endpoint : Endpoint)
    (query : Query) (context : String) (shape : Json.Shape α) (understand : α → Except Abort β) :
    channel.CallFollows transport endpoint query context shape understand where
  sent := by rw [call, acknowledge, exchange_sent, exchange_sent]
  after := by rw [call, acknowledge, exchange_after, exchange_after]
  turnedAway := by
    intro abort failed other
    exact call_of_turnedAway failed shape other
  acknowledged := by
    intro answer answered
    cases outcome : (channel.acknowledge transport endpoint query context).outcome with
    | error abort =>
      rw [call_of_turnedAway outcome shape understand] at answered
      cases answered
    | ok _ => rfl
  late := by
    intro acknowledged abort failed
    exact lateFault_of_call acknowledged failed

end Channel

end VenueGateway
