import VenueGateway.Channel.Reply
import VenueGateway.Proofs.Envelope
import VenueGateway.Proofs.Traversal

/-! # What a reply comes to

A reply either delivers a value, which the domain then makes something of, or is a rejection that
the tolerance excuses, or is a failure that keeps the response. No reply is two of these.
-/

namespace VenueGateway

variable {α β : Type}

/-- A served reply. -/
def Response.served (payload : String) : Response := ⟨200, payload⟩

/-- A served reply whose body is an accepted envelope with a result that reads as the value. -/
def EnvelopeNames.Delivers (names : EnvelopeNames) (shape : Json.Shape α) (response : Response)
    (value : α) : Prop :=
  response.status.val = 200 ∧
    ∃ result, names.Accepts response.payload result ∧ shape result = .ok value

theorem EnvelopeNames.Delivers.unique {names : EnvelopeNames} {shape : Json.Shape α}
    {response : Response} {value other : α} (first : names.Delivers shape response value)
    (second : names.Delivers shape response other) : value = other := by
  obtain ⟨-, result, accepts, read⟩ := first
  obtain ⟨-, result', accepts', read'⟩ := second
  obtain rfl := accepts.unique accepts'
  rw [read] at read'
  cases read'
  rfl

/-- Whether a reply delivers a value can be computed by decoding it. -/
theorem EnvelopeNames.delivers_iff_decode {names : EnvelopeNames}
    (distinct : names.message ≠ names.result) {shape : Json.Shape α} {response : Response}
    {value : α} :
    names.Delivers shape response value ↔ response.status.val = 200 ∧
      ∃ message, Envelope.decode names shape response.payload = .ok ⟨true, message, some value⟩ := by
  rw [Delivers, Envelope.decode_eq_accepted_iff distinct]

namespace ReplyRules

variable {rules : ReplyRules} {response : Response}

/-- A served reply whose body is a rejected envelope with a message that the tolerance covers. -/
def Excuses (rules : ReplyRules) (response : Response) (message : String) : Prop :=
  response.status.val = 200 ∧ rules.names.Rejects response.payload message ∧
    rules.tolerance.coversText message = true

theorem isOk_iff : response.isOk = true ↔ response.status.val = 200 := by
  simp [Response.isOk]

theorem Excuses.not_delivers {message : String} {shape : Json.Shape α} {value : α}
    (excuses : rules.Excuses response message) : ¬ rules.names.Delivers shape response value := by
  rintro ⟨-, result, accepts, -⟩
  exact accepts.not_rejects excuses.2.1

/-- Only a failure of the venue that does not know its response is completed. -/
theorem attach_of_ne {abort : Abort} (h : ∀ detail, abort ≠ .failure (.tradingApi detail none)) :
    rules.attach response abort = abort := by
  unfold attach
  split
  · exact absurd rfl (h _)
  · rfl

theorem attach_eq_network_iff {abort : Abort} {detail : String} :
    rules.attach response abort = .failure (.network detail) ↔
      abort = .failure (.network detail) := by
  unfold attach
  split
  · constructor <;> rintro ⟨⟩
  · exact Iff.rfl

theorem attach_eq_overflow_iff {abort : Abort} :
    rules.attach response abort = .overflow ↔ abort = .overflow := by
  unfold attach
  split
  · constructor <;> rintro ⟨⟩
  · exact Iff.rfl

/-- No fragment is empty, so the empty text has none. -/
theorem ne_empty_of_coversText {tolerance : Tolerance} {text : String}
    (covered : tolerance.coversText text = true) : text ≠ "" := by
  rintro rfl
  obtain ⟨fragment, member, found⟩ := List.any_eq_true.mp covered
  apply tolerance.fragments_ne fragment member
  simpa [Text.hasFragment, Text.occursIn] using found

theorem Excuses.decode {message : String} (excuses : rules.Excuses response message)
    (shape : Json.Shape α) :
    Envelope.decode rules.names shape response.payload = .ok ⟨false, some message, none⟩ :=
  Envelope.decode_of_rejects shape (ne_empty_of_coversText excuses.2.2) excuses.2.1

/-! ## Opening a reply -/

section Open

variable {decode : String → Except Envelope.DecodeError (Envelope α)} {envelope : Envelope α}

theorem openAccepted_of_not_served (unserved : response.isOk = false)
    (decode : String → Except Envelope.DecodeError (Envelope α)) :
    rules.openAccepted decode response = .error (rules.failed response.text response) := by
  simp only [openAccepted, requireServed, unserved, bind, Except.bind, Bool.false_eq_true,
    ↓reduceIte]

theorem openAccepted_of_undecodable (served : response.isOk = true)
    {cause : Envelope.DecodeError} (decoded : decode response.payload = .error cause) :
    rules.openAccepted decode response = .error (rules.undecodable response cause) := by
  simp only [openAccepted, requireServed, served, decoded, bind, Except.bind, mapError_error,
    ↓reduceIte]

theorem openAccepted_of_decoded (served : response.isOk = true)
    (decoded : decode response.payload = .ok envelope) :
    rules.openAccepted decode response =
      (rules.requireAccepted envelope response).map fun _ => envelope := by
  simp only [openAccepted, requireServed, served, decoded, bind, Except.bind, mapError_ok,
    ↓reduceIte]
  cases rules.requireAccepted envelope response <;> rfl

theorem requireAccepted_of_accepted (accepted : envelope.success = true) :
    rules.requireAccepted envelope response = .ok () := by
  rw [requireAccepted, if_pos accepted]

/-- A rejected envelope is a failure: excused by its message, or one of the venue. -/
theorem requireAccepted_of_rejected (rules : ReplyRules) (response : Response)
    (rejected : envelope.success = false) :
    (∃ message, envelope.message = some message ∧ rules.tolerance.coversText message = true ∧
        rules.requireAccepted envelope response = .error (.network (rules.context ++ message))) ∨
      (∀ message, envelope.message = some message → rules.tolerance.coversText message ≠ true) ∧
        rules.requireAccepted envelope response = .error (rules.failed response.text response) := by
  rw [requireAccepted, rejected, if_neg Bool.false_ne_true]
  cases envelope.message with
  | none => exact .inr ⟨nofun, rfl⟩
  | some message =>
    by_cases covered : rules.tolerance.coversText message = true
    · exact .inl ⟨message, rfl, covered, if_pos covered⟩
    · refine .inr ⟨?_, if_neg covered⟩
      rintro _ ⟨⟩
      exact covered

theorem exists_requireAccepted_eq_error (rules : ReplyRules) (response : Response)
    (rejected : envelope.success = false) :
    ∃ failure, rules.requireAccepted envelope response = .error failure := by
  rcases rules.requireAccepted_of_rejected response rejected with ⟨_, -, -, refused⟩ | ⟨-, refused⟩
  · exact ⟨_, refused⟩
  · exact ⟨_, refused⟩

theorem openAccepted_eq_ok (opened : rules.openAccepted decode response = .ok envelope) :
    response.isOk = true ∧ decode response.payload = .ok envelope ∧ envelope.success = true := by
  rw [openAccepted] at opened
  obtain ⟨_, served, opened⟩ := bind_eq_ok_iff.mp opened
  obtain ⟨found, decoded, opened⟩ := bind_eq_ok_iff.mp opened
  obtain ⟨_, accepted, made⟩ := bind_eq_ok_iff.mp opened
  cases made
  refine ⟨?_, mapError_eq_ok_iff.mp decoded, eq_true_of_ne_false fun rejected => ?_⟩
  · rw [requireServed] at served
    split at served
    · assumption
    · cases served
  · obtain ⟨failure, refused⟩ := rules.exists_requireAccepted_eq_error response rejected
    rw [refused] at accepted
    cases accepted

end Open

/-! ## The ways of a reply -/

section Ways

variable {shape : Json.Shape α} {understand : α → Except Abort β}

private theorem readResult_of_not_served (unserved : response.isOk = false) :
    rules.readResult shape understand response =
      .error (.failure (rules.failed response.text response)) := by
  rw [readResult, openAccepted_of_not_served unserved]

private theorem readResult_of_undecodable (served : response.isOk = true)
    {cause : Envelope.DecodeError}
    (decoded : Envelope.decode rules.names shape response.payload = .error cause) :
    rules.readResult shape understand response =
      .error (.failure (rules.undecodable response cause)) := by
  rw [readResult, openAccepted_of_undecodable served decoded]

private theorem readResult_of_accepted (served : response.isOk = true) {message : Option String}
    {value : α} (decoded : Envelope.decode rules.names shape response.payload =
      .ok ⟨true, message, some value⟩) :
    rules.readResult shape understand response =
      (understand value).mapError (rules.attach response) := by
  rw [readResult, openAccepted_of_decoded served decoded, requireAccepted_of_accepted rfl]
  rfl

private theorem readResult_of_rejected (served : response.isOk = true) {message : Option String}
    (decoded : Envelope.decode rules.names shape response.payload = .ok ⟨false, message, none⟩)
    {failure : Failure}
    (rejected : rules.requireAccepted (⟨false, message, none⟩ : Envelope α) response =
      .error failure) :
    rules.readResult shape understand response = .error (.failure failure) := by
  rw [readResult, openAccepted_of_decoded served decoded, rejected]
  rfl

/-- What a reply delivers is decoded from it. -/
private theorem not_delivers_of_decode (distinct : rules.names.message ≠ rules.names.result)
    (decoded : ∀ message value, Envelope.decode rules.names shape response.payload ≠
      .ok ⟨true, message, some value⟩) (value : α) :
    ¬ rules.names.Delivers shape response value := by
  intro delivers
  obtain ⟨-, message, decodes⟩ := (EnvelopeNames.delivers_iff_decode distinct).mp delivers
  exact decoded message value decodes

end Ways

/-- Exactly one of the three happens to a reply, and each time its reading is determined. -/
theorem readResult_cases (rules : ReplyRules) (distinct : rules.names.message ≠ rules.names.result)
    (shape : Json.Shape α) (understand : α → Except Abort β) (response : Response) :
    (∃ value, rules.names.Delivers shape response value ∧
      rules.readResult shape understand response =
        (understand value).mapError (rules.attach response)) ∨
    (∃ message, rules.Excuses response message ∧
      rules.readResult shape understand response =
        .error (.failure (.network (rules.context ++ message)))) ∨
    ((∀ value, ¬ rules.names.Delivers shape response value) ∧
      (∀ message, ¬ rules.Excuses response message) ∧
      ∃ detail, rules.readResult shape understand response =
        .error (.failure (.tradingApi (rules.context ++ detail) (some response)))) := by
  cases served : response.isOk with
  | false =>
    have notServed : response.status.val ≠ 200 := fun h => by
      rw [isOk_iff.mpr h] at served
      cases served
    exact .inr (.inr ⟨fun value h => notServed h.1, fun message h => notServed h.1,
      response.text, readResult_of_not_served served⟩)
  | true =>
    have status := isOk_iff.mp served
    cases decoded : Envelope.decode rules.names shape response.payload with
    | error cause =>
      refine .inr (.inr ⟨not_delivers_of_decode distinct ?_, ?_, _,
        readResult_of_undecodable served decoded⟩)
      · rw [decoded]
        rintro _ _ ⟨⟩
      · intro message excuses
        have decodes := excuses.decode shape
        rw [decoded] at decodes
        cases decodes
    | ok envelope =>
      rcases Envelope.decode_cases distinct decoded with
        ⟨message, result, value, rfl, accepts, read⟩ | ⟨message, rfl, tells⟩
      · exact .inl ⟨value, ⟨status, result, accepts, read⟩, readResult_of_accepted served decoded⟩
      · have noValue : ∀ value, ¬ rules.names.Delivers shape response value := by
          refine not_delivers_of_decode distinct ?_
          rw [decoded]
          rintro _ _ ⟨⟩
        have excused : ∀ text, rules.Excuses response text → message = some text := by
          intro text excuses
          have decodes := excuses.decode shape
          rw [decoded] at decodes
          cases decodes
          rfl
        have rejected : (⟨false, message, none⟩ : Envelope α).success = false := rfl
        rcases rules.requireAccepted_of_rejected response rejected with
          ⟨text, told, covered, refused⟩ | ⟨uncovered, refused⟩
        · exact .inr (.inl ⟨text, ⟨status, tells text told, covered⟩,
            readResult_of_rejected served decoded refused⟩)
        · exact .inr (.inr ⟨noValue, fun text h => uncovered text (excused text h) h.2.2,
            response.text, readResult_of_rejected served decoded refused⟩)

/-- A reply overflows only by what the domain makes of the value that it delivers. -/
theorem readResult_eq_overflow_iff (rules : ReplyRules)
    (distinct : rules.names.message ≠ rules.names.result)
    {shape : Json.Shape α} {understand : α → Except Abort β} :
    rules.readResult shape understand response = .error .overflow ↔
      ∃ value, rules.names.Delivers shape response value ∧ understand value = .error .overflow := by
  rcases rules.readResult_cases distinct shape understand response with
    ⟨value, delivers, read⟩ | ⟨message, excuses, read⟩ | ⟨none, -, detail, read⟩
  · have same : (understand value).mapError (rules.attach response) = .error .overflow ↔
        understand value = .error .overflow := by
      cases understand value with
      | error abort =>
        rw [mapError_error, Except.error.injEq, Except.error.injEq, attach_eq_overflow_iff]
      | ok answer => rw [mapError_ok]
    rw [read, same]
    refine ⟨fun overflow => ⟨value, delivers, overflow⟩, ?_⟩
    rintro ⟨other, delivers', overflow⟩
    rwa [delivers.unique delivers']
  · rw [read]
    constructor
    · rintro ⟨⟩
    · rintro ⟨value, delivers, -⟩
      exact absurd delivers excuses.not_delivers
  · rw [read]
    constructor
    · rintro ⟨⟩
    · rintro ⟨value, delivers, -⟩
      exact absurd delivers (none value)

theorem readFlag_ne_overflow (rules : ReplyRules) (response : Response) :
    rules.readFlag response ≠ .error .overflow := by
  rw [readFlag]
  split <;> rintro ⟨⟩

end ReplyRules

end VenueGateway
