import VenueGateway.Envelope
import VenueGateway.Proofs.NameMap
import VenueGateway.Proofs.Traversal

/-! # What a body says

Whether a body is an accepted envelope with a result, or a rejected one with a message, is said here
of the members of the object that the body is, without reference to how it is opened. `decode` gives
an accepted envelope exactly for the bodies of the first kind whose result has the shape, and a
rejected one exactly for those of the second.
-/

namespace VenueGateway

namespace EnvelopeNames

/-- The body is an object with some members. -/
def ObjectIn (payload : String) (members : List (String × Json)) : Prop :=
  Json.read payload = .ok (.obj members)

/-- The body is an accepted envelope, and this is its result. -/
def Accepts (names : EnvelopeNames) (payload : String) (result : Json) : Prop :=
  ∃ members, ObjectIn payload members ∧
    Entries.find? names.success members = some (.bool true) ∧
    Entries.find? names.result members = some result ∧ result ≠ .null

/-- The body is a rejected envelope, and this is its message. -/
def Rejects (names : EnvelopeNames) (payload message : String) : Prop :=
  ∃ members, ObjectIn payload members ∧
    Entries.find? names.success members = some (.bool false) ∧
    Entries.find? names.message members = some (.str message)

theorem ObjectIn.unique {payload : String} {members others : List (String × Json)}
    (first : ObjectIn payload members) (second : ObjectIn payload others) : members = others := by
  rw [ObjectIn, first] at second
  cases second
  rfl

theorem Accepts.unique {names : EnvelopeNames} {payload : String} {result other : Json}
    (first : names.Accepts payload result) (second : names.Accepts payload other) :
    result = other := by
  obtain ⟨members, object, -, found, -⟩ := first
  obtain ⟨others, object', -, found', -⟩ := second
  obtain rfl := object.unique object'
  rw [found] at found'
  cases found'
  rfl

theorem Accepts.not_rejects {names : EnvelopeNames} {payload message : String} {result : Json}
    (accepts : names.Accepts payload result) : ¬ names.Rejects payload message := by
  rintro ⟨others, object', rejected, -⟩
  obtain ⟨members, object, accepted, -, -⟩ := accepts
  obtain rfl := object.unique object'
  rw [accepted] at rejected
  cases rejected

end EnvelopeNames

namespace Envelope

open EnvelopeNames

variable {α : Type} {names : EnvelopeNames} {payload : String}

theorem asBool?_eq_some_iff {found : Option Json} {value : Bool} :
    found.bind Json.asBool? = some value ↔ found = some (.bool value) := by
  constructor
  · intro h
    obtain ⟨json, rfl, h⟩ := Option.bind_eq_some_iff.mp h
    cases json <;> cases h
    rfl
  · rintro rfl
    rfl

/-- A body opens when it is an object with a flag; what is left are the members but the message. -/
theorem openBody_eq_ok_iff {opened : Opened} :
    openBody names payload = .ok opened ↔
      ∃ members success, ObjectIn payload members ∧
        Entries.find? names.success members = some (.bool success) ∧
        opened = ⟨success, messageOf (Entries.find? names.message members),
          Entries.erase names.message members⟩ := by
  rw [openBody]
  constructor
  · intro h
    split at h
    · cases h
    · rename_i members object
      split at h
      · rename_i success flag
        cases h
        exact ⟨members, success, object, asBool?_eq_some_iff.mp flag, rfl⟩
      · cases h
    · cases h
  · rintro ⟨members, success, object, flag, rfl⟩
    rw [object]
    simp only [asBool?_eq_some_iff.mpr flag]

theorem messageOf_eq_some {found : Option Json} {message : String}
    (h : messageOf found = some message) : found = some (.str message) := by
  rcases found with - | json
  · cases h
  · cases json with
    | str text =>
      rw [messageOf] at h
      split at h <;> cases h
      rfl
    | null | bool | int | float | arr | obj => cases h

theorem messageOf_str {message : String} (nonempty : message ≠ "") :
    messageOf (some (.str message)) = some message := by
  have notEmpty : message.isEmpty = false := by simpa using nonempty
  rw [messageOf, notEmpty]
  rfl

theorem resultOf_of_ne_null {shape : Json.Shape α} {members : List (String × Json)} {result : Json}
    (found : Entries.find? names.result members = some result) (notNull : result ≠ .null) :
    resultOf names shape members = (shape result).mapError (.invalidResult names.result) := by
  rw [resultOf, found]
  cases result with
  | null => exact absurd rfl notNull
  | bool | int | float | str | arr | obj => rfl

theorem resultOf_eq_ok_iff {shape : Json.Shape α} {members : List (String × Json)} {value : α} :
    resultOf names shape members = .ok value ↔
      ∃ result, Entries.find? names.result members = some result ∧ result ≠ .null ∧
        shape result = .ok value := by
  constructor
  · intro h
    cases found : Entries.find? names.result members with
    | none =>
      rw [resultOf, found] at h
      cases h
    | some result =>
      by_cases null : result = .null
      · rw [resultOf, found, null] at h
        cases h
      · rw [resultOf_of_ne_null found null] at h
        cases read : shape result with
        | error cause =>
          rw [read] at h
          cases h
        | ok other =>
          rw [read] at h
          cases h
          exact ⟨result, rfl, null, read⟩
  · rintro ⟨result, found, notNull, read⟩
    rw [resultOf_of_ne_null found notNull, read]
    rfl

/-- There is no result when the member is absent or null, or when it does not have the shape. -/
theorem resultOf_eq_error_iff {shape : Json.Shape α} {members : List (String × Json)}
    {cause : DecodeError} :
    resultOf names shape members = .error cause ↔
      (Entries.find? names.result members = none ∨
          Entries.find? names.result members = some .null) ∧ cause = .missingResult names.result ∨
        ∃ result fault, Entries.find? names.result members = some result ∧ result ≠ .null ∧
          shape result = .error fault ∧ cause = .invalidResult names.result fault := by
  cases found : Entries.find? names.result members with
  | none =>
    rw [resultOf, found]
    simp [eq_comm]
  | some result =>
    by_cases null : result = .null
    · rw [resultOf, found, null]
      simp [eq_comm]
    · rw [resultOf_of_ne_null found null]
      cases read : shape result with
      | error fault => simp [null, read, eq_comm]
      | ok value => simp [null, read]

/-! ## Accepted and rejected envelopes -/

theorem decode_of_opened_accepted {shape : Json.Shape α} {opened : Opened}
    (opens : openBody names payload = .ok opened) (accepted : opened.success = true) :
    decode names shape payload =
      (resultOf names shape opened.members).map (⟨true, opened.message, some ·⟩) := by
  simp only [decode, opens, accepted, bind, Except.bind, ↓reduceIte]
  cases resultOf names shape opened.members <;> rfl

theorem decode_of_opened_rejected {shape : Json.Shape α} {opened : Opened}
    (opens : openBody names payload = .ok opened) (rejected : opened.success = false) :
    decode names shape payload = .ok ⟨false, opened.message, none⟩ := by
  simp only [decode, opens, rejected, bind, Except.bind, Bool.false_eq_true, ↓reduceIte]
  rfl

theorem decode_of_accepts (distinct : names.message ≠ names.result) {shape : Json.Shape α}
    {result : Json} {value : α} (accepts : names.Accepts payload result)
    (read : shape result = .ok value) :
    ∃ message, decode names shape payload = .ok ⟨true, message, some value⟩ := by
  obtain ⟨members, object, flag, found, notNull⟩ := accepts
  have opens := openBody_eq_ok_iff.mpr ⟨members, true, object, flag, rfl⟩
  have kept : Entries.find? names.result (Entries.erase names.message members) = some result := by
    rw [Entries.find?_erase_of_ne distinct.symm, found]
  refine ⟨messageOf (Entries.find? names.message members), ?_⟩
  rw [decode_of_opened_accepted opens rfl, resultOf_eq_ok_iff.mpr ⟨result, kept, notNull, read⟩]
  rfl

theorem decode_of_rejects (shape : Json.Shape α) {message : String} (nonempty : message ≠ "")
    (rejects : names.Rejects payload message) :
    decode names shape payload = .ok ⟨false, some message, none⟩ := by
  obtain ⟨members, object, flag, found⟩ := rejects
  have opens := openBody_eq_ok_iff.mpr ⟨members, false, object, flag, rfl⟩
  rw [decode_of_opened_rejected opens rfl, found, messageOf_str nonempty]

/-- What a decoded envelope tells of the body: it is accepted and carries a result of the shape, or
it is rejected, and a message that it carries is that of the body. -/
theorem decode_cases (distinct : names.message ≠ names.result) {shape : Json.Shape α}
    {envelope : Envelope α} (decoded : decode names shape payload = .ok envelope) :
    (∃ message result value, envelope = ⟨true, message, some value⟩ ∧
      names.Accepts payload result ∧ shape result = .ok value) ∨
    (∃ message, envelope = ⟨false, message, none⟩ ∧
      ∀ text, message = some text → names.Rejects payload text) := by
  cases opens : openBody names payload with
  | error cause =>
    simp only [decode, opens, bind, Except.bind] at decoded
    cases decoded
  | ok opened =>
    obtain ⟨members, success, object, flag, rfl⟩ := openBody_eq_ok_iff.mp opens
    cases success with
    | true =>
      rw [decode_of_opened_accepted opens rfl] at decoded
      cases read : resultOf names shape (Entries.erase names.message members) with
      | error cause =>
        simp only [read] at decoded
        cases decoded
      | ok value =>
        simp only [read] at decoded
        cases decoded
        obtain ⟨result, found, notNull, shaped⟩ := resultOf_eq_ok_iff.mp read
        rw [Entries.find?_erase_of_ne distinct.symm] at found
        exact .inl ⟨_, result, value, rfl, ⟨members, object, flag, found, notNull⟩, shaped⟩
    | false =>
      rw [decode_of_opened_rejected opens rfl] at decoded
      cases decoded
      exact .inr ⟨_, rfl, fun text h => ⟨members, object, flag, messageOf_eq_some h⟩⟩

/-- A value is decoded exactly from an accepted body with a result that reads as it. -/
theorem decode_eq_accepted_iff (distinct : names.message ≠ names.result) {shape : Json.Shape α}
    {value : α} :
    (∃ message, decode names shape payload = .ok ⟨true, message, some value⟩) ↔
      ∃ result, names.Accepts payload result ∧ shape result = .ok value := by
  constructor
  · rintro ⟨message, decoded⟩
    rcases decode_cases distinct decoded with ⟨_, result, _, ⟨⟩, accepts, read⟩ | ⟨_, ⟨⟩, -⟩
    exact ⟨result, accepts, read⟩
  · rintro ⟨result, accepts, read⟩
    exact decode_of_accepts distinct accepts read

/-- A message that is not empty is decoded exactly from a rejected body with that message. -/
theorem decode_eq_rejected_iff (distinct : names.message ≠ names.result) (shape : Json.Shape α)
    {message : String} (nonempty : message ≠ "") :
    decode names shape payload = .ok ⟨false, some message, none⟩ ↔
      names.Rejects payload message := by
  constructor
  · intro decoded
    rcases decode_cases distinct decoded with ⟨_, _, _, ⟨⟩, -⟩ | ⟨_, ⟨⟩, tells⟩
    exact tells message rfl
  · intro rejects
    exact decode_of_rejects shape nonempty rejects

end Envelope

end VenueGateway
