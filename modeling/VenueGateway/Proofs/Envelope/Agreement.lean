import VenueGateway.Proofs.Channel.Reply

/-! # One body, decoded in two ways

A body is decoded with its result where the result matters, and for its flag alone where it does
not. Both ways open the envelope first and in the same way, so they can part only over the result of
an accepted envelope. What they tell depends on the three members that the envelope names, and on
nothing else in the body.
-/

namespace VenueGateway

/-- Objects with the same members under the three names of an envelope. A member that one of them
lacks, the other lacks too. -/
structure EnvelopeNames.SameMembers (names : EnvelopeNames)
    (members others : List (String × Json)) : Prop where
  success : Entries.find? names.success members = Entries.find? names.success others
  message : Entries.find? names.message members = Entries.find? names.message others
  result : Entries.find? names.result members = Entries.find? names.result others

namespace Envelope

open EnvelopeNames

variable {α : Type} {names : EnvelopeNames} {payload : String} {shape : Json.Shape α}
  {cause : DecodeError}

/-- The causes for which a body is no envelope, whatever is expected of a result. -/
inductive DecodeError.Unopened (names : EnvelopeNames) : DecodeError → Prop
  | malformed (cause : Json.SyntaxError) : Unopened names (.malformed cause)
  | notAnObject : Unopened names .notAnObject
  | missingSuccess : Unopened names (.missingSuccess names.success)

/-! ## Opening -/

theorem openBody_of_unflagged {members : List (String × Json)} (object : ObjectIn payload members)
    (unflagged : (Entries.find? names.success members).bind Json.asBool? = none) :
    openBody names payload = .error (.missingSuccess names.success) := by
  rw [ObjectIn] at object
  simp only [openBody, object, unflagged]

theorem unopened_of_openBody (fails : openBody names payload = .error cause) :
    cause.Unopened names := by
  rw [openBody] at fails
  split at fails
  · cases fails
    exact .malformed _
  · split at fails
    · cases fails
    · cases fails
      exact .missingSuccess
  · cases fails
    exact .notAnObject

theorem not_unopened_of_resultOf {members : List (String × Json)}
    (fails : resultOf names shape members = .error cause) : ¬ cause.Unopened names := by
  rcases resultOf_eq_error_iff.mp fails with ⟨-, rfl⟩ | ⟨_, _, -, -, -, rfl⟩
  · rintro ⟨⟩
  · rintro ⟨⟩

/-- A message is a text that is not empty. -/
theorem messageOf_eq_some_iff {found : Option Json} {text : String} :
    messageOf found = some text ↔ found = some (.str text) ∧ text ≠ "" := by
  constructor
  · intro message
    obtain rfl := messageOf_eq_some message
    refine ⟨rfl, ?_⟩
    rintro rfl
    cases message
  · rintro ⟨rfl, nonempty⟩
    exact messageOf_str nonempty

/-! ## Decoding -/

theorem decode_eq_error_iff :
    decode names shape payload = .error cause ↔
      openBody names payload = .error cause ∨
        ∃ opened, openBody names payload = .ok opened ∧ opened.success = true ∧
          resultOf names shape opened.members = .error cause := by
  rw [decode, bind_eq_error_iff]
  refine or_congr Iff.rfl (exists_congr fun opened => and_congr_right fun opens => ?_)
  cases accepted : opened.success with
  | true =>
    rw [if_pos rfl, bind_eq_error_iff]
    simp [pure, Except.pure]
  | false => simp [pure, Except.pure]

/-- What is decoded tells the flag and the message that were opened, and has a result if it is
accepted. -/
theorem decode_eq_ok {envelope : Envelope α} (decoded : decode names shape payload = .ok envelope) :
    ∃ opened, openBody names payload = .ok opened ∧ envelope.success = opened.success ∧
      envelope.message = opened.message ∧ envelope.result.isSome = opened.success := by
  rw [decode] at decoded
  obtain ⟨opened, opens, decoded⟩ := bind_eq_ok_iff.mp decoded
  refine ⟨opened, opens, ?_⟩
  cases accepted : opened.success with
  | true =>
    rw [accepted, if_pos rfl] at decoded
    obtain ⟨value, -, made⟩ := bind_eq_ok_iff.mp decoded
    cases made
    exact ⟨rfl, rfl, rfl⟩
  | false =>
    rw [accepted, if_neg Bool.false_ne_true] at decoded
    cases decoded
    exact ⟨rfl, rfl, rfl⟩

theorem decodeFlag_eq_error_iff :
    decodeFlag names payload = .error cause ↔ openBody names payload = .error cause := by
  rw [decodeFlag, bind_eq_error_iff]
  exact or_iff_left (by rintro ⟨_, -, ⟨⟩⟩)

theorem decodeFlag_of_opened {opened : Opened} (opens : openBody names payload = .ok opened) :
    decodeFlag names payload =
      .ok ⟨opened.success, opened.message, if opened.success then some () else none⟩ := by
  rw [decodeFlag, opens]
  rfl

theorem decodeFlag_eq_ok {flag : Envelope Unit} (decoded : decodeFlag names payload = .ok flag) :
    ∃ opened, openBody names payload = .ok opened ∧ flag.success = opened.success ∧
      flag.message = opened.message ∧ flag.result.isSome = opened.success := by
  rw [decodeFlag] at decoded
  obtain ⟨opened, opens, made⟩ := bind_eq_ok_iff.mp decoded
  cases made
  refine ⟨opened, opens, rfl, rfl, ?_⟩
  cases opened.success <;> rfl

/-- An accepted envelope fails exactly over its result. -/
theorem decode_eq_error_iff_of_accepted (distinct : names.message ≠ names.result)
    {members : List (String × Json)} (object : ObjectIn payload members)
    (accepted : Entries.find? names.success members = some (.bool true)) :
    decode names shape payload = .error cause ↔
      (Entries.find? names.result members = none ∨
          Entries.find? names.result members = some .null) ∧ cause = .missingResult names.result ∨
        ∃ result fault, Entries.find? names.result members = some result ∧ result ≠ .null ∧
          shape result = .error fault ∧ cause = .invalidResult names.result fault := by
  have opens := openBody_eq_ok_iff.mpr ⟨members, true, object, accepted, rfl⟩
  rw [decode_of_opened_accepted opens rfl, map_eq_error_iff, resultOf_eq_error_iff,
    Entries.find?_erase_of_ne distinct.symm]

/-- Objects with the same three members are opened alike, but for the members that are left. -/
theorem decode_of_sameMembers (distinct : names.message ≠ names.result) {other : String}
    {members others : List (String × Json)} (object : ObjectIn payload members)
    (otherObject : ObjectIn other others) (same : names.SameMembers members others) :
    decode names shape payload = decode names shape other ∧
      decodeFlag names payload = decodeFlag names other := by
  cases flag : (Entries.find? names.success members).bind Json.asBool? with
  | none =>
    have opens := openBody_of_unflagged object flag
    have otherOpens := openBody_of_unflagged otherObject (same.success ▸ flag)
    constructor
    · rw [decode_eq_error_iff.mpr (.inl opens), decode_eq_error_iff.mpr (.inl otherOpens)]
    · rw [decodeFlag_eq_error_iff.mpr opens, decodeFlag_eq_error_iff.mpr otherOpens]
  | some success =>
    have found := asBool?_eq_some_iff.mp flag
    have opens := openBody_eq_ok_iff.mpr ⟨members, success, object, found, rfl⟩
    have otherOpens :=
      openBody_eq_ok_iff.mpr ⟨others, success, otherObject, same.success ▸ found, rfl⟩
    constructor
    · cases success with
      | true =>
        rw [decode_of_opened_accepted opens rfl, decode_of_opened_accepted otherOpens rfl,
          same.message, resultOf, resultOf, Entries.find?_erase_of_ne distinct.symm,
          Entries.find?_erase_of_ne distinct.symm, same.result]
      | false =>
        rw [decode_of_opened_rejected opens rfl, decode_of_opened_rejected otherOpens rfl,
          same.message]
    · rw [decodeFlag_of_opened opens, decodeFlag_of_opened otherOpens, same.message]

/-! ## Both ways beside each other -/

/-- How the two ways to decode a body go together. -/
structure DecodersAgree (names : EnvelopeNames) (shape : Json.Shape α) (payload : String) :
    Prop where
  /-- A body that is no envelope fails in both ways, with the same cause. -/
  unopened_iff : ∀ cause : DecodeError, cause.Unopened names →
    (decode names shape payload = .error cause ↔ decodeFlag names payload = .error cause)
  flag_fails : ∀ cause, decodeFlag names payload = .error cause → cause.Unopened names
  decode_fails : ∀ cause, decode names shape payload = .error cause →
    cause.Unopened names ∨ cause = .missingResult names.result ∨
      ∃ fault, cause = .invalidResult names.result fault
  flag_of_decode : ∀ envelope, decode names shape payload = .ok envelope →
    ∃ flag, decodeFlag names payload = .ok flag ∧ flag.success = envelope.success ∧
      flag.message = envelope.message
  result_iff : ∀ envelope, decode names shape payload = .ok envelope →
    (envelope.result.isSome = true ↔ envelope.success = true)
  flag_result_iff : ∀ flag, decodeFlag names payload = .ok flag →
    (flag.result.isSome = true ↔ flag.success = true)
  /-- Wherever a reply with this body is read, its result is there once it is accepted. -/
  present : ∀ (rules : ReplyRules) (response : Response) (envelope : Envelope α),
    rules.names = names → response.payload = payload →
    rules.openAccepted (decode names shape) response = .ok envelope → envelope.result ≠ none
  rejected : ∀ members, ObjectIn payload members →
    Entries.find? names.success members = some (.bool false) →
    (∃ envelope, decode names shape payload = .ok envelope) ∧
      ∃ flag, decodeFlag names payload = .ok flag
  missing_iff : ∀ members, ObjectIn payload members →
    Entries.find? names.success members = some (.bool true) →
    (decode names shape payload = .error (.missingResult names.result) ↔
      Entries.find? names.result members = none ∨ Entries.find? names.result members = some .null)
  invalid_iff : ∀ members, ObjectIn payload members →
    Entries.find? names.success members = some (.bool true) → ∀ fault,
    (decode names shape payload = .error (.invalidResult names.result fault) ↔
      ∃ result, Entries.find? names.result members = some result ∧ result ≠ .null ∧
        shape result = .error fault)
  message_iff : ∀ members, ObjectIn payload members → ∀ envelope,
    decode names shape payload = .ok envelope → ∀ text, envelope.message = some text ↔
      Entries.find? names.message members = some (.str text) ∧ text ≠ ""
  flag_message_iff : ∀ members, ObjectIn payload members → ∀ flag,
    decodeFlag names payload = .ok flag → ∀ text, flag.message = some text ↔
      Entries.find? names.message members = some (.str text) ∧ text ≠ ""
  same : ∀ members other others, ObjectIn payload members → ObjectIn other others →
    names.SameMembers members others → decode names shape payload = decode names shape other ∧
      decodeFlag names payload = decodeFlag names other

theorem message_of_opened {opened : Opened} {members : List (String × Json)}
    (object : ObjectIn payload members) (opens : openBody names payload = .ok opened) :
    opened.message = messageOf (Entries.find? names.message members) := by
  obtain ⟨others, success, otherObject, -, rfl⟩ := openBody_eq_ok_iff.mp opens
  rw [object.unique otherObject]

/-- Both ways of decoding agree on every body, whatever shape is expected of the result. -/
theorem decoders_agree (distinct : names.message ≠ names.result) (shape : Json.Shape α)
    (payload : String) : DecodersAgree names shape payload where
  unopened_iff := by
    intro cause unopened
    rw [decodeFlag_eq_error_iff, decode_eq_error_iff]
    exact or_iff_left fun ⟨_, _, _, fails⟩ => not_unopened_of_resultOf fails unopened
  flag_fails := by
    intro cause fails
    exact unopened_of_openBody (decodeFlag_eq_error_iff.mp fails)
  decode_fails := by
    intro cause fails
    rcases decode_eq_error_iff.mp fails with unopened | ⟨_, -, -, fails⟩
    · exact .inl (unopened_of_openBody unopened)
    · rcases resultOf_eq_error_iff.mp fails with ⟨-, missing⟩ | ⟨_, fault, -, -, -, invalid⟩
      · exact .inr (.inl missing)
      · exact .inr (.inr ⟨fault, invalid⟩)
  flag_of_decode := by
    intro envelope decoded
    obtain ⟨opened, opens, success, message, -⟩ := decode_eq_ok decoded
    exact ⟨_, decodeFlag_of_opened opens, success.symm, message.symm⟩
  result_iff := by
    intro envelope decoded
    obtain ⟨opened, -, success, -, result⟩ := decode_eq_ok decoded
    rw [result, success]
  flag_result_iff := by
    intro flag decoded
    obtain ⟨opened, -, success, -, result⟩ := decodeFlag_eq_ok decoded
    rw [result, success]
  present := by
    rintro rules response envelope - rfl opened missing
    obtain ⟨-, decoded, accepted⟩ := ReplyRules.openAccepted_eq_ok opened
    obtain ⟨_, -, success, -, result⟩ := decode_eq_ok decoded
    rw [missing, ← success, accepted] at result
    cases result
  rejected := by
    intro members object rejected
    have opens := openBody_eq_ok_iff.mpr ⟨members, false, object, rejected, rfl⟩
    exact ⟨⟨_, decode_of_opened_rejected opens rfl⟩, _, decodeFlag_of_opened opens⟩
  missing_iff := by
    intro members object accepted
    rw [decode_eq_error_iff_of_accepted distinct object accepted]
    simp
  invalid_iff := by
    intro members object accepted fault
    rw [decode_eq_error_iff_of_accepted distinct object accepted]
    simp
  message_iff := by
    intro members object envelope decoded text
    obtain ⟨opened, opens, -, message, -⟩ := decode_eq_ok decoded
    rw [message, message_of_opened object opens, messageOf_eq_some_iff]
  flag_message_iff := by
    intro members object flag decoded text
    obtain ⟨opened, opens, -, message, -⟩ := decodeFlag_eq_ok decoded
    rw [message, message_of_opened object opens, messageOf_eq_some_iff]
  same := by
    intro members other others object otherObject same
    exact decode_of_sameMembers distinct object otherObject same

def nullResult : String := "\x7b\"success\":true,\"message\":\"\",\"result\":null\x7d"

/-- A result that is null is missing where it matters, and is not missed where it does not. -/
theorem decoders_agree_nullResult :
    EnvelopeNames.standard.message ≠ EnvelopeNames.standard.result ∧
      decode .standard .decimal nullResult = .error (.missingResult "result") ∧
      decodeFlag .standard nullResult = .ok ⟨true, none, some ()⟩ := by
  have distinct : EnvelopeNames.standard.message ≠ EnvelopeNames.standard.result := by decide
  have object : ObjectIn nullResult
      [("message", .str ""), ("result", .null), ("success", .bool true)] := by cbv
  have agree : DecodersAgree .standard .decimal nullResult := decoders_agree distinct _ _
  exact ⟨distinct, (agree.missing_iff _ object rfl).mpr (.inr rfl), by decide +kernel⟩

end Envelope

end VenueGateway
