import VenueGateway.Proofs.Settings.Override
import VenueGateway.Proofs.Settings.Secrets

/-! # Blank variables of the environment

A variable that is set to nothing leaves the entry of the settings as it is, while one that is set to
blanks replaces it, although blanks cannot be used. So credentials that could be used stay usable exactly
if neither variable of their owner is blank without being empty.
-/

namespace VenueGateway

variable {environment : Environment} {owner name own value : String}
  {secrets overridden : Secrets} {credentials : Credentials}

/-- The environment offers a value without a visible character. -/
def Environment.OffersBlank (environment : Environment) (name : String) : Prop :=
  ∃ value, environment.offer name = some value ∧ ¬ Text.Visible value

namespace Secrets

/-! ## One entry -/

theorem required_of_visible (found : secrets.get? name = some value) (visible : Text.Visible value) :
    secrets.required name = .ok value :=
  required_eq_ok_iff.mpr ⟨found, Text.isBlankText_eq_false_iff.mpr visible⟩

theorem required_of_blank (found : secrets.get? name = some value) (blank : ¬ Text.Visible value) :
    secrets.required name = .error (missing name) := by
  rw [← Text.isBlankText_eq_false_iff, Bool.not_eq_false] at blank
  rw [required, found]
  exact if_pos blank

theorem required_of_offer {asked : String} (usable : secrets.required name = .ok own)
    (replaced : overridden.get? name = (environment.offer asked).or (secrets.get? name))
    (notBlank : ¬ environment.OffersBlank asked) :
    overridden.required name = .ok ((environment.offer asked).getD own) := by
  obtain ⟨found, visible⟩ := required_eq_ok_iff.mp usable
  cases offered : environment.offer asked with
  | none =>
    rw [offered, Option.none_or, found] at replaced
    exact required_of_visible replaced (Text.isBlankText_eq_false_iff.mp visible)
  | some value =>
    rw [offered, Option.some_or] at replaced
    apply required_of_visible replaced
    by_contra blank
    exact notBlank ⟨value, offered, blank⟩

theorem required_of_offersBlank {asked : String}
    (replaced : overridden.get? name = (environment.offer asked).or (secrets.get? name))
    (blank : environment.OffersBlank asked) : overridden.required name = .error (missing name) := by
  obtain ⟨value, offered, blank⟩ := blank
  rw [offered, Option.some_or] at replaced
  exact required_of_blank replaced blank

/-! ## The credentials -/

/-- Neither variable of an owner is blank without being empty. -/
structure Spared (environment : Environment) (owner : String) : Prop where
  key : ¬ environment.OffersBlank (Text.upper owner ++ "_KEY")
  secret : ¬ environment.OffersBlank (Text.upper owner ++ "_SECRET")

/-- What the environment offers an owner, and the owner's own credentials where it offers nothing. -/
def offered (environment : Environment) (owner : String) (credentials : Credentials) : Credentials where
  key := (environment.offer (Text.upper owner ++ "_KEY")).getD credentials.key
  secret := (environment.offer (Text.upper owner ++ "_SECRET")).getD credentials.secret

theorem credentials_override_of_spared (found : secrets.credentials = .ok credentials)
    (spared : Spared environment owner) :
    (secrets.override environment owner).credentials = .ok (offered environment owner credentials) := by
  obtain ⟨keyed, kept⟩ := credentials_eq_ok_iff.mp found
  have replaced := overridden_override environment owner secrets
  exact credentials_eq_ok_iff.mpr ⟨required_of_offer keyed replaced.key spared.key,
    required_of_offer kept replaced.secret spared.secret⟩

theorem credentials_override_of_keyBlank (secrets : Secrets)
    (blank : environment.OffersBlank (Text.upper owner ++ "_KEY")) :
    (secrets.override environment owner).credentials = .error (missing "key") := by
  have replaced := (overridden_override environment owner secrets).key
  have failed : (secrets.override environment owner).required keyName = .error (missing "key") :=
    required_of_offersBlank replaced blank
  rw [Secrets.credentials, failed]
  rfl

theorem credentials_override_of_secretBlank (found : secrets.credentials = .ok credentials)
    (notBlank : ¬ environment.OffersBlank (Text.upper owner ++ "_KEY"))
    (blank : environment.OffersBlank (Text.upper owner ++ "_SECRET")) :
    (secrets.override environment owner).credentials = .error (missing "secret") := by
  obtain ⟨keyed, -⟩ := credentials_eq_ok_iff.mp found
  have replaced := overridden_override environment owner secrets
  have usable := required_of_offer keyed replaced.key notBlank
  have failed : (secrets.override environment owner).required secretName = .error (missing "secret") :=
    required_of_offersBlank replaced.secret blank
  rw [Secrets.credentials, usable]
  exact bind_eq_error_iff.mpr (.inr ⟨_, rfl, bind_eq_error_iff.mpr (.inl failed)⟩)

/-- Usable credentials stay usable exactly if neither variable of their owner is blank without being
empty. They are then what the environment offers, and their own where it offers nothing; otherwise the
first entry that is replaced by blanks is missing. -/
theorem credentials_override (found : secrets.credentials = .ok credentials)
    (environment : Environment) (owner : String) :
    ((∃ usable, (secrets.override environment owner).credentials = .ok usable) ↔
      Spared environment owner) ∧
    (Spared environment owner →
      (secrets.override environment owner).credentials = .ok (offered environment owner credentials)) ∧
    (environment.OffersBlank (Text.upper owner ++ "_KEY") →
      (secrets.override environment owner).credentials = .error (missing "key")) ∧
    (¬ environment.OffersBlank (Text.upper owner ++ "_KEY") →
      environment.OffersBlank (Text.upper owner ++ "_SECRET") →
        (secrets.override environment owner).credentials = .error (missing "secret")) := by
  refine ⟨⟨?spared, ?usable⟩, credentials_override_of_spared found,
    credentials_override_of_keyBlank secrets, credentials_override_of_secretBlank found⟩
  case spared =>
    rintro ⟨usable, made⟩
    have notBlank : ¬ environment.OffersBlank (Text.upper owner ++ "_KEY") := by
      intro blank
      cases made.symm.trans (credentials_override_of_keyBlank secrets blank)
    refine ⟨notBlank, ?_⟩
    intro blank
    cases made.symm.trans (credentials_override_of_secretBlank found notBlank blank)
  case usable =>
    intro spared
    exact ⟨_, credentials_override_of_spared found spared⟩

def plainSecrets : Secrets := .ofList [("key", "my-key"), ("secret", "my-secret")]

/-- An environment with a key that has a blank in front, and with a secret that is empty. -/
def paddedEnvironment : Environment
  | "BITTREX_KEY" => some " env-key"
  | "BITTREX_SECRET" => some ""
  | _ => none

/-- Such a key stands beside the secret of the settings. -/
theorem credentials_override_padded :
    plainSecrets.credentials = .ok ⟨"my-key", "my-secret"⟩ ∧
      Spared paddedEnvironment "bittrex" ∧
      (plainSecrets.override paddedEnvironment "bittrex").credentials =
        .ok ⟨" env-key", "my-secret"⟩ := by
  have found : plainSecrets.credentials = .ok ⟨"my-key", "my-secret"⟩ := by decide +kernel
  have spared : Spared paddedEnvironment "bittrex" := by
    refine ⟨?key, ?secret⟩
    case key =>
      rintro ⟨value, offered, blank⟩
      have value_eq : some " env-key" = some value := offered
      cases value_eq
      exact blank ⟨'e', by decide, by decide⟩
    case secret =>
      rintro ⟨value, offered, -⟩
      have value_eq : none = some value := offered
      cases value_eq
  exact ⟨found, spared, (credentials_override found paddedEnvironment "bittrex").2.1 spared⟩

/-- An environment with a secret of a single blank. -/
def blankEnvironment : Environment
  | "BITTREX_SECRET" => some " "
  | _ => none

/-- Such a secret takes the place of one that could be used. -/
theorem credentials_override_blank :
    plainSecrets.credentials = .ok ⟨"my-key", "my-secret"⟩ ∧
      (plainSecrets.override blankEnvironment "bittrex").credentials =
        .error (missing "secret") := by
  decide +kernel

end Secrets

end VenueGateway
