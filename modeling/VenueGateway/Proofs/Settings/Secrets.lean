import VenueGateway.Proofs.Text.Spelling
import VenueGateway.Proofs.Traversal
import VenueGateway.Settings.Basic

/-! # Usable secrets

An entry of the secrets can be used if it is there and has a visible character, and the credentials
can be had when both of their entries can be used.
-/

namespace VenueGateway.Secrets

variable {secrets : Secrets} {name value : String} {credentials : Credentials}

theorem required_eq_ok_iff :
    secrets.required name = .ok value ↔
      secrets.get? name = some value ∧ Text.isBlankText value = false := by
  rw [required]
  cases secrets.get? name with
  | none => exact ⟨nofun, nofun⟩
  | some found =>
    dsimp only
    split
    · rename_i blank
      refine ⟨nofun, ?_⟩
      rintro ⟨⟨⟩, visible⟩
      rw [blank] at visible
      cases visible
    · rename_i visible
      rw [Bool.not_eq_true] at visible
      constructor
      · rintro ⟨⟩
        exact ⟨rfl, visible⟩
      · rintro ⟨⟨⟩, -⟩
        rfl

/-- An entry with a visible character can be used. -/
theorem required_isOk_iff :
    (∃ value, secrets.required name = .ok value) ↔
      ∃ value, secrets.get? name = some value ∧ Text.Visible value := by
  simp only [required_eq_ok_iff, Text.isBlankText_eq_false_iff]

/-- An entry that cannot be used is missing. -/
theorem required_cases (secrets : Secrets) (name : String) :
    (∃ value, secrets.required name = .ok value) ∨
      secrets.required name = .error (missing name) := by
  rw [required]
  cases secrets.get? name with
  | none => exact .inr rfl
  | some found =>
    dsimp only
    split
    · exact .inr rfl
    · exact .inl ⟨found, rfl⟩

theorem credentials_eq_ok_iff :
    secrets.credentials = .ok credentials ↔
      secrets.required keyName = .ok credentials.key ∧
        secrets.required secretName = .ok credentials.secret := by
  rw [Secrets.credentials]
  constructor
  · intro found
    obtain ⟨key, keyed, found⟩ := bind_eq_ok_iff.mp found
    obtain ⟨secret, kept, made⟩ := bind_eq_ok_iff.mp found
    cases made
    exact ⟨keyed, kept⟩
  · rintro ⟨keyed, kept⟩
    exact bind_eq_ok_iff.mpr ⟨_, keyed, bind_eq_ok_iff.mpr ⟨_, kept, rfl⟩⟩

theorem credentials_isOk_iff :
    (∃ credentials, secrets.credentials = .ok credentials) ↔
      (∃ key, secrets.required keyName = .ok key) ∧
        ∃ secret, secrets.required secretName = .ok secret := by
  simp only [credentials_eq_ok_iff]
  constructor
  · rintro ⟨credentials, keyed, kept⟩
    exact ⟨⟨_, keyed⟩, _, kept⟩
  · rintro ⟨⟨key, keyed⟩, secret, kept⟩
    exact ⟨⟨key, secret⟩, keyed, kept⟩

/-- Without credentials an entry is missing. -/
theorem credentials_eq_error {failure : Failure} (failed : secrets.credentials = .error failure) :
    ∃ name, failure = missing name := by
  have absent : ∀ name, secrets.required name = .error failure → failure = missing name := by
    intro name failed
    rcases secrets.required_cases name with ⟨value, usable⟩ | lacks
    · rw [usable] at failed
      cases failed
    · rw [lacks] at failed
      exact (Except.error.inj failed).symm
  rw [Secrets.credentials] at failed
  rcases bind_eq_error_iff.mp failed with failed | ⟨key, -, failed⟩
  · exact ⟨_, absent _ failed⟩
  · rcases bind_eq_error_iff.mp failed with failed | ⟨_, _, ⟨⟩⟩
    exact ⟨_, absent _ failed⟩

/-- Credentials are visible, and so not empty. -/
theorem credentials_ne_empty (found : secrets.credentials = .ok credentials) :
    credentials.key ≠ "" ∧ credentials.secret ≠ "" := by
  have visible : ∀ {name value : String}, secrets.required name = .ok value → value ≠ "" := by
    rintro name _ usable rfl
    cases (required_eq_ok_iff.mp usable).2
  obtain ⟨keyed, kept⟩ := credentials_eq_ok_iff.mp found
  exact ⟨visible keyed, visible kept⟩

end VenueGateway.Secrets
