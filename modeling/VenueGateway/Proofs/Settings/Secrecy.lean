import VenueGateway.Proofs.NameMap
import VenueGateway.Proofs.Settings.Secrets
import VenueGateway.Proofs.Text.Listing

/-! # What a secret changes of settings

Settings that differ in the secret alone have credentials with the same key or miss the same entry,
and no text that settings or credentials are shown as tells them apart.
-/

namespace VenueGateway

/-- Settings that differ at most in the value of the secret, and that both have a usable one if one of
them has. -/
structure VenueSettings.SameButSecret (settings other : VenueSettings) : Prop where
  secrets : Entries.strikeOut Secrets.secretName settings.secrets.entries =
    Entries.strikeOut Secrets.secretName other.secrets.entries
  usable : (∃ secret, settings.secrets.required Secrets.secretName = .ok secret) ↔
    ∃ secret, other.secrets.required Secrets.secretName = .ok secret
  network : settings.network = other.network
  entries : settings.entries = other.entries

namespace VenueSettings.SameButSecret

variable {settings other : VenueSettings}

theorem refl (settings : VenueSettings) : settings.SameButSecret settings := ⟨rfl, Iff.rfl, rfl, rfl⟩

theorem names (same : settings.SameButSecret other) :
    settings.secrets.names = other.secrets.names := by
  rw [NameMap.names, NameMap.names,
    ← Entries.map_fst_strikeOut Secrets.secretName settings.secrets.entries,
    ← Entries.map_fst_strikeOut Secrets.secretName other.secrets.entries, same.secrets]

theorem required_key (same : settings.SameButSecret other) :
    settings.secrets.required Secrets.keyName = other.secrets.required Secrets.keyName := by
  have different : Secrets.keyName ≠ Secrets.secretName := by decide
  have found : settings.secrets.get? Secrets.keyName = other.secrets.get? Secrets.keyName := by
    rw [NameMap.get?, NameMap.get?, ← Entries.find?_strikeOut different settings.secrets.entries,
      ← Entries.find?_strikeOut different other.secrets.entries, same.secrets]
  rw [Secrets.required, Secrets.required, found]

/-- Both have no credentials, for the same reason, or both have them under the same key. -/
theorem credentials_cases (same : settings.SameButSecret other) :
    (∃ failure, settings.secrets.credentials = .error failure ∧
        other.secrets.credentials = .error failure) ∨
      ∃ key secret changed, settings.secrets.credentials = .ok ⟨key, secret⟩ ∧
        other.secrets.credentials = .ok ⟨key, changed⟩ ∧ secret ≠ "" ∧ changed ≠ "" := by
  have visible : ∀ {secrets : Secrets} {value : String},
      secrets.required Secrets.secretName = .ok value → value ≠ "" := by
    intro secrets value found
    rintro rfl
    have notBlank := (Secrets.required_eq_ok_iff.mp found).2
    revert notBlank
    decide
  have keyed := same.required_key
  rcases settings.secrets.required_cases Secrets.keyName with ⟨key, found⟩ | missing
  · rcases settings.secrets.required_cases Secrets.secretName with ⟨secret, kept⟩ | unkept
    · obtain ⟨changed, alsoKept⟩ := same.usable.mp ⟨secret, kept⟩
      rw [found] at keyed
      refine .inr ⟨key, secret, changed, ?_, ?_, visible kept, visible alsoKept⟩
      · exact Secrets.credentials_eq_ok_iff.mpr ⟨found, kept⟩
      · exact Secrets.credentials_eq_ok_iff.mpr ⟨keyed.symm, alsoKept⟩
    · have alsoUnkept : other.secrets.required Secrets.secretName =
          .error (Secrets.missing Secrets.secretName) := by
        rcases other.secrets.required_cases Secrets.secretName with kept | unkept
        · obtain ⟨secret, kept⟩ := same.usable.mpr kept
          rw [unkept] at kept
          cases kept
        · exact unkept
      refine .inl ⟨Secrets.missing Secrets.secretName, ?_, ?_⟩
      · rw [Secrets.credentials, found, unkept]
        rfl
      · rw [Secrets.credentials, ← keyed, found, alsoUnkept]
        rfl
  · refine .inl ⟨Secrets.missing Secrets.keyName, ?_, ?_⟩
    · rw [Secrets.credentials, missing]
      rfl
    · rw [Secrets.credentials, ← keyed, missing]
      rfl

end VenueSettings.SameButSecret

/-- The diagnostic texts of settings and of the credentials in them. -/
def VenueSettings.texts (listing : Text.Listing) (settings : VenueSettings) : List String :=
  [settings.shown listing, settings.secrets.shown, settings.network.shown,
    shownEntries listing settings.entries] ++
    match settings.secrets.credentials with
    | .ok credentials => [credentials.shown]
    | .error _ => []

/-- No text of settings shows the value of the secret. -/
theorem VenueSettings.SameButSecret.texts {settings other : VenueSettings} (same : settings.SameButSecret other)
    (listing : Text.Listing) : settings.texts listing = other.texts listing := by
  have secrets : settings.secrets.shown = other.secrets.shown := by
    rw [Secrets.shown, Secrets.shown, same.names]
  have shown : settings.shown listing = other.shown listing := by
    rw [VenueSettings.shown, VenueSettings.shown, secrets, same.network, same.entries]
  rw [VenueSettings.texts, VenueSettings.texts, shown, secrets, same.network, same.entries]
  rcases same.credentials_cases with
    ⟨failure, failed, alsoFailed⟩ | ⟨key, secret, changed, found, alsoFound, -, -⟩
  · rw [failed, alsoFailed]
  · rw [found, alsoFound]
    rfl

end VenueGateway
