import VenueGateway.Proofs.Directory.Creation
import VenueGateway.Proofs.Settings.Override
import VenueGateway.Settings.Document

/-! # From a document to an adapter

A document is loaded, the environment is asked for the credentials of the venue that it names, and an
adapter is made of what comes out. The adapter acts for the credentials of the environment where it has
some and for those of the document otherwise, the key and the secret each on its own.

The environment is asked by the name as it is written, but adapters are found by the trimmed name. A
name with blanks around it therefore finds its adapter and not its variables.
-/

namespace VenueGateway

namespace SettingsDocument

variable {document : SettingsDocument}

/-- A document that was loaded from a text, by itself or as the content of a file. -/
def Loads (text : String) (document : SettingsDocument) : Prop :=
  read text = .ok document ∨ ∃ path, ofContent path (some text) = .ok document

/-- A document that was loaded, after the environment was asked for its venue. -/
structure Prepared (environment : Environment) (document prepared : SettingsDocument) : Prop where
  venue : prepared.venue = document.venue ∧ Text.Visible prepared.venue
  market : prepared.market = document.market ∧ Text.Visible prepared.market
  timeout : 1 ≤ prepared.settings.network.timeoutSeconds.val
  network : prepared.settings.network = document.settings.network
  entries : prepared.settings.entries = document.settings.entries
  account : ∀ name nonces client, Directory.create name prepared.settings nonces = .ok client →
    ∃ key secret,
      (environment.offer (Text.upper document.venue ++ "_KEY")).or
        (document.settings.secrets.get? "key") = some key ∧
      (environment.offer (Text.upper document.venue ++ "_SECRET")).or
        (document.settings.secrets.get? "secret") = some secret ∧
      client.ActsFor ((document.settings.entries.get? "base-url").getD Bittrex.standardBase)
        ⟨key, secret⟩

theorem defect?_eq_none (sound : document.defect? = none) :
    Text.Visible document.venue ∧ Text.Visible document.market ∧
      1 ≤ document.settings.network.timeoutSeconds.val := by
  rw [defect?] at sound
  split at sound
  · cases sound
  · rename_i venue
    split at sound
    · cases sound
    · rename_i market
      split at sound
      · cases sound
      · rename_i timeout
        rw [Bool.not_eq_true, Text.isBlankText_eq_false_iff] at venue market
        exact ⟨venue, market, Nat.one_le_iff_ne_zero.mpr timeout⟩

theorem checked_eq_ok {loaded : SettingsDocument} (checked : document.checked = .ok loaded) :
    document = loaded ∧ loaded.defect? = none := by
  rw [SettingsDocument.checked] at checked
  split at checked
  · cases checked
  · rename_i sound
    cases checked
    exact ⟨rfl, sound⟩

/-- What is loaded is what the text says, and has no defect. -/
theorem Loads.stated {text : String} (loads : Loads text document) :
    (Yaml.Document.read? text).bind ofYaml? = some document ∧ document.defect? = none := by
  rcases loads with loaded | ⟨path, loaded⟩
  · rw [read] at loaded
    split at loaded
    · rename_i said
      obtain ⟨rfl, sound⟩ := checked_eq_ok loaded
      exact ⟨said, sound⟩
    · cases loaded
  · rw [ofContent] at loaded
    split at loaded
    · rename_i said
      obtain ⟨rfl, sound⟩ := checked_eq_ok loaded
      exact ⟨said, sound⟩
    · cases loaded

theorem prepared_override (sound : document.defect? = none) (environment : Environment) :
    Prepared environment document (document.override environment) := by
  obtain ⟨venue, market, timeout⟩ := defect?_eq_none sound
  refine ⟨⟨rfl, venue⟩, ⟨rfl, market⟩, timeout, rfl, rfl, ?account⟩
  case account =>
    intro name nonces client made
    obtain ⟨key, secret, keyed, kept, acts⟩ := (Directory.fits_of_create made).account
    have overridden := document.settings.secrets.overridden_override environment document.venue
    exact ⟨key, secret, overridden.key.symm.trans keyed, overridden.secret.symm.trans kept, acts⟩

/-- The environment replaces the key and the secret and nothing else, as often as it is asked and
however the letters of the owner are written; and a document that was loaded stays as it is but for
them, so that its adapter acts for the credentials of the environment before those of the document. -/
theorem override_prepares :
    (∀ (environment : Environment) (owner : String) (secrets : Secrets),
      Secrets.Overridden environment owner secrets (secrets.override environment owner) ∧
      (secrets.override environment owner).override environment owner =
        secrets.override environment owner ∧
      ∀ other, Text.sameIgnoringCase owner other = true →
        secrets.override environment owner = secrets.override environment other) ∧
    ∀ (text : String) (document : SettingsDocument) (environment : Environment),
      Loads text document →
      (Yaml.Document.read? text).bind ofYaml? = some document ∧
        Prepared environment document (document.override environment) := by
  constructor
  · intro environment owner secrets
    refine ⟨Secrets.overridden_override .., Secrets.override_override .., ?_⟩
    intro other same
    have letters : Text.upper owner = Text.upper other :=
      Text.upper_of_lower_eq (Text.sameIgnoringCase_iff.mp same)
    exact Secrets.override_congr letters environment secrets
  · intro text document environment loads
    obtain ⟨stated, sound⟩ := loads.stated
    exact ⟨stated, prepared_override sound environment⟩

/-- A document that writes its venue with a capital, and has a network of its own. -/
def capitalText : String :=
  "exchange: Bittrex\nmarket: BTC-LTC\nconfig:\n  authentication:\n    key: file-key\n" ++
  "    secret: file-secret\n  network:\n    connection_timeout_seconds: 5\n" ++
  "    non_fatal_http_status_codes: [500]\n    non_fatal_error_messages: [THROTTLED]\n" ++
  "  other:\n    buy-fee: 0.25\n    sell-fee: 0.25\n"

def capitalDocument : SettingsDocument where
  venue := "Bittrex"
  market := "BTC-LTC"
  settings :=
    { Bittrex.plainSettings with
      secrets := .ofList [("key", "file-key"), ("secret", "file-secret")]
      network := ⟨⟨5, by decide⟩, [⟨500, by decide⟩], ["THROTTLED"]⟩ }

/-- An environment with a key, and with a secret that is empty. -/
def keyEnvironment : Environment
  | "BITTREX_KEY" => some "env-key"
  | "BITTREX_SECRET" => some ""
  | _ => none

/-- The key comes from the environment, and the secret and the network from the document. -/
theorem override_prepares_capital :
    Loads capitalText capitalDocument ∧
      (capitalDocument.override keyEnvironment).settings.network =
        ⟨⟨5, by decide⟩, [⟨500, by decide⟩], ["THROTTLED"]⟩ ∧
      ∃ client, Directory.create "Bittrex" (capitalDocument.override keyEnvironment).settings ⟨7⟩ =
          .ok client ∧
        client.ActsFor Bittrex.standardBase ⟨"env-key", "file-secret"⟩ := by
  have loads : Loads capitalText capitalDocument := .inl (by decide +kernel)
  obtain ⟨client, made⟩ : ∃ client, Directory.create "Bittrex"
      (capitalDocument.override keyEnvironment).settings ⟨7⟩ = .ok client := ⟨_, rfl⟩
  obtain ⟨-, prepared⟩ := override_prepares.2 capitalText capitalDocument keyEnvironment loads
  obtain ⟨key, secret, keyed, kept, acts⟩ := prepared.account _ _ client made
  cases keyed
  cases kept
  exact ⟨loads, prepared.network, client, made, acts⟩

end SettingsDocument

/-! ## Names as they are written -/

namespace Directory

variable {name : String}

/-- A name that finds the adapter finds its variables exactly if there are no blanks around it. -/
theorem override_spelled_iff (known : isBittrex name = true) :
    (∀ (environment : Environment) (secrets : Secrets),
      secrets.override environment name = secrets.override environment Bittrex.shortName) ↔
        Text.trim name = name := by
  have letters : Text.lower (Text.trim name) = Text.lower Bittrex.shortName :=
    (of_decide_eq_true known).trans (by decide)
  rw [Secrets.override_eq_iff, ← Text.upper_of_lower_eq letters, ← Text.upper_trim_eq_iff]
  exact eq_comm

/-- A capital in the name does not matter. -/
theorem override_spelled_capital :
    isBittrex "BitTrex" = true ∧ ∀ (environment : Environment) (secrets : Secrets),
      secrets.override environment "BitTrex" = secrets.override environment "bittrex" := by
  have known : isBittrex "BitTrex" = true := by decide
  exact ⟨known, (override_spelled_iff known).mpr (by decide)⟩

/-- A blank in front of the name does. -/
theorem override_spelled_blank :
    isBittrex " bittrex" = true ∧ Text.Visible " bittrex" ∧
      (SettingsDocument.capitalDocument.settings.secrets.override SettingsDocument.keyEnvironment
        " bittrex").get? "key" = some "file-key" ∧
      (SettingsDocument.capitalDocument.settings.secrets.override SettingsDocument.keyEnvironment
        "bittrex").get? "key" = some "env-key" := by
  refine ⟨by decide, ⟨'b', by decide, by decide⟩, by decide +kernel, by decide +kernel⟩

end Directory

end VenueGateway
