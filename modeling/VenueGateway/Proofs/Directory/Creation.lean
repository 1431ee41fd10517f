import VenueGateway.Directory
import VenueGateway.Proofs.Bittrex.Account
import VenueGateway.Proofs.Fees

/-! # Which settings make an adapter

`Suffices` says of a name and of settings what an adapter needs. It is enough and not less than that:
of everything else there is a failure of the configuration. The credentials of an adapter are those of
the settings, and they are never found empty on the way.
-/

namespace VenueGateway

/-- A channel is established for every key and secret that are not empty. -/
theorem Channel.establish_isOk {credentials : Credentials} (key : credentials.key ≠ "")
    (secret : credentials.secret ≠ "") (profile : Profile) (network : NetworkSettings)
    (nonces : NonceCounter) :
    ∃ channel, Channel.establish profile credentials network nonces = .ok channel := by
  have keyed : credentials.key.isEmpty = false := by simpa using key
  rw [Channel.establish, keyed, Signer.ofSecret, dif_neg secret]
  exact ⟨_, rfl⟩

namespace Bittrex.Client

variable {client : Client} {settings : VenueSettings} {nonces : NonceCounter}

/-- Where there are credentials, only the fees can be missing. -/
theorem sessionFor_of_credentials (client : Client) (nonces : NonceCounter)
    {credentials : Credentials} (found : settings.secrets.credentials = .ok credentials) :
    ∃ channel,
      client.sessionFor settings nonces =
        ((Fees.ofEntries settings.entries).mapError Fees.Defect.failure).map (⟨channel, ·⟩) := by
  obtain ⟨keyed, kept⟩ := Secrets.credentials_ne_empty found
  obtain ⟨channel, established⟩ := Channel.establish_isOk keyed kept
    (profile (client.baseFor settings)) settings.network nonces
  refine ⟨channel, ?_⟩
  simp only [sessionFor, found, established, bind, Except.bind]
  cases Fees.ofEntries settings.entries <;> rfl

/-- A session needs credentials and fees. -/
theorem sessionFor_isOk_iff :
    (∃ session, client.sessionFor settings nonces = .ok session) ↔
      (∃ credentials, settings.secrets.credentials = .ok credentials) ∧
        ∃ fees, Fees.ofEntries settings.entries = .ok fees := by
  constructor
  · rintro ⟨session, asked⟩
    obtain ⟨setUpFor, -⟩ := setUpFor_of_sessionFor asked
    exact ⟨⟨_, setUpFor.credentials⟩, _, setUpFor.fees⟩
  · rintro ⟨⟨credentials, found⟩, fees, read⟩
    obtain ⟨channel, asked⟩ := client.sessionFor_of_credentials nonces found
    exact ⟨⟨channel, fees⟩, by rw [asked, read]; rfl⟩

/-- Without a session an entry is missing, or a fee cannot be used. -/
theorem sessionFor_eq_error {failure : Failure}
    (failed : client.sessionFor settings nonces = .error failure) :
    (∃ name, failure = Secrets.missing name) ∨ ∃ defect, failure = Fees.Defect.failure defect := by
  cases found : settings.secrets.credentials with
  | error missing =>
    have same : client.sessionFor settings nonces = .error missing := by
      rw [sessionFor, found]
      rfl
    rw [failed] at same
    cases same
    exact .inl (Secrets.credentials_eq_error found)
  | ok credentials =>
    obtain ⟨channel, asked⟩ := client.sessionFor_of_credentials nonces found
    rw [asked, map_eq_error_iff] at failed
    cases read : Fees.ofEntries settings.entries with
    | error defect =>
      rw [read] at failed
      exact .inr ⟨defect, (Except.error.inj failed).symm⟩
    | ok fees =>
      rw [read] at failed
      cases failed

/-- An adapter is made where the settings give a session, and refused as the session is. -/
theorem ofSettings_cases (settings : VenueSettings) (nonces : NonceCounter) :
    (∃ session, (new false).sessionFor settings nonces = .ok session ∧
        ofSettings settings nonces = .ok { new false with readiness := .ready session }) ∨
      ∃ failure, (new false).sessionFor settings nonces = .error failure ∧
        ofSettings settings nonces = .error failure := by
  have fresh : (new false).readiness = .uninitialized := rfl
  rcases setUp_of_fresh fresh settings nonces with ⟨session, asked, led⟩ | ⟨failure, asked, led⟩
  · exact .inl ⟨session, asked, by rw [ofSettings, led]⟩
  · exact .inr ⟨failure, asked, by rw [ofSettings, led]⟩

theorem ofSettings_isOk_iff :
    (∃ client, ofSettings settings nonces = .ok client) ↔
      ∃ session, (new false).sessionFor settings nonces = .ok session := by
  rcases ofSettings_cases settings nonces with ⟨session, asked, same⟩ | ⟨failure, failed, same⟩
  · rw [same, asked]
    exact ⟨fun _ => ⟨session, rfl⟩, fun _ => ⟨_, rfl⟩⟩
  · rw [same, failed]
    constructor <;> rintro ⟨_, ⟨⟩⟩

/-- An adapter serves the settings that it is made of. -/
theorem serves_ofSettings (made : ofSettings settings nonces = .ok client) :
    ∃ session, client.Serves ((new false).baseFor settings) settings session := by
  rcases ofSettings_cases settings nonces with ⟨session, asked, same⟩ | ⟨failure, -, refused⟩
  · rw [same] at made
    cases made
    exact ⟨session, rfl, (setUpFor_of_sessionFor asked).1⟩
  · rw [refused] at made
    cases made

end Bittrex.Client

namespace Directory

open Bittrex (Action)

/-- A name and settings that suffice for an adapter. -/
structure Suffices (name : String) (settings : VenueSettings) : Prop where
  served : Text.lower (Text.trim name) ∈ supported
  key : ∃ key, settings.secrets.get? "key" = some key ∧ Text.Visible key
  secret : ∃ secret, settings.secrets.get? "secret" = some secret ∧ Text.Visible secret
  buyFee : ∃ percent, settings.entries.get? "buy-fee" = some percent ∧ Fees.Percentage percent
  sellFee : ∃ percent, settings.entries.get? "sell-fee" = some percent ∧ Fees.Percentage percent

/-- A client that answers some fees, whatever is done with it. -/
def AnswersFees (client : Bittrex.Client) (buy sell : Decimal) : Prop :=
  ∀ (actions : List Action) (transport : Transport) (market : String),
    ((client.run actions).answer transport (.buyFee market)).outcome = .ok (.fee buy) ∧
      ((client.run actions).answer transport (.sellFee market)).outcome = .ok (.fee sell)

/-- An adapter as settings ask for it: for the credentials as they are written, and with the fees that
the percentages mean. -/
structure Fits (client : Bittrex.Client) (settings : VenueSettings) : Prop where
  account : ∃ key secret, settings.secrets.get? "key" = some key ∧
    settings.secrets.get? "secret" = some secret ∧
    client.ActsFor ((settings.entries.get? "base-url").getD Bittrex.standardBase) ⟨key, secret⟩
  fees : ∃ buyPercent sellPercent buy sell, settings.entries.get? "buy-fee" = some buyPercent ∧
    settings.entries.get? "sell-fee" = some sellPercent ∧
    Fees.readPercentage "buy-fee" buyPercent = .ok buy ∧
    Fees.readPercentage "sell-fee" sellPercent = .ok sell ∧ AnswersFees client buy sell

/-- A refusal by the configuration, other than those of an empty key and of an empty secret. -/
structure Refuses (failure : Failure) : Prop where
  configuration : ∃ detail, failure = .configuration detail
  not_emptyKey : failure ≠ Channel.emptyKey
  not_emptySecret : failure ≠ Signer.emptySecret

/-- What becomes of a name and settings. -/
structure Decided (name : String) (settings : VenueSettings) (nonces : NonceCounter) : Prop where
  created_iff : (∃ client, create name settings nonces = .ok client) ↔ Suffices name settings
  fits : ∀ client, create name settings nonces = .ok client → Fits client settings
  refused : ∀ failure, create name settings nonces = .error failure → Refuses failure

variable {name : String} {settings : VenueSettings} {nonces : NonceCounter}

theorem isBittrex_iff : isBittrex name = true ↔ Text.lower (Text.trim name) ∈ supported := by
  rw [isBittrex, decide_eq_true_eq, supported, List.mem_singleton]

/-- The settings give a session when they have credentials to be seen and fees to be charged. -/
theorem sessionFor_isOk_iff_entries :
    (∃ session, (Bittrex.Client.new false).sessionFor settings nonces = .ok session) ↔
      ((∃ key, settings.secrets.get? "key" = some key ∧ Text.Visible key) ∧
        ∃ secret, settings.secrets.get? "secret" = some secret ∧ Text.Visible secret) ∧
      (∃ percent, settings.entries.get? "buy-fee" = some percent ∧ Fees.Percentage percent) ∧
        ∃ percent, settings.entries.get? "sell-fee" = some percent ∧ Fees.Percentage percent := by
  rw [Bittrex.Client.sessionFor_isOk_iff, Secrets.credentials_isOk_iff, Fees.ofEntries_isOk_iff,
    Secrets.required_isOk_iff, Secrets.required_isOk_iff, Fees.readEntry_isOk_iff,
    Fees.readEntry_isOk_iff]
  rfl

theorem ofSettings_of_create {client : Bittrex.Client}
    (made : create name settings nonces = .ok client) :
    isBittrex name = true ∧ Bittrex.Client.ofSettings settings nonces = .ok client := by
  rw [create] at made
  split at made
  · rename_i known
    exact ⟨known, made⟩
  · cases made

theorem create_isOk_iff :
    (∃ client, create name settings nonces = .ok client) ↔ Suffices name settings := by
  constructor
  · rintro ⟨client, made⟩
    obtain ⟨known, ofSettings⟩ := ofSettings_of_create made
    have asked := Bittrex.Client.ofSettings_isOk_iff.mp ⟨client, ofSettings⟩
    obtain ⟨⟨key, secret⟩, buyFee, sellFee⟩ := sessionFor_isOk_iff_entries.mp asked
    exact ⟨isBittrex_iff.mp known, key, secret, buyFee, sellFee⟩
  · rintro ⟨served, key, secret, buyFee, sellFee⟩
    rw [create, if_pos (isBittrex_iff.mpr served), Bittrex.Client.ofSettings_isOk_iff]
    exact sessionFor_isOk_iff_entries.mpr ⟨⟨key, secret⟩, buyFee, sellFee⟩

/-- What is made acts for the credentials and answers the fees of its settings. -/
theorem fits_of_create {client : Bittrex.Client} (made : create name settings nonces = .ok client) :
    Fits client settings := by
  obtain ⟨session, serves⟩ := Bittrex.Client.serves_ofSettings (ofSettings_of_create made).2
  refine ⟨?account, ?fees⟩
  case account =>
    have named := serves.setUpFor.credentials
    obtain ⟨keyed, kept⟩ := Secrets.credentials_eq_ok_iff.mp named
    exact ⟨_, _, (Secrets.required_eq_ok_iff.mp keyed).1, (Secrets.required_eq_ok_iff.mp kept).1,
      serves.actsFor named⟩
  case fees =>
    obtain ⟨bought, sold⟩ := Fees.ofEntries_eq_ok_iff.mp serves.setUpFor.fees
    obtain ⟨buyPercent, buyFound, buyRead⟩ := Fees.readEntry_eq_ok_iff.mp bought
    obtain ⟨sellPercent, sellFound, sellRead⟩ := Fees.readEntry_eq_ok_iff.mp sold
    exact ⟨buyPercent, sellPercent, _, _, buyFound, sellFound, buyRead, sellRead, serves.fees⟩

/-- A refusal that begins with another letter than those of an empty key and of an empty secret. -/
theorem refuses_of_first {detail : String} (key : detail.toList.head? ≠ some 'A')
    (secret : detail.toList.head? ≠ some 'F') : Refuses (.configuration detail) := by
  refine ⟨⟨detail, rfl⟩, ?_, ?_⟩
  · intro same
    rw [Failure.configuration.inj same] at key
    exact key rfl
  · intro same
    rw [Failure.configuration.inj same] at secret
    exact secret rfl

theorem refuses_of_create {failure : Failure}
    (failed : create name settings nonces = .error failure) : Refuses failure := by
  rw [create] at failed
  split at failed
  · obtain ⟨session, -, same⟩ | ⟨cause, asked, same⟩ :=
      Bittrex.Client.ofSettings_cases settings nonces
    · rw [same] at failed
      cases failed
    · rw [same] at failed
      cases failed
      rcases Bittrex.Client.sessionFor_eq_error asked with ⟨entry, rfl⟩ | ⟨defect, rfl⟩
      · exact refuses_of_first (by simp) (by simp)
      · cases defect with
        | missing | unreadable | outOfRange =>
          exact refuses_of_first (by simp [Fees.Defect.message]) (by simp [Fees.Defect.message])
  · cases failed
    exact refuses_of_first (by simp) (by simp)

/-- Whether there is an adapter is decided by the name, the secrets and the fees alone. -/
theorem create_decided (name : String) (settings : VenueSettings) (nonces : NonceCounter) :
    Decided name settings nonces :=
  ⟨create_isOk_iff, fun _ made => fits_of_create made, fun _ failed => refuses_of_create failed⟩

/-- Settings whose credentials have blanks at their edges. -/
def edgedSettings : VenueSettings :=
  { Bittrex.plainSettings with secrets := .ofList [("key", " key"), ("secret", "secret\n")] }

/-- Blanks around the name do not matter, and blanks around the credentials are kept. -/
theorem create_decided_edged :
    ∃ client, create "\tBITTREX " edgedSettings ⟨7⟩ = .ok client ∧
      client.ActsFor Bittrex.standardBase ⟨" key", "secret\n"⟩ := by
  have decided : Decided "\tBITTREX " edgedSettings ⟨7⟩ := create_decided _ _ _
  have percentage : Fees.Percentage "0.25" := by
    apply (Fees.readPercentage_isOk_iff "buy-fee" "0.25").mp
    exact ⟨⟨false, 250000, 8, by decide, by decide⟩, by decide +kernel⟩
  obtain ⟨client, made⟩ := decided.created_iff.mpr
    ⟨by decide +kernel, ⟨_, rfl, 'k', by decide, by decide⟩, ⟨_, rfl, 's', by decide, by decide⟩,
      ⟨_, rfl, percentage⟩, ⟨_, rfl, percentage⟩⟩
  obtain ⟨key, secret, keyed, kept, acts⟩ := (decided.fits client made).account
  cases keyed
  cases kept
  exact ⟨client, made, acts⟩

end Directory

end VenueGateway
