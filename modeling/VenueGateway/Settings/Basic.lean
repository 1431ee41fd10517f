import VenueGateway.Credentials
import VenueGateway.NameMap
import VenueGateway.Text.Ascii
import VenueGateway.Text.Blank
import VenueGateway.Text.Listing

/-! # Settings

What an adapter is told before its first call: named secrets, how to treat the network, and free
entries of the venue's own. Secrets may be replaced from the environment of the process.
-/

namespace VenueGateway

/-- Named secrets, of which `key` and `secret` make the credentials. -/
abbrev Secrets := NameMap String

/-- The environment of a process, as the value of each variable that is set. -/
abbrev Environment := String → Option String

namespace Secrets

def keyName : String := "key"

def secretName : String := "secret"

/-- The failure of an entry that is absent or blank. -/
def missing (name : String) : Failure :=
  .configuration ("Missing '" ++ name ++ "' in authentication config")

/-- An entry with at least one visible character. -/
def required (secrets : Secrets) (name : String) : Except Failure String :=
  match secrets.get? name with
  | some value => if Text.isBlankText value then .error (missing name) else .ok value
  | none => .error (missing name)

def credentials (secrets : Secrets) : Except Failure Credentials := do
  let key ← secrets.required keyName
  let secret ← secrets.required secretName
  return ⟨key, secret⟩

def variableName (owner name : String) : String := Text.upper owner ++ "_" ++ Text.upper name

/-- Replace an entry by its environment variable, if that is set and not empty. -/
def overrideEntry (environment : Environment) (owner name : String) (secrets : Secrets) : Secrets :=
  match environment (variableName owner name) with
  | some value => if value.isEmpty then secrets else secrets.insert name value
  | none => secrets

/-- Replace the key and the secret by what the environment holds for their owner. -/
def override (environment : Environment) (owner : String) (secrets : Secrets) : Secrets :=
  overrideEntry environment owner secretName (overrideEntry environment owner keyName secrets)

/-- The secrets as shown in diagnostics: their names alone. -/
def shown (secrets : Secrets) : String :=
  Text.shownRecord "AuthenticationConfig"
    [("items", Text.bracketed (secrets.names.map Text.quoted))]

end Secrets

/-- How long to wait for the network, and which responses mean that another attempt can succeed. -/
structure NetworkSettings where
  timeoutSeconds : Fin UInt64.size
  transientStatuses : List (Fin 65536)
  transientFragments : List String
deriving DecidableEq

namespace NetworkSettings

def standard : NetworkSettings := ⟨30, [], []⟩

def shown (network : NetworkSettings) : String :=
  Text.shownRecord "NetworkConfig"
    [("connection_timeout_seconds", toString network.timeoutSeconds.val),
      ("non_fatal_http_status_codes",
        Text.bracketed (network.transientStatuses.map fun status => toString status.val)),
      ("non_fatal_error_messages", Text.bracketed (network.transientFragments.map Text.quoted))]

end NetworkSettings

/-- Everything one adapter needs. -/
structure VenueSettings where
  secrets : Secrets
  network : NetworkSettings
  entries : NameMap String
deriving DecidableEq

def VenueSettings.standard : VenueSettings := ⟨∅, .standard, ∅⟩

/-- Free entries as shown in diagnostics. Their order is not fixed. -/
def shownEntries (listing : Text.Listing) (entries : NameMap String) : String :=
  Text.shownRecord "OtherConfig"
    [("items", listing.braced (entries.entries.map fun entry =>
      Text.quoted entry.1 ++ ": " ++ Text.quoted entry.2))]

def VenueSettings.shown (listing : Text.Listing) (settings : VenueSettings) : String :=
  Text.shownRecord "ExchangeConfig"
    [("authentication", settings.secrets.shown), ("network", settings.network.shown),
      ("other", shownEntries listing settings.entries)]

/-- A settings document: which venue, which market, and the settings of the venue's adapter. -/
structure SettingsDocument where
  venue : String
  market : String
  settings : VenueSettings
deriving DecidableEq

namespace SettingsDocument

/-- Why a document that can be read cannot be used. -/
inductive Defect
  | blankVenue
  | blankMarket
  | noTimeout
deriving DecidableEq

def Defect.message : Defect → String
  | blankVenue => "Exchange name cannot be empty"
  | blankMarket => "Market cannot be empty"
  | noTimeout => "connection_timeout_seconds must be > 0"

def defect? (document : SettingsDocument) : Option Defect :=
  if Text.isBlankText document.venue then some .blankVenue
  else if Text.isBlankText document.market then some .blankMarket
  else if document.settings.network.timeoutSeconds.val = 0 then some .noTimeout
  else none

/-- Replace the secrets by what the environment holds for the venue. -/
def override (environment : Environment) (document : SettingsDocument) : SettingsDocument :=
  { document with
    settings := { document.settings with
      secrets := document.settings.secrets.override environment document.venue } }

end SettingsDocument

end VenueGateway
