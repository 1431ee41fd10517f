import VenueGateway.Json.Shape
import VenueGateway.Settings.Basic

/-! # Settings as JSON

Settings are written with every member, and read from objects in which members may be absent: what
is absent has its standard value. Secrets and entries are objects of strings whatever their names.
-/

namespace VenueGateway

namespace NetworkSettings

def json (network : NetworkSettings) : Json :=
  .object [("connection_timeout_seconds", .int network.timeoutSeconds.val),
    ("non_fatal_http_status_codes",
      .arr (network.transientStatuses.map fun status => .int status.val)),
    ("non_fatal_error_messages", .arr (network.transientFragments.map Json.str))]

def fields : Json.Fields NetworkSettings :=
  (((Json.Fields.done mk).andThen
    (.field 0 "connection_timeout_seconds" (.natBelow UInt64.size "u64")
      (some standard.timeoutSeconds))).andThen
    (.field 1 "non_fatal_http_status_codes" (.list (.natBelow 65536 "u16"))
      (some standard.transientStatuses))).andThen
    (.field 2 "non_fatal_error_messages" (.list .string) (some standard.transientFragments))

def shape : Json.Shape NetworkSettings := .record "NetworkConfig" 3 fields

end NetworkSettings

namespace VenueSettings

def json (settings : VenueSettings) : Json :=
  .object [("authentication", .ofMap Json.str settings.secrets), ("network", settings.network.json),
    ("other", .ofMap Json.str settings.entries)]

def fields : Json.Fields VenueSettings :=
  (((Json.Fields.done mk).andThen
    (.field 0 "authentication" (.map .string) (some standard.secrets))).andThen
    (.field 1 "network" NetworkSettings.shape (some standard.network))).andThen
    (.field 2 "other" (.map .string) (some standard.entries))

def shape : Json.Shape VenueSettings := .record "ExchangeConfig" 3 fields

end VenueSettings

end VenueGateway
