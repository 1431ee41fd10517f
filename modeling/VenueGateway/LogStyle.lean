import VenueGateway.Settings.Basic

/-! # The style of the log

Logs are written as JSON unless the environment asks for text that is pleasant to read.
-/

namespace VenueGateway

/-- How log records are written. -/
inductive LogStyle
  | json
  | pretty
deriving DecidableEq

namespace LogStyle

/-- The style that a setting asks for. Anything but `pretty` means JSON. -/
def ofSetting : Option String → LogStyle
  | some value => if Text.lower (Text.trim value) = "pretty" then pretty else json
  | none => json

def environmentName : String := "LOG_FORMAT"

def ofEnvironment (environment : Environment) : LogStyle := ofSetting (environment environmentName)

end LogStyle

end VenueGateway
