import VenueGateway.Directory
import VenueGateway.Json.Writer
import VenueGateway.Settings.Document
import VenueGateway.Survey

/-! # The command line

Reads a settings document, `config.yaml` unless another path is given, and prints a survey of the
market that it names. The program has no network of its own, so the survey ends where a venue would
have to be reached; everything before that is checked.
-/

namespace VenueGateway.CommandLine

def standardPath : String := "config.yaml"

def readDocument (path : String) : IO (Except Trouble SettingsDocument) := do
  match ← (IO.FS.readFile path).toBaseIO with
  | .ok content => return SettingsDocument.ofContent path (some content)
  | .error (.noFileOrDirectory ..) => return SettingsDocument.ofContent path none
  | .error cause => return .error (.file (toString cause))

/-- The variables of the environment that may replace secrets of a venue. -/
def readEnvironment (venue : String) : IO Environment := do
  let names := [Secrets.keyName, Secrets.secretName].map (Secrets.variableName venue)
  let values ← names.mapM fun name => do return (name, ← IO.getEnv name)
  return fun name => (values.find? (·.1 = name)).bind Prod.snd

/-- The survey that a document asks for. Its calls are anonymous, so no nonce is taken. -/
def surveyOf (document : SettingsDocument) : Except Abort Json :=
  match Directory.create document.venue document.settings .zero with
  | .error failure => .error (.failure failure)
  | .ok client => Survey.run client Directory.offline document.market

end VenueGateway.CommandLine

open VenueGateway CommandLine

/-- Survey the market of the settings document at the first argument. -/
def main (arguments : List String) : IO UInt32 := do
  match ← readDocument (arguments.head?.getD standardPath) with
  | .error trouble =>
    IO.eprintln ("[ERROR] Configuration failed: " ++ trouble.message)
    return 1
  | .ok document =>
    let environment ← readEnvironment document.venue
    match surveyOf (document.override environment) with
    | .error abort =>
      IO.eprintln ("Error: " ++ abort.message)
      return 1
    | .ok report =>
      IO.println report.layOut
      return 0
