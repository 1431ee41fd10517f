import VenueGateway.Json.Reader
import VenueGateway.Json.Shape

/-! # Envelopes

Every venue wraps its replies in an object with a flag for success, a message and a result, under
names of its own. A rejected reply has no result whatever its member holds; an accepted one always
has. Members with other names are ignored.
-/

namespace VenueGateway

/-- The names of the members of an envelope. -/
structure EnvelopeNames where
  success : String
  message : String
  result : String
deriving DecidableEq

def EnvelopeNames.standard : EnvelopeNames := ⟨"success", "message", "result"⟩

/-- An envelope that was opened. -/
structure Envelope (α : Type) where
  success : Bool
  message : Option String
  result : Option α
deriving DecidableEq

namespace Envelope

/-- Why a body is not an envelope. -/
inductive DecodeError
  | malformed (cause : Json.SyntaxError)
  | notAnObject
  | missingSuccess (name : String)
  | missingResult (name : String)
  | invalidResult (name : String) (cause : Json.ShapeError)
deriving DecidableEq

def DecodeError.message : DecodeError → String
  | malformed cause => "Payload is not valid JSON: " ++ cause.message
  | notAnObject => "Payload is not a JSON object"
  | missingSuccess name => "Missing or non-boolean '" ++ name ++ "' field"
  | missingResult name => "Missing '" ++ name ++ "' field on successful response"
  | invalidResult name cause => "Unexpected '" ++ name ++ "' shape: " ++ cause.message

/-- The flag, the message, and the members that are left once the message is taken out. -/
structure Opened where
  success : Bool
  message : Option String
  members : List (String × Json)

/-- A message counts only if it is a string and not empty. -/
def messageOf : Option Json → Option String
  | some (.str text) => if text.isEmpty then none else some text
  | _ => none

def openBody (names : EnvelopeNames) (payload : String) : Except DecodeError Opened :=
  match Json.read payload with
  | .error cause => .error (.malformed cause)
  | .ok (.obj members) =>
    match (Entries.find? names.success members).bind Json.asBool? with
    | some success =>
      .ok ⟨success, messageOf (Entries.find? names.message members),
        Entries.erase names.message members⟩
    | none => .error (.missingSuccess names.success)
  | .ok _ => .error .notAnObject

/-- The result of an accepted reply, by its shape. -/
def resultOf {α : Type} (names : EnvelopeNames) (shape : Json.Shape α)
    (members : List (String × Json)) : Except DecodeError α :=
  match Entries.find? names.result members with
  | none | some .null => .error (.missingResult names.result)
  | some value => (shape value).mapError (.invalidResult names.result)

/-- The envelope of a body with a result of a given shape. -/
def decode {α : Type} (names : EnvelopeNames) (shape : Json.Shape α) (payload : String) :
    Except DecodeError (Envelope α) := do
  let opened ← openBody names payload
  if opened.success then
    return ⟨true, opened.message, some (← resultOf names shape opened.members)⟩
  else return ⟨false, opened.message, none⟩

/-- The envelope of a body whose result does not matter. -/
def decodeFlag (names : EnvelopeNames) (payload : String) : Except DecodeError (Envelope Unit) := do
  let opened ← openBody names payload
  return ⟨opened.success, opened.message, if opened.success then some () else none⟩

end Envelope

end VenueGateway
