import VenueGateway.Decimal.Reader
import VenueGateway.Instant.Reader
import VenueGateway.Json.Basic
import VenueGateway.Text.Quoted

/-! # Reading domain values out of JSON values

A shape reads a JSON value as a value of a domain type, or says what it found and what it expected.
Records are read from objects by name and from arrays by position. Of several faults in an object
the one under the least name is reported, then the first field that is missing; in an array the
first.
-/

namespace VenueGateway.Json

/-- Why a JSON value does not have the expected shape. -/
inductive ShapeError
  | invalidType (found expected : String)
  | invalidValue (found expected : String)
  | missingField (name : String)
  | invalidLength (length : Nat) (expected : String)
  | unknownVariant (found : String) (variants : List String)
  | unreadableInstant (cause : Instant.ReadError)
deriving DecidableEq

def backquoted (s : String) : String := "\x60" ++ s ++ "\x60"

def ShapeError.message : ShapeError → String
  | invalidType found expected => "invalid type: " ++ found ++ ", expected " ++ expected
  | invalidValue found expected => "invalid value: " ++ found ++ ", expected " ++ expected
  | missingField name => "missing field " ++ backquoted name
  | invalidLength length expected =>
    "invalid length " ++ toString length ++ ", expected " ++ expected
  | unknownVariant found variants =>
    "unknown variant " ++ backquoted found ++ ", expected " ++
      " or ".intercalate (variants.map backquoted)
  | unreadableInstant cause => cause.message

/-- What a value is called in a message. -/
def found : Json → String
  | .null => "null"
  | .bool value => "boolean " ++ backquoted (if value then "true" else "false")
  | .int value => "integer " ++ backquoted (toString value)
  | .float value => "floating point " ++ backquoted value.text
  | .str value => "string " ++ Text.quoted value
  | .arr _ => "sequence"
  | .obj _ => "map"

/-- A reader of one type out of JSON values. -/
abbrev Shape (α : Type) := Json → Except ShapeError α

namespace Shape

variable {α β : Type}

def wrongType (expected : String) (value : Json) : Except ShapeError α :=
  .error (.invalidType value.found expected)

def any : Shape Json := .ok

def string : Shape String
  | .str value => .ok value
  | value => wrongType "a string" value

def bool : Shape Bool
  | .bool value => .ok value
  | value => wrongType "a boolean" value

/-- A natural number below a limit, under the name of its kind. -/
def natBelow (limit : Nat) (kind : String) : Shape (Fin limit)
  | .int value =>
    if h : 0 ≤ value ∧ value < limit then .ok ⟨value.toNat, by omega⟩
    else .error (.invalidValue (found (.int value)) kind)
  | value => wrongType kind value

def decimalName : String := "a Decimal type representing a fixed-point number"

/-- An amount, from a whole number, from the shortest text of a double, or from a string. -/
def decimal : Shape Decimal
  | .int value =>
    match Decimal.ofParts? (value < 0) value.natAbs 0 with
    | some x => .ok x
    | none => .error (.invalidValue (found (.int value)) decimalName)
  | .float value =>
    match Decimal.readChars value.plainText with
    | .ok x => .ok x
    | .error _ => .error (.invalidValue (found (.float value)) decimalName)
  | .str value =>
    match Decimal.read value with
    | .ok x => .ok x
    | .error _ => .error (.invalidValue (found (.str value)) decimalName)
  | value => wrongType decimalName value

/-- An instant, from a string with an offset. -/
def instant : Shape Instant
  | .str value => (Instant.readWithOffset value).mapError .unreadableInstant
  | value => wrongType "an RFC 3339 formatted date and time string" value

/-- The items of an array, read from first to last. -/
def list (item : Shape α) : Shape (List α)
  | .arr items => items.mapM item
  | value => wrongType "a sequence" value

/-- The members of an object, read in the order of their names. -/
def map (member : Shape α) : Shape (NameMap α)
  | .obj members =>
    (members.mapM fun entry => (member entry.2).map (entry.1, ·)).map NameMap.ofList
  | value => wrongType "a map" value

end Shape

/-! ## Records -/

/-- Where a field of a record is at fault. -/
inductive FieldPlace
  | member (name : String)
  | missing
  | position
deriving DecidableEq

/-- A fault in a record. -/
structure FieldFault where
  place : FieldPlace
  cause : ShapeError
deriving DecidableEq

/-- Whether the fault of a later field is reported instead of that of an earlier one: a bad member
is reported before a missing one, and before a bad member with a greater name. -/
def FieldFault.goesBefore (later earlier : FieldFault) : Bool :=
  match later.place, earlier.place with
  | .member name, .member earlierName => name < earlierName
  | .member _, .missing => true
  | _, _ => false

/-- What a record is read from: the members of an object, or the items of an array together with the
words for the length that was expected. -/
inductive RecordSource
  | members (entries : List (String × Json))
  | items (items : List Json) (expected : String)

/-- A reader of some fields of a record. -/
abbrev Fields (α : Type) := RecordSource → Except FieldFault α

namespace Fields

variable {α β : Type}

def done (value : α) : Fields α := fun _ => .ok value

/-- A field by its position in the declaration and its name. A field with a fallback may be
absent. -/
def field (position : Nat) (name : String) (shape : Shape α) (fallback : Option α) : Fields α
  | .members entries =>
    match Entries.find? name entries with
    | some value => (shape value).mapError fun cause => ⟨.member name, cause⟩
    | none =>
      match fallback with
      | some value => .ok value
      | none => .error ⟨.missing, .missingField name⟩
  | .items items expected =>
    match items[position]? with
    | some value => (shape value).mapError fun cause => ⟨.position, cause⟩
    | none =>
      match fallback with
      | some value => .ok value
      | none => .error ⟨.position, .invalidLength position expected⟩

/-- Read further fields; of two faults the one that goes before the other is reported. -/
def andThen (make : Fields (α → β)) (next : Fields α) : Fields β := fun source =>
  match make source, next source with
  | .ok f, .ok value => .ok (f value)
  | .error earlier, .ok _ => .error earlier
  | .ok _, .error later => .error later
  | .error earlier, .error later => .error (if later.goesBefore earlier then later else earlier)

end Fields

def elementCount (count : Nat) : String :=
  toString count ++ if count = 1 then " element" else " elements"

/-- A record with a name and a number of fields. -/
def Shape.record {α : Type} (name : String) (count : Nat) (fields : Fields α) : Shape α
  | .obj members => (fields (.members members)).mapError (·.cause)
  | .arr items => do
    let expected := "struct " ++ name ++ " with " ++ elementCount count
    let value ← (fields (.items items expected)).mapError (·.cause)
    if count < items.length then
      .error (.invalidLength items.length "fewer elements in array")
    else .ok value
  | value => Shape.wrongType ("struct " ++ name) value

end VenueGateway.Json
