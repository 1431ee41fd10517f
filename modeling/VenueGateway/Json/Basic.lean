import VenueGateway.Binary64.Shortest
import VenueGateway.NameMap

/-! # JSON values

Objects list their members in strictly increasing order of names, so a value has one form whatever
the order and repetition of names in its text. Numbers that fit in 64 bits, with or without a sign,
are whole; all others are doubles.
-/

namespace VenueGateway

/-- A JSON value. -/
inductive Json
  | null
  | bool (value : Bool)
  | int (value : Int)
  | float (value : Binary64)
  | str (value : String)
  | arr (items : List Json)
  | obj (members : List (String × Json))
deriving Inhabited

namespace Json

/-- An object with the given members; of repeated names the last one stays. -/
def object (members : List (String × Json)) : Json :=
  .obj (members.foldl (fun entries member => Entries.insert member.1 member.2 entries) [])

def ofMap {α : Type} (encode : α → Json) (map : NameMap α) : Json :=
  .obj (map.entries.map fun entry => (entry.1, encode entry.2))

/-- The truth value, if it is one. -/
def asBool? : Json → Option Bool
  | .bool value => some value
  | _ => none

end Json

end VenueGateway
