import VenueGateway.Json.Shape
import VenueGateway.Proofs.Json.Spelling

/-! # Values that are written and read back

A record is written as an object with a member for each field, and read from the members of these names;
a list is written item by item, and a map member by member. So a record, a list or a map comes back as
its parts do.
-/

namespace VenueGateway

namespace NameMap

variable {α β : Type}

def mapValues (f : α → β) (map : NameMap α) : NameMap β :=
  ⟨map.entries.map fun entry => (entry.1, f entry.2),
    List.pairwise_map.mpr (map.increasing.imp fun less => less)⟩

theorem mem_of_mem_ofList {pairs : List (String × α)} {entry : String × α}
    (listed : entry ∈ (ofList pairs).entries) : entry ∈ pairs := by
  obtain ⟨name, value⟩ := entry
  rw [mem_entries_iff, get?_ofList, Option.map_eq_some_iff] at listed
  obtain ⟨pair, last, rfl⟩ := listed
  obtain ⟨member, named⟩ := List.mem_filter.mp (List.mem_of_getLast? last)
  rwa [← of_decide_eq_true named]

end NameMap

namespace Json

variable {α β : Type} {depth : ℕ} {json : Json} {members others : List (String × Json)} {name : String}

/-- The last member of a name, which is the one that counts. -/
def lastMember? (name : String) (members : List (String × Json)) : Option Json :=
  (members.filter fun member => member.1 = name).getLast?.map Prod.snd

theorem find?_ofList (name : String) (members : List (String × Json)) :
    Entries.find? name (NameMap.ofList members).entries = lastMember? name members :=
  NameMap.get?_ofList members name

/-- Objects are equal only if they have the same members. -/
theorem lastMember?_of_object_eq (same : object members = object others) (name : String) :
    lastMember? name members = lastMember? name others := by
  rw [object_eq, object_eq, Json.obj.injEq] at same
  rw [← find?_ofList, same, find?_ofList]

/-! ## What is written -/

theorem Worded.object (each : ∀ member ∈ members, Worded depth member.2) :
    Worded (depth + 1) (.object members) := by
  rw [object_eq]
  exact .obj (NameMap.ofList members).increasing fun member listed =>
    each member (NameMap.mem_of_mem_ofList listed)

theorem Worded.ofMap {encode : α → Json} (each : ∀ value, Worded depth (encode value))
    (map : NameMap α) : Worded (depth + 1) (.ofMap encode map) :=
  .obj (map.mapValues encode).increasing (List.forall_mem_map.mpr fun entry _ => each entry.2)

theorem readsAs_written_object
    (each : ∀ member ∈ members, ReadsWithin depth member.2 (writeChars member.2)) :
    ReadsAs (depth + 1) (.object members) (writeChars (.object members)) := by
  rw [object_eq]
  exact readsAs_written_obj (NameMap.ofList members).increasing fun member listed =>
    each member (NameMap.mem_of_mem_ofList listed)

/-! ## What is read -/

theorem Fields.andThen_eq_ok {make : Fields (α → β)} {next : Fields α} {source : RecordSource}
    {f : α → β} {value : α} (made : make source = .ok f) (found : next source = .ok value) :
    make.andThen next source = .ok (f value) := by
  rw [andThen, made, found]

theorem Fields.field_eq_ok {position : ℕ} {shape : Shape α} {fallback : Option α} {value : α}
    (last : lastMember? name members = some json) (read : shape json = .ok value) :
    field position name shape fallback (.members (NameMap.ofList members).entries) = .ok value := by
  rw [← find?_ofList] at last
  simp only [field, last, read, mapError_ok]

theorem Shape.record_object {count : ℕ} {fields : Fields α} {value : α}
    (read : fields (.members (NameMap.ofList members).entries) = .ok value) :
    Shape.record name count fields (.object members) = .ok value := by
  rw [object_eq, Shape.record, read, mapError_ok]

theorem Shape.list_arr {item : Shape α} {encode : β → Json} {f : β → α}
    (each : ∀ value, item (encode value) = .ok (f value)) (values : List β) :
    Shape.list item (.arr (values.map encode)) = .ok (values.map f) := by
  rw [Shape.list, mapM_eq_ok_iff, List.forall₂_map_left_iff, List.forall₂_map_right_iff,
    List.forall₂_same]
  exact fun value _ => each value

theorem Shape.map_ofMap {member : Shape α} {encode : β → Json} {f : β → α}
    (each : ∀ value, member (encode value) = .ok (f value)) (map : NameMap β) :
    Shape.map member (.ofMap encode map) = .ok (map.mapValues f) := by
  have read : (map.entries.map fun entry => (entry.1, encode entry.2)).mapM
      (fun entry => (member entry.2).map (entry.1, ·)) = .ok (map.mapValues f).entries := by
    rw [mapM_eq_ok_iff, NameMap.mapValues, List.forall₂_map_left_iff, List.forall₂_map_right_iff,
      List.forall₂_same]
    intro entry _
    rw [each]
    rfl
  rw [Json.ofMap, Shape.map, read]
  exact congrArg Except.ok (NameMap.ofList_entries _)

theorem Shape.list_self {item : Shape α} {encode : α → Json}
    (each : ∀ value, item (encode value) = .ok value) (values : List α) :
    Shape.list item (.arr (values.map encode)) = .ok values := by
  rw [Shape.list_arr each, List.map_id']

theorem Shape.map_self {member : Shape α} {encode : α → Json}
    (each : ∀ value, member (encode value) = .ok value) (map : NameMap α) :
    Shape.map member (.ofMap encode map) = .ok map := by
  rw [Shape.map_ofMap each]
  exact congrArg Except.ok (NameMap.ext (List.map_id' map.entries))

theorem Shape.string_str (value : String) : Shape.string (.str value) = .ok value := rfl

theorem Shape.natBelow_int {limit : ℕ} (kind : String) (value : Fin limit) :
    Shape.natBelow limit kind (.int value.val) = .ok value := by
  rw [natBelow, dif_pos ⟨Int.natCast_nonneg _, Int.ofNat_lt.mpr value.isLt⟩]
  rfl

end Json

end VenueGateway
