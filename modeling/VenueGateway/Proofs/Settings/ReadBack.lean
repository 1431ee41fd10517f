import VenueGateway.Proofs.Json.Retelling
import VenueGateway.Settings.Json

/-! # Settings read back from JSON

Settings are written with all of their members, and read back from any object that tells as much: the order
of the members does not matter, neither for the settings nor for the network in them, members of other names
are passed over, and what has its standard value need not be told. Secrets and entries are another matter,
since every name in them counts.
-/

namespace VenueGateway

open Json

/-! ## The network -/

namespace NetworkSettings

variable {network : NetworkSettings} {told : List (String × Json)}

def members (network : NetworkSettings) : List (String × Json) :=
  [("connection_timeout_seconds", .int network.timeoutSeconds.val),
    ("non_fatal_http_status_codes",
      .arr (network.transientStatuses.map fun status => .int status.val)),
    ("non_fatal_error_messages", .arr (network.transientFragments.map Json.str))]

/-- The names under which network settings hold nothing but what is standard. -/
structure MayLack (network : NetworkSettings) (name : String) : Prop where
  timeoutSeconds : name = "connection_timeout_seconds" →
    network.timeoutSeconds = standard.timeoutSeconds
  transientStatuses : name = "non_fatal_http_status_codes" →
    network.transientStatuses = standard.transientStatuses
  transientFragments : name = "non_fatal_error_messages" →
    network.transientFragments = standard.transientFragments

theorem shape_of_retold (retold : Retold network.MayLack network.members told) :
    shape (.object told) = .ok network := by
  have distinct : (network.members.map Prod.fst).Nodup := by
    simp only [members, List.map_cons, List.map_nil]
    decide
  have stands : ∀ member ∈ network.members, StandsIn network.MayLack told member :=
    fun member listed => retold.standsIn distinct listed
  simp only [members, List.forall_mem_cons] at stands
  obtain ⟨timeoutSeconds, statuses, fragments, -⟩ := stands
  apply Shape.record_object
  change fields _ = .ok (mk network.timeoutSeconds network.transientStatuses network.transientFragments)
  refine Fields.andThen_eq_ok (Fields.andThen_eq_ok (Fields.andThen_eq_ok rfl ?timeoutSeconds) ?statuses)
    ?fragments
  case timeoutSeconds =>
    exact Fields.field_of_standsIn timeoutSeconds (Shape.natBelow_int _ _)
      fun lacks => lacks.timeoutSeconds rfl
  case statuses =>
    exact Fields.field_of_standsIn statuses (Shape.list_self (Shape.natBelow_int _) _)
      fun lacks => lacks.transientStatuses rfl
  case fragments =>
    exact Fields.field_of_standsIn fragments (Shape.list_self Shape.string_str _)
      fun lacks => lacks.transientFragments rfl

theorem readsAs_json (network : NetworkSettings) (depth : ℕ) :
    ReadsAs (depth + 2) network.json (writeChars network.json) := by
  apply readsAs_written_object
  simp only [List.forall_mem_cons]
  refine ⟨?timeoutSeconds, ?statuses, ?fragments, List.forall_mem_nil _⟩
  case timeoutSeconds => exact readsWithin_natural network.timeoutSeconds.isLt _
  case statuses =>
    have each : ∀ status : Fin 65536, ReadsWithin depth (.int status.val) (writeChars (.int status.val)) :=
      fun status => readsWithin_natural (status.isLt.trans (by decide)) depth
    exact (readsAs_written_arr (List.forall_mem_map.mpr fun status _ => each status)).within
  case fragments =>
    have worded : Worded (depth + 1) (.arr (network.transientFragments.map Json.str)) :=
      .arr (List.forall_mem_map.mpr fun fragment _ => .str depth fragment)
    exact worded.spells.readsAs.within

end NetworkSettings

/-! ## All settings -/

namespace VenueSettings

variable {settings : VenueSettings} {json : Json} {told : List (String × Json)}

/-- The members that are written for settings, with a value for the network. -/
def membersWith (settings : VenueSettings) (network : Json) : List (String × Json) :=
  [("authentication", .ofMap Json.str settings.secrets), ("network", network),
    ("other", .ofMap Json.str settings.entries)]

/-- The names under which settings hold nothing but what is standard. -/
structure MayLack (settings : VenueSettings) (name : String) : Prop where
  secrets : name = "authentication" → settings.secrets = standard.secrets
  network : name = "network" → settings.network = standard.network
  entries : name = "other" → settings.entries = standard.entries

/-- An object in which the settings are told again, and the network inside of them. -/
inductive Retells (settings : VenueSettings) : Json → Prop
  | object {network told : List (String × Json)} :
    Retold settings.network.MayLack settings.network.members network →
    Retold settings.MayLack (settings.membersWith (.object network)) told →
    Retells settings (.object told)

/-- What is written tells the settings. -/
theorem retells_json (settings : VenueSettings) : settings.Retells settings.json := .object .same .same

theorem shape_of_retold (retold : Retold settings.MayLack (settings.membersWith json) told)
    (inside : NetworkSettings.shape json = .ok settings.network) :
    shape (.object told) = .ok settings := by
  have distinct : ((settings.membersWith json).map Prod.fst).Nodup := by
    simp only [membersWith, List.map_cons, List.map_nil]
    decide
  have stands : ∀ member ∈ settings.membersWith json, StandsIn settings.MayLack told member :=
    fun member listed => retold.standsIn distinct listed
  simp only [membersWith, List.forall_mem_cons] at stands
  obtain ⟨secrets, network, entries, -⟩ := stands
  have words : ∀ map : NameMap String, Shape.map Shape.string (.ofMap Json.str map) = .ok map :=
    Shape.map_self Shape.string_str
  apply Shape.record_object
  change fields _ = .ok (mk settings.secrets settings.network settings.entries)
  refine Fields.andThen_eq_ok (Fields.andThen_eq_ok (Fields.andThen_eq_ok rfl ?secrets) ?network) ?entries
  case secrets => exact Fields.field_of_standsIn secrets (words _) fun lacks => lacks.secrets rfl
  case network => exact Fields.field_of_standsIn network inside fun lacks => lacks.network rfl
  case entries => exact Fields.field_of_standsIn entries (words _) fun lacks => lacks.entries rfl

theorem shape_of_retells (retells : settings.Retells json) : shape json = .ok settings := by
  obtain ⟨network, told⟩ := retells
  exact shape_of_retold told (NetworkSettings.shape_of_retold network)

theorem readsAs_json (settings : VenueSettings) (depth : ℕ) :
    ReadsAs (depth + 3) settings.json (writeChars settings.json) := by
  have words : ∀ map : NameMap String,
      ReadsWithin (depth + 2) (.ofMap Json.str map) (writeChars (.ofMap Json.str map)) := by
    intro map
    have worded := Worded.ofMap (fun value => .str (depth + 1) value) map
    exact worded.spells.readsAs.within
  apply readsAs_written_object
  simp only [List.forall_mem_cons]
  exact ⟨words _, (settings.network.readsAs_json depth).within, words _, List.forall_mem_nil _⟩

/-- How settings come back from JSON: from all objects that tell them, the one that is written among
these, and from all texts of such objects. -/
structure ReadsBack (settings : VenueSettings) : Prop where
  told : settings.Retells settings.json
  read : ∀ json, settings.Retells json → shape json = .ok settings
  written : Json.read (write settings.json) = .ok settings.json
  text : ∀ parts : List (String × Json × List Char),
    (∀ part ∈ parts, ReadsWithin 126 part.2.1 part.2.2) →
    settings.Retells (.object (parts.map fun part => (part.1, part.2.1))) →
    ∃ json, Json.read (objectText parts) = .ok json ∧ shape json = .ok settings

/-- Settings are read back from whatever tells them. -/
theorem settings_read_back (settings : VenueSettings) : settings.ReadsBack := by
  refine ⟨settings.retells_json, fun _ => shape_of_retells, ?written, ?text⟩
  case written =>
    apply ReadsAs.read_text
    rw [write, String.toList_ofList]
    exact settings.readsAs_json 124
  case text =>
    intro parts each retells
    exact ⟨_, read_objectText each, shape_of_retells retells⟩

/-- Settings with a key and a fragment, and nothing else that is not standard. -/
def sparse : VenueSettings :=
  ⟨.ofList [("key", "k")], { NetworkSettings.standard with transientFragments := ["THROTTLED"] }, ∅⟩

/-- Such settings are read from an object with the network in front, with a member of another name inside
of it, and without all that is standard. -/
theorem settings_read_back_sparse :
    shape (.object
      [("network", .object [("note", .null), ("non_fatal_error_messages", .arr [.str "THROTTLED"])]),
        ("authentication", .object [("key", .str "k")])]) = .ok sparse := by
  have noTimeout : sparse.network.MayLack "connection_timeout_seconds" :=
    ⟨fun _ => rfl, fun other => absurd other (by decide), fun other => absurd other (by decide)⟩
  have noStatuses : sparse.network.MayLack "non_fatal_http_status_codes" :=
    ⟨fun other => absurd other (by decide), fun _ => rfl, fun other => absurd other (by decide)⟩
  have noEntries : sparse.MayLack "other" :=
    ⟨fun other => absurd other (by decide), fun other => absurd other (by decide), fun _ => rfl⟩
  have network : Retold sparse.network.MayLack sparse.network.members
      [("note", .null), ("non_fatal_error_messages", .arr [.str "THROTTLED"])] :=
    .added .null (.removed (.removed .same noTimeout) noStatuses) (by decide)
  have told : ∀ json, Retold sparse.MayLack (sparse.membersWith json)
      [("network", json), ("authentication", .object [("key", .str "k")])] := fun json =>
    .removed (.reordered .same (List.reverse_perm (sparse.membersWith json)).symm) noEntries
  exact (settings_read_back sparse).read _ (.object network (told _))

end VenueSettings

end VenueGateway
