import VenueGateway.Json.Shape
import VenueGateway.Proofs.Traversal

/-! # How records are laid out

A record is laid out in one of two ways: as an object that has its fields under their names, or as an
array that has them in the order of their declaration. What a shape reads is said here without the
reader: `Computes` ties a shape to the relation between JSON values and what they stand for, and has
one law for every way in which shapes are made of shapes.
-/

namespace VenueGateway.Json

variable {α β : Type}

/-- The ways in which a record can be laid out. -/
inductive Layout
  | named
  | positional
deriving DecidableEq

/-- What stands for each field of a record, by its position and its name. -/
abbrev Parts := Nat → String → Option Json

/-- A value in which a record of `count` fields is laid out, with its parts. -/
inductive LaidOut (count : Nat) : Layout → Json → Parts → Prop
  | named (members : List (String × Json)) :
    LaidOut count .named (.obj members) fun _ name => Entries.find? name members
  | positional (items : List Json) (fits : items.length ≤ count) :
    LaidOut count .positional (.arr items) fun position _ => items[position]?

/-- A value that stands for a record in one of the layouts that are allowed. -/
def Record (allowed : Layout → Prop) (count : Nat) (means : Parts → α → Prop) (json : Json)
    (value : α) : Prop :=
  ∃ layout parts, allowed layout ∧ LaidOut count layout json parts ∧ means parts value

/-- A value that can be laid out by position alone. -/
def IsArray (json : Json) : Prop := ∃ items, json = .arr items

/-- A field that must be there. -/
def Parts.Holds (parts : Parts) (position : Nat) (name : String) (means : Json → α → Prop)
    (value : α) : Prop :=
  ∃ json, parts position name = some json ∧ means json value

/-- A field that may be absent. -/
def Parts.HoldsOr (parts : Parts) (position : Nat) (name : String) (means : Json → α → Prop)
    (fallback value : α) : Prop :=
  parts.Holds position name means value ∨ parts position name = none ∧ value = fallback

/-- An amount: a number, or a string that reads as one. -/
inductive Amounts : Json → Decimal → Prop
  | whole {value : Int} {x : Decimal} :
    Decimal.ofParts? (value < 0) value.natAbs 0 = some x → Amounts (.int value) x
  | fraction {value : Binary64} {x : Decimal} :
    Decimal.readChars value.plainText = .ok x → Amounts (.float value) x
  | words {text : String} {x : Decimal} : Decimal.read text = .ok x → Amounts (.str text) x

/-- An array, item by item. -/
def Items (means : Json → α → Prop) (json : Json) (values : List α) : Prop :=
  ∃ items, json = .arr items ∧ List.Forall₂ means items values

/-- An object, member by member; of a name that is repeated the last member counts. -/
def Members (means : Json → α → Prop) (json : Json) (values : NameMap α) : Prop :=
  ∃ members pairs, json = .obj members ∧
    List.Forall₂ (fun member pair => member.1 = pair.1 ∧ means member.2 pair.2) members pairs ∧
    values = .ofList pairs

/-- A shape reads exactly the values that stand for something, and reads them as that. -/
def Shape.Computes (shape : Shape α) (means : Json → α → Prop) : Prop :=
  ∀ json value, shape json = .ok value ↔ means json value

/-! ## Layouts -/

section Layouts

variable {allowed : Layout → Prop} {count : Nat} {means : Parts → α → Prop} {json : Json}

/-- A record stays one where its layout is allowed too. -/
theorem Record.move {other : Layout → Prop} {value : α}
    (moves : ∀ layout parts, LaidOut count layout json parts → allowed layout → other layout)
    (record : Record allowed count means json value) : Record other count means json value := by
  obtain ⟨layout, parts, allows, laid, stated⟩ := record
  exact ⟨layout, parts, moves layout parts laid allows, laid, stated⟩

/-- A record that is no array has its fields under their names. -/
theorem LaidOut.named_of_not_isArray {layout : Layout} {parts : Parts} (object : ¬ json.IsArray)
    (laid : LaidOut count layout json parts) : layout = .named := by
  cases laid with
  | named members => rfl
  | positional items fits => exact absurd ⟨items, rfl⟩ object

/-- What stands for a field of a record, in whichever layout the record is. -/
def PartOf (count position : Nat) (name : String) (record json : Json) : Prop :=
  ∃ layout parts, LaidOut count layout record parts ∧ parts position name = some json

theorem LaidOut.unique {layout otherLayout : Layout} {parts others : Parts}
    (laid : LaidOut count layout json parts) (alsoLaid : LaidOut count otherLayout json others) :
    parts = others := by
  cases laid <;> cases alsoLaid <;> rfl

theorem partOf_iff {layout : Layout} {parts : Parts} (laid : LaidOut count layout json parts)
    {position : Nat} {name : String} {found : Json} :
    PartOf count position name json found ↔ parts position name = some found := by
  constructor
  · rintro ⟨_, others, alsoLaid, part⟩
    rwa [laid.unique alsoLaid]
  · intro part
    exact ⟨layout, parts, laid, part⟩

/-- A record is read from its parts. -/
theorem Record.exists_parts {value : α} (record : Record allowed count means json value) :
    ∃ parts : Parts, means parts value ∧ ∀ {position name found},
      PartOf count position name json found ↔ parts position name = some found := by
  obtain ⟨layout, parts, -, laid, stated⟩ := record
  exact ⟨parts, stated, partOf_iff laid⟩

theorem PartOf.unique {position : Nat} {name : String} {found other : Json}
    (part : PartOf count position name json found) (alsoPart : PartOf count position name json other) :
    found = other := by
  obtain ⟨_, parts, laid, here⟩ := part
  exact Option.some.inj (here.symm.trans ((partOf_iff laid).mp alsoPart))

end Layouts

theorem Items.imp {means other : Json → α → Prop} {json : Json} {values : List α}
    (each : ∀ items, json = .arr items → ∀ item ∈ items, ∀ value, means item value → other item value)
    (items : Items means json values) : Items other json values := by
  obtain ⟨items, rfl, meant⟩ := items
  refine ⟨items, rfl, ((List.forall₂_and_left _ _).mpr ⟨each items rfl, meant⟩).imp ?_⟩
  rintro item value ⟨implies, meant⟩
  exact implies value meant

theorem Members.imp {means other : Json → α → Prop} {json : Json} {values : NameMap α}
    (each : ∀ members, json = .obj members → ∀ member ∈ members, ∀ value,
      means member.2 value → other member.2 value)
    (members : Members means json values) : Members other json values := by
  obtain ⟨members, pairs, rfl, meant, rfl⟩ := members
  refine ⟨members, pairs, rfl, ((List.forall₂_and_left _ _).mpr ⟨each members rfl, meant⟩).imp ?_, rfl⟩
  rintro member pair ⟨implies, same, meant⟩
  exact ⟨same, implies pair.2 meant⟩

/-! ## Shapes without fields -/

theorem computes_string : Shape.string.Computes fun json text => json = .str text := by
  intro json text
  cases json with
  | str found =>
    dsimp only
    rw [Shape.string, Except.ok.injEq, Json.str.injEq]
  | null | bool | int | float | arr | obj => exact ⟨nofun, nofun⟩

theorem computes_decimal : Shape.decimal.Computes Amounts := by
  intro json x
  constructor
  · intro read
    cases json with
    | int value =>
      rw [Shape.decimal] at read
      split at read
      · cases read
        exact .whole ‹_›
      · cases read
    | float value =>
      rw [Shape.decimal] at read
      split at read
      · cases read
        exact .fraction ‹_›
      · cases read
    | str text =>
      rw [Shape.decimal] at read
      split at read
      · cases read
        exact .words ‹_›
      · cases read
    | null | bool | arr | obj => cases read
  · rintro (found | found | found)
    · rw [Shape.decimal, found]
    · rw [Shape.decimal, found]
    · rw [Shape.decimal, found]

theorem Amounts.unique {json : Json} {x y : Decimal} (amounts : Amounts json x)
    (alsoAmounts : Amounts json y) : x = y :=
  Except.ok.inj (((computes_decimal json x).mpr amounts).symm.trans
    ((computes_decimal json y).mpr alsoAmounts))

/-! ## Arrays and objects -/

theorem Shape.Computes.list {item : Shape α} {means : Json → α → Prop}
    (computes : item.Computes means) : (Shape.list item).Computes (Items means) := by
  intro json values
  cases json with
  | arr items =>
    rw [Shape.list, mapM_eq_ok_iff, Items]
    simp only [computes _ _, Json.arr.injEq, exists_eq_left']
  | null | bool | int | float | str | obj =>
    refine ⟨nofun, ?_⟩
    rintro ⟨_, ⟨⟩, -⟩

theorem Shape.Computes.map {member : Shape α} {means : Json → α → Prop}
    (computes : member.Computes means) : (Shape.map member).Computes (Members means) := by
  intro json values
  cases json with
  | obj members =>
    have entry : ∀ (entry : String × Json) (pair : String × α),
        (member entry.2).map (entry.1, ·) = .ok pair ↔
          entry.1 = pair.1 ∧ means entry.2 pair.2 := by
      intro entry pair
      rw [map_eq_ok_iff, ← computes]
      constructor
      · rintro ⟨found, read, rfl⟩
        exact ⟨rfl, read⟩
      · rintro ⟨same, read⟩
        exact ⟨pair.2, read, Prod.ext same rfl⟩
    rw [Shape.map, map_eq_ok_iff]
    simp only [mapM_eq_ok_iff, entry]
    constructor
    · rintro ⟨pairs, read, rfl⟩
      exact ⟨members, pairs, rfl, read, rfl⟩
    · rintro ⟨_, pairs, ⟨⟩, read, rfl⟩
      exact ⟨pairs, read, rfl⟩
  | null | bool | int | float | str | arr =>
    refine ⟨nofun, ?_⟩
    rintro ⟨_, _, ⟨⟩, -⟩

/-! ## Records -/

/-- What a source has for each field. -/
def RecordSource.parts (source : RecordSource) : Parts := fun position name =>
  match source with
  | .members entries => Entries.find? name entries
  | .items values _ => values[position]?

/-- Fields that are read from the parts of a source, and from nothing else. -/
def Fields.Computes (fields : Fields α) (means : Parts → α → Prop) : Prop :=
  ∀ source value, fields source = .ok value ↔ means source.parts value

theorem computes_done (value : α) : (Fields.done value).Computes fun _ found => found = value := by
  intro source found
  rw [Fields.done, Except.ok.injEq, eq_comm]

theorem Fields.Computes.andThen {make : Fields (α → β)} {next : Fields α}
    {before : Parts → (α → β) → Prop} {here : Parts → α → Prop} (made : make.Computes before)
    (computes : next.Computes here) :
    (make.andThen next).Computes fun parts value =>
      ∃ f found, before parts f ∧ here parts found ∧ value = f found := by
  intro source value
  simp only [← made source, ← computes source]
  rw [Fields.andThen]
  cases make source with
  | error earlier =>
    cases next source with
    | error later => simp
    | ok found => simp
  | ok f =>
    cases next source with
    | error later => simp
    | ok found => simp [eq_comm]

private theorem field_of_part {position : Nat} {name : String} {shape : Shape α}
    {fallback : Option α} {source : RecordSource} {json : Json}
    (part : source.parts position name = some json) :
    ∃ place, Fields.field position name shape fallback source = (shape json).mapError place := by
  cases source with
  | members entries =>
    change Entries.find? name entries = some json at part
    exact ⟨_, by simp only [Fields.field, part]; rfl⟩
  | items items expected =>
    change items[position]? = some json at part
    exact ⟨_, by simp only [Fields.field, part]; rfl⟩

private theorem field_of_no_part {position : Nat} {name : String} (shape : Shape α)
    {source : RecordSource} (absent : source.parts position name = none) :
    (∀ value, Fields.field position name shape (some value) source = .ok value) ∧
      ∃ fault, Fields.field position name shape none source = .error fault := by
  cases source with
  | members entries =>
    change Entries.find? name entries = none at absent
    exact ⟨fun value => by simp only [Fields.field, absent], _, by
      simp only [Fields.field, absent]; rfl⟩
  | items items expected =>
    change items[position]? = none at absent
    exact ⟨fun value => by simp only [Fields.field, absent], _, by
      simp only [Fields.field, absent]; rfl⟩

theorem computes_field (position : Nat) (name : String) {shape : Shape α} {means : Json → α → Prop}
    (computes : shape.Computes means) (fallback : Option α) :
    (Fields.field position name shape fallback).Computes fun parts value =>
      parts.Holds position name means value ∨ parts position name = none ∧ fallback = some value := by
  intro source value
  cases part : source.parts position name with
  | some json =>
    obtain ⟨place, read⟩ := field_of_part part
    rw [read, mapError_eq_ok_iff, computes json value]
    simp [Parts.Holds, part]
  | none =>
    obtain ⟨given, fault, missing⟩ := field_of_no_part shape part
    cases fallback with
    | some other =>
      rw [given]
      simp [Parts.Holds, part]
    | none =>
      rw [missing]
      simp [Parts.Holds, part]

theorem computes_required (position : Nat) (name : String) {shape : Shape α}
    {means : Json → α → Prop} (computes : shape.Computes means) :
    (Fields.field position name shape none).Computes fun parts value =>
      parts.Holds position name means value := by
  intro source value
  rw [computes_field position name computes none source value]
  exact or_iff_left fun absent => nomatch absent.2

theorem computes_optional (position : Nat) (name : String) {shape : Shape α}
    {means : Json → α → Prop} (computes : shape.Computes means) (fallback : α) :
    (Fields.field position name shape (some fallback)).Computes fun parts value =>
      parts.HoldsOr position name means fallback value := by
  intro source value
  refine (computes_field position name computes (some fallback) source value).trans (or_congr_right ?_)
  exact and_congr_right fun _ => ⟨fun same => (Option.some.inj same).symm, fun same => same ▸ rfl⟩

/-- A record is read in both layouts. -/
theorem Fields.Computes.record {fields : Fields α} {means : Parts → α → Prop}
    (computes : fields.Computes means) (name : String) (count : Nat) :
    (Shape.record name count fields).Computes (Record (fun _ => True) count means) := by
  intro json value
  cases json with
  | obj members =>
    rw [Shape.record, mapError_eq_ok_iff, computes]
    constructor
    · intro read
      exact ⟨.named, _, trivial, .named members, read⟩
    · rintro ⟨_, _, -, ⟨⟩, read⟩
      exact read
  | arr items =>
    have reading : Shape.record name count fields (.arr items) = .ok value ↔
        items.length ≤ count ∧ means (fun position _ => items[position]?) value := by
      rw [Shape.record, bind_eq_ok_iff]
      simp only [mapError_eq_ok_iff, computes _ _]
      constructor
      · rintro ⟨found, read, checked⟩
        split at checked
        · cases checked
        · cases checked
          exact ⟨Nat.not_lt.mp ‹_›, read⟩
      · rintro ⟨fits, read⟩
        exact ⟨value, read, if_neg (Nat.not_lt.mpr fits)⟩
    rw [reading]
    constructor
    · rintro ⟨fits, read⟩
      exact ⟨.positional, _, trivial, .positional items fits, read⟩
    · rintro ⟨_, _, -, ⟨⟩, read⟩
      exact ⟨‹_›, read⟩
  | null | bool | int | float | str =>
    refine ⟨nofun, ?_⟩
    rintro ⟨_, _, -, ⟨⟩, -⟩

end VenueGateway.Json
