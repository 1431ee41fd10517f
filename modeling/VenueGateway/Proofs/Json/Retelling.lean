import VenueGateway.Proofs.Json.ReadBack

/-! # Objects that are told again

An object can be told again with its members in another order, with members of other names among them, and
without some of those that may be absent. A field finds its member in it, or is left with its fallback.
-/

namespace VenueGateway.Json

variable {α : Type} {absent : String → Prop} {own members others : List (String × Json)}
  {member : String × Json} {name : String} {json value : Json}

/-- What the members of an object become when they are told again, where those under some names may be
absent. -/
inductive Retold (absent : String → Prop) (own : List (String × Json)) : List (String × Json) → Prop
  | same : Retold absent own own
  | reordered {members others : List (String × Json)} :
    Retold absent own members → members.Perm others → Retold absent own others
  | added {members : List (String × Json)} {name : String} (value : Json) :
    Retold absent own members → name ∉ own.map Prod.fst → Retold absent own ((name, value) :: members)
  | removed {members : List (String × Json)} {name : String} {value : Json} :
    Retold absent own ((name, value) :: members) → absent name → Retold absent own members

/-- A member is the only one of its name, or there is none of its name and it may be absent. -/
def StandsIn (absent : String → Prop) (members : List (String × Json)) (member : String × Json) : Prop :=
  members.filter (fun other => other.1 = member.1) = [member] ∨
    members.filter (fun other => other.1 = member.1) = [] ∧ absent member.1

/-! ## What is kept -/

theorem standsIn_of_mem (distinct : (own.map Prod.fst).Nodup) (listed : member ∈ own) :
    StandsIn absent own member := by
  refine .inl ?_
  induction own with
  | nil => cases listed
  | cons first own ih =>
    rw [List.map_cons, List.nodup_cons] at distinct
    obtain ⟨apart, distinct⟩ := distinct
    rcases List.mem_cons.mp listed with rfl | listed
    · have alone : own.filter (fun other => other.1 = member.1) = [] := by
        apply List.filter_eq_nil_iff.mpr
        intro other inside
        rw [decide_eq_true_eq]
        intro same
        exact apart (same ▸ List.mem_map_of_mem inside)
      rw [List.filter_cons_of_pos (by simp), alone]
    · have different : first.1 ≠ member.1 := by
        intro same
        exact apart (same ▸ List.mem_map_of_mem listed)
      rw [List.filter_cons_of_neg (by simpa using different), ih distinct listed]

theorem StandsIn.reordered (stands : StandsIn absent members member) (order : members.Perm others) :
    StandsIn absent others member := by
  have selected := order.filter fun other => other.1 = member.1
  rcases stands with once | ⟨nowhere, lacking⟩
  · rw [once] at selected
    exact .inl (List.singleton_perm.mp selected).symm
  · rw [nowhere] at selected
    exact .inr ⟨List.nil_perm.mp selected, lacking⟩

theorem standsIn_cons_iff (different : name ≠ member.1) :
    StandsIn absent ((name, value) :: members) member ↔ StandsIn absent members member := by
  rw [StandsIn, StandsIn, List.filter_cons_of_neg (by simpa using different)]

theorem StandsIn.removed (stands : StandsIn absent ((name, value) :: members) member)
    (lacking : absent name) : StandsIn absent members member := by
  by_cases same : name = member.1
  · subst same
    rw [StandsIn, List.filter_cons_of_pos (by simp)] at stands
    rcases stands with once | ⟨⟨⟩, -⟩
    exact .inr ⟨(List.cons.inj once).2, lacking⟩
  · exact (standsIn_cons_iff same).mp stands

/-- However members are told again, each of the first ones stands among them still, unless it may be
absent. Names are distinct at the start alone, as members that are added may share theirs. -/
theorem Retold.standsIn (retold : Retold absent own members) (distinct : (own.map Prod.fst).Nodup)
    (listed : member ∈ own) : StandsIn absent members member := by
  induction retold with
  | same => exact standsIn_of_mem distinct listed
  | reordered _ order ih => exact ih.reordered order
  | added value _ other ih =>
    refine (standsIn_cons_iff ?_).mpr ih
    rintro rfl
    exact other (List.mem_map_of_mem listed)
  | removed _ lacking ih => exact ih.removed lacking

/-! ## What is read -/

/-- A field that may be absent is read from its member, or has its fallback for a value. -/
theorem Fields.field_of_standsIn {position : ℕ} {shape : Shape α} {found fallback : α}
    (stands : StandsIn absent members (name, json)) (read : shape json = .ok found)
    (standard : absent name → found = fallback) :
    field position name shape (some fallback) (.members (NameMap.ofList members).entries) = .ok found := by
  rcases stands with once | ⟨nowhere, lacking⟩
  · refine field_eq_ok ?_ read
    rw [lastMember?, once]
    rfl
  · have unfound : Entries.find? name (NameMap.ofList members).entries = none := by
      rw [find?_ofList, lastMember?, nowhere]
      rfl
    simp only [field, unfound, standard lacking]

end VenueGateway.Json
