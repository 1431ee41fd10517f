import Mathlib.Data.List.Induction
import Mathlib.Data.List.Sort
import VenueGateway.NameMap
import VenueGateway.Proofs.Traversal

/-! # Entries of one name

In entries of increasing names at most one has a given name, so selecting entries by name says the
same as looking the name up. Insertion and erasure leave the entries of all other names alone.
-/

namespace VenueGateway

namespace Entries

variable {α : Type}

/-- Nothing is found under a name that is less than all names. -/
private theorem filter_eq_nil_of_lt {name : String} {entries : List (String × α)}
    (above : ∀ entry ∈ entries, name < entry.1) :
    entries.filter (fun entry => entry.1 = name) = [] := by
  apply List.filter_eq_nil_iff.mpr
  intro entry member
  have lt := above entry member
  simp only [decide_eq_true_eq]
  rintro rfl
  exact String.lt_irrefl _ lt

theorem filter_name {entries : List (String × α)} (increasing : Increasing entries) (name : String) :
    entries.filter (fun entry => entry.1 = name) =
      ((find? name entries).map (name, ·)).toList := by
  induction entries with
  | nil => rfl
  | cons first rest ih =>
    by_cases same : name = first.1
    · have alone : rest.filter (fun entry => entry.1 = name) = [] :=
        filter_eq_nil_of_lt fun entry member => same ▸ List.rel_of_pairwise_cons increasing member
      simp [find?, same, ← same ▸ alone]
    · simp [find?, same, Ne.symm same, ih increasing.of_cons]

theorem insert_ne_nil (name : String) (value : α) (entries : List (String × α)) :
    insert name value entries ≠ [] := by
  cases entries with
  | nil => exact List.cons_ne_nil _ _
  | cons first rest =>
    rw [insert]
    split
    · exact List.cons_ne_nil _ _
    · split <;> exact List.cons_ne_nil _ _

/-- Insertion is not seen by a selection that leaves out the name. -/
theorem filter_insert {name : String} {keep : String × α → Bool}
    (leaves : ∀ value, keep (name, value) = false) (value : α) (entries : List (String × α)) :
    (insert name value entries).filter keep = entries.filter keep := by
  induction entries with
  | nil => simp [insert, leaves]
  | cons first rest ih =>
    rw [insert]
    split
    · simp [leaves]
    · split
      · rename_i same
        have out : keep first = false := by rw [← leaves first.2, same]
        simp [leaves, out]
      · simp [List.filter_cons, ih]

theorem find?_erase_of_ne {name other : String} (h : other ≠ name) (entries : List (String × α)) :
    find? other (erase name entries) = find? other entries := by
  induction entries with
  | nil => rfl
  | cons first rest ih =>
    rw [erase] at ih
    by_cases same : first.1 = name
    · rw [erase, List.filter_cons_of_neg (by simpa using same), ih, find?, if_neg (same ▸ h)]
    · rw [erase, List.filter_cons_of_pos (by simpa using same), find?, find?, ih]

/-! ## Entries that are found -/

/-- Nothing is found under a name that is less than all names. -/
theorem find?_eq_none_of_lt {name : String} {entries : List (String × α)}
    (above : ∀ entry ∈ entries, name < entry.1) : find? name entries = none := by
  induction entries with
  | nil => rfl
  | cons first rest ih =>
    have different : name ≠ first.1 := by
      intro same
      exact String.lt_irrefl _ (same ▸ above first List.mem_cons_self)
    rw [find?, if_neg different]
    exact ih fun entry member => above entry (List.mem_cons_of_mem _ member)

/-- The least name of entries is not less than that of others in which the same is found. -/
private theorem not_lt_of_find? {first other : String × α} {rest others : List (String × α)}
    (increasing : Increasing (other :: others))
    (same : ∀ name, find? name (first :: rest) = find? name (other :: others)) :
    ¬ first.1 < other.1 := by
  intro less
  have absent : find? first.1 (other :: others) = none := by
    apply find?_eq_none_of_lt
    intro entry member
    rcases List.mem_cons.mp member with rfl | member
    · exact less
    · exact String.lt_trans less (List.rel_of_pairwise_cons increasing member)
  rw [← same, find?, if_pos rfl] at absent
  cases absent

/-- Entries of increasing names in which the same is found are the same. -/
theorem eq_of_find? {entries others : List (String × α)} (increasing : Increasing entries)
    (alsoIncreasing : Increasing others) (same : ∀ name, find? name entries = find? name others) :
    entries = others := by
  induction entries generalizing others with
  | nil =>
    cases others with
    | nil => rfl
    | cons other others => simpa [find?] using same other.1
  | cons first rest ih =>
    cases others with
    | nil => simpa [find?] using same first.1
    | cons other others =>
      have names : first.1 = other.1 := by
        apply String.le_antisymm
        · exact String.not_lt.mp (not_lt_of_find? increasing fun name => (same name).symm)
        · exact String.not_lt.mp (not_lt_of_find? alsoIncreasing same)
      have values : first.2 = other.2 := by simpa [find?, names] using same first.1
      have tails : rest = others := by
        apply ih increasing.of_cons alsoIncreasing.of_cons
        intro name
        by_cases here : name = first.1
        · have above : ∀ entry ∈ rest, name < entry.1 :=
            fun entry member => here ▸ List.rel_of_pairwise_cons increasing member
          have alsoAbove : ∀ entry ∈ others, name < entry.1 :=
            fun entry member => here ▸ names ▸ List.rel_of_pairwise_cons alsoIncreasing member
          rw [find?_eq_none_of_lt above, find?_eq_none_of_lt alsoAbove]
        · have alsoElsewhere : name ≠ other.1 := names ▸ here
          simpa [find?, here, alsoElsewhere] using same name
      rw [Prod.ext names values, tails]

/-! ## Struck values -/

/-- Entries with the values under one name struck out. -/
def strikeOut (name : String) (entries : List (String × String)) : List (String × String) :=
  entries.map fun entry => if entry.1 = name then (name, "") else entry

@[simp] theorem strikeOut_cons (name : String) (first : String × String)
    (rest : List (String × String)) :
    strikeOut name (first :: rest) =
      (if first.1 = name then (name, "") else first) :: strikeOut name rest := rfl

/-- All other names have their values still. -/
theorem find?_strikeOut {name other : String} (different : other ≠ name)
    (entries : List (String × String)) :
    find? other (strikeOut name entries) = find? other entries := by
  induction entries with
  | nil => rfl
  | cons first rest ih =>
    rw [strikeOut_cons, find?, find?, ih]
    by_cases struck : first.1 = name
    · simp [struck, different]
    · simp [struck]

theorem map_fst_strikeOut (name : String) (entries : List (String × String)) :
    (strikeOut name entries).map Prod.fst = entries.map Prod.fst := by
  rw [strikeOut, List.map_map]
  apply List.map_congr_left
  intro entry _
  by_cases struck : entry.1 = name
  · simp [struck]
  · simp [struck]

end Entries

namespace NameMap

variable {α : Type}

theorem entries_insert (map : NameMap α) (name : String) (value : α) :
    (map.insert name value).entries = Entries.insert name value map.entries := rfl

theorem entries_empty : (∅ : NameMap α).entries = [] := rfl

theorem entries_ofList (pairs : List (String × α)) :
    (ofList pairs).entries =
      pairs.foldl (fun entries pair => Entries.insert pair.1 pair.2 entries) [] :=
  (List.foldl_hom entries fun map pair => (entries_insert map pair.1 pair.2).symm).symm

theorem isEmpty_insert (map : NameMap α) (name : String) (value : α) :
    (map.insert name value).isEmpty = false :=
  List.isEmpty_eq_false_iff.mpr (Entries.insert_ne_nil name value map.entries)

/-- Maps are equal when every name has the same value in them. -/
theorem eq_of_get? {map other : NameMap α} (same : ∀ name, map.get? name = other.get? name) :
    map = other :=
  ext (Entries.eq_of_find? map.increasing other.increasing same)

theorem filter_entries_name (map : NameMap α) (name : String) :
    map.entries.filter (fun entry => entry.1 = name) = ((map.get? name).map (name, ·)).toList :=
  Entries.filter_name map.increasing name

/-- The entries are the names with their values. -/
theorem mem_entries_iff {map : NameMap α} {name : String} {value : α} :
    (name, value) ∈ map.entries ↔ map.get? name = some value := by
  have selected : (name, value) ∈ map.entries ↔
      (name, value) ∈ map.entries.filter (fun entry => entry.1 = name) := by
    rw [List.mem_filter, decide_eq_true_eq]
    exact (and_iff_left rfl).symm
  rw [selected, filter_entries_name, Option.mem_toList, Option.map_eq_some_iff]
  constructor
  · rintro ⟨_, held, ⟨⟩⟩
    exact held
  · intro held
    exact ⟨value, held, rfl⟩

theorem mem_names_iff {map : NameMap α} {name : String} :
    name ∈ map.names ↔ ∃ value, map.get? name = some value := by
  simp only [names, List.mem_map, Prod.exists, exists_and_right, exists_eq_right, mem_entries_iff]

/-- Maps list their names in increasing order, so the same names are listed alike. -/
theorem names_eq_iff {β : Type} {map : NameMap α} {other : NameMap β} :
    map.names = other.names ↔ ∀ name, name ∈ map.names ↔ name ∈ other.names := by
  constructor
  · intro same name
    rw [same]
  · intro same
    have increasing : ∀ {γ : Type} (map : NameMap γ), map.names.Pairwise (· < ·) :=
      fun map => List.pairwise_map.mpr map.increasing
    exact (increasing map).eq_of_mem_iff (increasing other) same

theorem filter_entries_insert {name : String} {keep : String × α → Bool}
    (leaves : ∀ value, keep (name, value) = false) (value : α) (map : NameMap α) :
    (map.insert name value).entries.filter keep = map.entries.filter keep :=
  Entries.filter_insert leaves value map.entries

/-! ## Pairs that are inserted one after the other -/

/-- The value that stands last under a name. -/
inductive LastUnder (name : String) : List (String × α) → α → Prop
  | here {value : α} {after : List (String × α)} :
    (∀ pair ∈ after, pair.1 ≠ name) → LastUnder name ((name, value) :: after) value
  | later {first : String × α} {after : List (String × α)} {value : α} :
    LastUnder name after value → LastUnder name (first :: after) value

theorem lastUnder_cons_iff {name : String} {first : String × α} {after : List (String × α)} {value : α} :
    LastUnder name (first :: after) value ↔
      first = (name, value) ∧ (∀ pair ∈ after, pair.1 ≠ name) ∨ LastUnder name after value := by
  constructor
  · rintro (others | last)
    · exact .inl ⟨rfl, others⟩
    · exact .inr last
  · rintro (⟨rfl, others⟩ | last)
    · exact .here others
    · exact .later last

/-- Insertions leave the last value of every name, and what was there of the others. -/
private theorem get?_foldl_insert {pairs : List (String × α)} {map : NameMap α} {name : String}
    {value : α} :
    (pairs.foldl (fun map pair => map.insert pair.1 pair.2) map).get? name = some value ↔
      LastUnder name pairs value ∨ (∀ pair ∈ pairs, pair.1 ≠ name) ∧ map.get? name = some value := by
  induction pairs generalizing map with
  | nil =>
    constructor
    · intro found
      exact .inr ⟨nofun, found⟩
    · rintro (last | ⟨-, found⟩)
      · cases last
      · exact found
  | cons first pairs ih =>
    rw [List.foldl_cons, ih, lastUnder_cons_iff, or_comm (b := LastUnder name pairs value), or_assoc]
    refine or_congr_right ?_
    by_cases same : first.1 = name
    · subst same
      have named : first = (first.1, value) ↔ first.2 = value := by rw [Prod.ext_iff, and_iff_right rfl]
      rw [get?_insert_self, Option.some.injEq, named, and_comm]
      exact (or_iff_left fun held => held.1 first List.mem_cons_self rfl).symm
    · have different : first ≠ (name, value) := fun equal => same (congrArg Prod.fst equal)
      rw [get?_insert_of_ne _ (Ne.symm same)]
      simp [same, different]

/-- The value under a name is the one that was inserted last. -/
theorem get?_ofList_eq_some_iff {pairs : List (String × α)} {name : String} {value : α} :
    (ofList pairs).get? name = some value ↔ LastUnder name pairs value := by
  rw [ofList, get?_foldl_insert]
  exact or_iff_left fun found => nomatch found.2

theorem get?_ofList (pairs : List (String × α)) (name : String) :
    (ofList pairs).get? name = (pairs.filter fun pair => pair.1 = name).getLast?.map Prod.snd := by
  induction pairs using List.reverseRecOn with
  | nil => rfl
  | append_singleton pairs pair ih =>
    have last : ofList (pairs ++ [pair]) = (ofList pairs).insert pair.1 pair.2 := List.foldl_concat ..
    rw [last, List.filter_append]
    by_cases named : pair.1 = name
    · subst named
      simp
    · rw [get?_insert_of_ne _ (Ne.symm named), ih]
      simp [named]

/-- A map is made of its entries. -/
theorem ofList_entries (map : NameMap α) : ofList map.entries = map := by
  apply eq_of_get?
  intro name
  rw [get?_ofList, filter_entries_name]
  cases map.get? name <;> rfl

theorem LastUnder.unique {name : String} {pairs : List (String × α)} {value other : α}
    (last : LastUnder name pairs value) (alsoLast : LastUnder name pairs other) : value = other :=
  Option.some.inj ((get?_ofList_eq_some_iff.mpr last).symm.trans (get?_ofList_eq_some_iff.mpr alsoLast))

/-- Where pairs belong to each other one by one, so do those that stand last under a name. -/
theorem LastUnder.exists_of_forall₂ {β : Type} {related : β → α → Prop} {name : String}
    {others : List (String × β)} {pairs : List (String × α)} {value : α}
    (last : LastUnder name pairs value)
    (each : List.Forall₂ (fun other pair => other.1 = pair.1 ∧ related other.2 pair.2) others pairs) :
    ∃ other, LastUnder name others other ∧ related other value := by
  induction each with
  | nil => cases last
  | cons both rest ih =>
    rcases lastUnder_cons_iff.mp last with ⟨rfl, unnamed⟩ | later
    · obtain ⟨same, here⟩ := both
      refine ⟨_, lastUnder_cons_iff.mpr (.inl ⟨Prod.ext same rfl, ?_⟩), here⟩
      intro other member
      obtain ⟨place, there⟩ := List.getElem?_of_mem member
      obtain ⟨pair, alsoThere, same, -⟩ := exists_getElem?_of_forall₂ rest there
      exact same ▸ unnamed pair (List.mem_of_getElem? alsoThere)
    · obtain ⟨other, last, here⟩ := ih later
      exact ⟨other, .later last, here⟩

theorem ofList_eq_iff {pairs others : List (String × α)} :
    ofList pairs = ofList others ↔
      ∀ name value, LastUnder name pairs value ↔ LastUnder name others value := by
  simp only [← get?_ofList_eq_some_iff]
  constructor
  · intro same name value
    rw [same]
  · intro same
    apply eq_of_get?
    intro name
    exact Option.ext (same name)

theorem isEmpty_ofList (pairs : List (String × α)) : (ofList pairs).isEmpty = pairs.isEmpty := by
  have grows : ∀ map : NameMap α,
      (pairs.foldl (fun map pair => map.insert pair.1 pair.2) map).isEmpty =
        (map.isEmpty && pairs.isEmpty) := by
    induction pairs with
    | nil => simp
    | cons first pairs ih =>
      intro map
      rw [List.foldl_cons, ih, isEmpty_insert, Bool.false_and, List.isEmpty_cons, Bool.and_false]
  rw [ofList, grows]
  rfl

end NameMap

end VenueGateway
