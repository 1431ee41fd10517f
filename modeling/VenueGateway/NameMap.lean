/-! # Values under names

A `NameMap` holds at most one value under each name and lists its entries in increasing order of
names. Names are compared character by character, which is also the order of their UTF-8 bytes.
A later insertion under the same name replaces the value.
-/

namespace VenueGateway

namespace Entries

variable {α β : Type}

/-- Put a value under a name into entries that increase by name. -/
def insert (name : String) (value : α) : List (String × α) → List (String × α)
  | [] => [(name, value)]
  | entry :: rest =>
    if name < entry.1 then (name, value) :: entry :: rest
    else if name = entry.1 then (name, value) :: rest
    else entry :: insert name value rest

/-- The value of the first entry with this name. -/
def find? (name : String) : List (String × α) → Option α
  | [] => none
  | entry :: rest => if name = entry.1 then some entry.2 else find? name rest

def erase (name : String) (entries : List (String × α)) : List (String × α) :=
  entries.filter fun entry => entry.1 ≠ name

/-- Entries in increasing order of names. -/
def Increasing (entries : List (String × α)) : Prop :=
  entries.Pairwise fun a b => a.1 < b.1

theorem mem_insert {name : String} {value : α} {entry : String × α} {entries : List (String × α)}
    (h : entry ∈ insert name value entries) : entry = (name, value) ∨ entry ∈ entries := by
  induction entries with
  | nil => simpa [insert] using h
  | cons first rest ih =>
    rw [insert] at h
    split at h
    · simpa using h
    · split at h
      · rcases List.mem_cons.mp h with rfl | h
        · exact .inl rfl
        · exact .inr (List.mem_cons_of_mem _ h)
      · rcases List.mem_cons.mp h with rfl | h
        · exact .inr List.mem_cons_self
        · exact (ih h).imp_right (List.mem_cons_of_mem _)

theorem increasing_insert (name : String) (value : α) {entries : List (String × α)}
    (h : Increasing entries) : Increasing (insert name value entries) := by
  induction entries with
  | nil => simp [insert, Increasing]
  | cons first rest ih =>
    have tail : Increasing rest := h.of_cons
    have above : ∀ entry ∈ rest, first.1 < entry.1 := fun _ m => List.rel_of_pairwise_cons h m
    rw [insert]
    split
    · rename_i lt
      exact List.Pairwise.cons
        (fun entry m => (List.mem_cons.mp m).elim (fun e => e ▸ lt)
          (fun m => String.lt_trans lt (above entry m))) h
    · rename_i notLt
      split
      · rename_i same
        subst same
        exact List.Pairwise.cons above tail
      · rename_i other
        refine List.Pairwise.cons (fun entry m => ?_) (ih tail)
        rcases mem_insert m with rfl | m
        · exact Std.lt_of_le_of_ne (String.not_lt.mp notLt) (Ne.symm other)
        · exact above entry m

theorem find?_insert_self (name : String) (value : α) (entries : List (String × α)) :
    find? name (insert name value entries) = some value := by
  induction entries with
  | nil => simp [insert, find?]
  | cons first rest ih =>
    rw [insert]
    split
    · simp [find?]
    · split
      · simp [find?]
      · rename_i other
        simp [find?, other, ih]

theorem find?_insert_of_ne {name other : String} (h : other ≠ name) (value : α)
    (entries : List (String × α)) :
    find? other (insert name value entries) = find? other entries := by
  induction entries with
  | nil => simp [insert, find?, h]
  | cons first rest ih =>
    rw [insert]
    split
    · simp [find?, h]
    · split
      · rename_i same
        simp [find?, h, ← same]
      · simp [find?, ih]

end Entries

/-- Values under names, in increasing order of names. -/
structure NameMap (α : Type) where
  entries : List (String × α)
  increasing : Entries.Increasing entries

namespace NameMap

variable {α : Type}

/-- Maps are equal when they list the same entries. -/
@[ext] theorem ext {a b : NameMap α} (h : a.entries = b.entries) : a = b := by
  cases a; cases b; cases h; rfl

instance [DecidableEq α] : DecidableEq (NameMap α) := fun a b =>
  if h : a.entries = b.entries then .isTrue (ext h) else .isFalse fun e => h (e ▸ rfl)

def empty : NameMap α := ⟨[], List.Pairwise.nil⟩

instance : EmptyCollection (NameMap α) := ⟨empty⟩
instance : Inhabited (NameMap α) := ⟨empty⟩

/-- Put a value under a name; the value that was there is lost. -/
def insert (name : String) (value : α) (map : NameMap α) : NameMap α :=
  ⟨Entries.insert name value map.entries, Entries.increasing_insert name value map.increasing⟩

def get? (map : NameMap α) (name : String) : Option α := Entries.find? name map.entries

/-- Insert pairs from first to last, so that the last of a name stays. -/
def ofList (pairs : List (String × α)) : NameMap α :=
  pairs.foldl (fun map pair => map.insert pair.1 pair.2) empty

def names (map : NameMap α) : List String := map.entries.map Prod.fst

def size (map : NameMap α) : Nat := map.entries.length

def isEmpty (map : NameMap α) : Bool := map.entries.isEmpty

@[simp] theorem get?_empty (name : String) : (empty : NameMap α).get? name = none := rfl

@[simp] theorem get?_insert_self (map : NameMap α) (name : String) (value : α) :
    (map.insert name value).get? name = some value :=
  Entries.find?_insert_self name value map.entries

theorem get?_insert_of_ne (map : NameMap α) {name other : String} (h : other ≠ name) (value : α) :
    (map.insert name value).get? other = map.get? other :=
  Entries.find?_insert_of_ne h value map.entries

end NameMap

end VenueGateway
