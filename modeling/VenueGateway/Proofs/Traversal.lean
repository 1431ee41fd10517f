import Mathlib.Data.List.Forall2

/-! # Results of many steps

Steps are taken, and items are read, from first to last, and the first one without a result decides.
`FirstFault` says that all items are fine up to one that is faulty; what comes behind it does not
matter.
-/

namespace VenueGateway

variable {α β ε : Type} {fine faulty : α → Prop}

/-- The first item of a list that is not fine is faulty. -/
inductive FirstFault (fine faulty : α → Prop) : List α → Prop
  | here {item : α} {rest : List α} : faulty item → FirstFault fine faulty (item :: rest)
  | later {item : α} {rest : List α} :
    fine item → FirstFault fine faulty rest → FirstFault fine faulty (item :: rest)

theorem firstFault_append {front back : List α} :
    FirstFault fine faulty (front ++ back) ↔
      FirstFault fine faulty front ∨ (∀ item ∈ front, fine item) ∧ FirstFault fine faulty back := by
  induction front with
  | nil => exact ⟨fun fault => .inr ⟨nofun, fault⟩, fun | .inr fault => fault.2⟩
  | cons first rest ih =>
    constructor
    · rintro (bad | ⟨good, fault⟩)
      · exact .inl (.here bad)
      · rcases ih.mp fault with fault | ⟨goods, fault⟩
        · exact .inl (.later good fault)
        · exact .inr ⟨List.forall_mem_cons.mpr ⟨good, goods⟩, fault⟩
    · rintro ((bad | ⟨good, fault⟩) | ⟨goods, fault⟩)
      · exact .here bad
      · exact .later good (ih.mpr (.inl fault))
      · obtain ⟨good, goods⟩ := List.forall_mem_cons.mp goods
        exact .later good (ih.mpr (.inr ⟨goods, fault⟩))

/-- Which items are fine matters for the listed ones only. -/
theorem firstFault_congr {good : α → Prop} {items : List α}
    (same : ∀ item ∈ items, (fine item ↔ good item)) :
    FirstFault fine faulty items ↔ FirstFault good faulty items := by
  induction items with
  | nil => exact ⟨nofun, nofun⟩
  | cons first rest ih =>
    obtain ⟨here, later⟩ := List.forall_mem_cons.mp same
    constructor
    · rintro (bad | ⟨ok, fault⟩)
      · exact .here bad
      · exact .later (here.mp ok) ((ih later).mp fault)
    · rintro (bad | ⟨ok, fault⟩)
      · exact .here bad
      · exact .later (here.mpr ok) ((ih later).mpr fault)

/-- The fault is the first one in a list that is cut in front of it. -/
theorem firstFault_iff_split {items : List α} :
    FirstFault fine faulty items ↔
      ∃ front item back, items = front ++ item :: back ∧ (∀ other ∈ front, fine other) ∧
        faulty item := by
  constructor
  · intro fault
    induction fault with
    | here bad => exact ⟨[], _, _, rfl, nofun, bad⟩
    | later good _ ih =>
      obtain ⟨front, item, back, rfl, goods, bad⟩ := ih
      exact ⟨_ :: front, item, back, rfl, List.forall_mem_cons.mpr ⟨good, goods⟩, bad⟩
  · rintro ⟨front, item, back, rfl, goods, bad⟩
    exact firstFault_append.mpr (.inr ⟨goods, .here bad⟩)

theorem FirstFault.exists_mem {items : List α} (fault : FirstFault fine faulty items) :
    ∃ item ∈ items, faulty item := by
  obtain ⟨front, item, back, rfl, -, bad⟩ := firstFault_iff_split.mp fault
  exact ⟨item, List.mem_append_right _ List.mem_cons_self, bad⟩

/-- The fault of ordered items is the least one. -/
theorem firstFault_iff_of_pairwise {before : α → α → Prop} {items : List α}
    (asymm : ∀ {a b}, before a b → ¬ before b a) (ordered : items.Pairwise before) :
    FirstFault fine faulty items ↔
      ∃ item ∈ items, faulty item ∧ ∀ other ∈ items, before other item → fine other := by
  rw [firstFault_iff_split]
  constructor
  · rintro ⟨front, item, back, rfl, goods, bad⟩
    refine ⟨item, List.mem_append_right _ List.mem_cons_self, bad, ?_⟩
    intro other member less
    obtain ⟨-, behind, -⟩ := List.pairwise_append.mp ordered
    rcases List.mem_append.mp member with member | member
    · exact goods other member
    · rcases List.mem_cons.mp member with rfl | member
      · exact absurd less (asymm less)
      · exact absurd less (asymm (List.rel_of_pairwise_cons behind member))
  · rintro ⟨item, member, bad, goods⟩
    obtain ⟨front, back, rfl⟩ := List.append_of_mem member
    obtain ⟨-, -, across⟩ := List.pairwise_append.mp ordered
    refine ⟨front, item, back, rfl, ?_, bad⟩
    intro other inFront
    exact goods other (List.mem_append_left _ inFront) (across other inFront item List.mem_cons_self)

/-- An error is the same whatever the result would have been. -/
theorem error_congr {cause other : ε} :
    (Except.error cause : Except ε α) = .error other ↔
      (Except.error cause : Except ε β) = .error other := by
  rw [Except.error.injEq, Except.error.injEq]

theorem map_eq_ok_iff {g : α → β} {result : Except ε α} {value : β} :
    result.map g = .ok value ↔ ∃ found, result = .ok found ∧ g found = value := by
  cases result with
  | error cause =>
    refine ⟨nofun, ?_⟩
    rintro ⟨_, ⟨⟩, -⟩
  | ok found =>
    constructor
    · rintro ⟨⟩
      exact ⟨found, rfl, rfl⟩
    · rintro ⟨_, ⟨⟩, rfl⟩
      rfl

theorem map_eq_error_iff {g : α → β} {result : Except ε α} {cause : ε} :
    result.map g = .error cause ↔ result = .error cause := by
  cases result with
  | error other => exact error_congr
  | ok value => exact ⟨nofun, nofun⟩

@[simp] theorem mapError_error {δ : Type} (g : ε → δ) (cause : ε) :
    (Except.error cause : Except ε α).mapError g = .error (g cause) := rfl

@[simp] theorem mapError_ok {δ : Type} (g : ε → δ) (value : α) :
    (Except.ok value : Except ε α).mapError g = .ok value := rfl

theorem mapError_eq_ok_iff {δ : Type} {g : ε → δ} {result : Except ε α} {value : α} :
    result.mapError g = .ok value ↔ result = .ok value := by
  cases result with
  | error cause =>
    rw [mapError_error]
    constructor <;> rintro ⟨⟩
  | ok other => rw [mapError_ok, Except.ok.injEq, Except.ok.injEq]

/-- A sequence of two steps succeeds when both do. -/
theorem bind_eq_ok_iff {first : Except ε α} {second : α → Except ε β} {value : β} :
    (first >>= second) = .ok value ↔ ∃ found, first = .ok found ∧ second found = .ok value := by
  constructor
  · intro done
    cases first with
    | error cause => cases done
    | ok found => exact ⟨found, rfl, done⟩
  · rintro ⟨found, rfl, done⟩
    exact done

/-- A sequence of two steps fails when the first one fails, or the second one after it. -/
theorem bind_eq_error_iff {first : Except ε α} {second : α → Except ε β} {cause : ε} :
    (first >>= second) = .error cause ↔
      first = .error cause ∨ ∃ found, first = .ok found ∧ second found = .error cause := by
  constructor
  · intro failed
    cases first with
    | error other => exact .inl (error_congr.mp failed)
    | ok found => exact .inr ⟨found, rfl, failed⟩
  · rintro (rfl | ⟨found, rfl, failed⟩)
    · rfl
    · exact failed

/-! ## Lists -/

/-- A traversal gives one value for each item. -/
theorem mapM_eq_ok_iff {f : α → Except ε β} {items : List α} {values : List β} :
    items.mapM f = .ok values ↔ List.Forall₂ (fun item value => f item = .ok value) items values := by
  induction items generalizing values with
  | nil =>
    rw [List.forall₂_nil_left_iff, List.mapM_nil]
    exact ⟨fun read => (Except.ok.inj read).symm, fun same => same ▸ rfl⟩
  | cons first rest ih =>
    rw [List.mapM_cons, bind_eq_ok_iff, List.forall₂_cons_left_iff]
    constructor
    · rintro ⟨value, here, read⟩
      obtain ⟨later, rests, made⟩ := bind_eq_ok_iff.mp read
      cases made
      exact ⟨value, later, here, ih.mp rests, rfl⟩
    · rintro ⟨value, later, here, rests, rfl⟩
      exact ⟨value, here, bind_eq_ok_iff.mpr ⟨later, ih.mpr rests, rfl⟩⟩

/-- The values of a traversal are those of its items. -/
theorem mem_iff_of_mapM {f : α → Except ε β} {items : List α} {values : List β}
    (read : items.mapM f = .ok values) (value : β) :
    value ∈ values ↔ ∃ item ∈ items, f item = .ok value := by
  rw [mapM_eq_ok_iff] at read
  induction read with
  | nil => simp
  | cons here _ ih =>
    simp only [List.mem_cons, exists_eq_or_imp, here, Except.ok.injEq]
    exact or_congr eq_comm ih

/-- Items at one place of two lists belong to each other. -/
theorem exists_getElem?_of_forall₂ {related : α → β → Prop} {items : List α} {values : List β}
    (each : List.Forall₂ related items values) {place : ℕ} {item : α} (here : items[place]? = some item) :
    ∃ value, values[place]? = some value ∧ related item value := by
  induction each generalizing place with
  | nil => cases here
  | cons first _ ih =>
    cases place with
    | zero =>
      cases here
      exact ⟨_, rfl, first⟩
    | succ place => exact ih here

section Except

variable {f : α → Except ε β} (ok_iff : ∀ item, (∃ value, f item = .ok value) ↔ fine item)
include ok_iff

theorem mapM_isOk_iff (items : List α) :
    (∃ values, items.mapM f = .ok values) ↔ ∀ item ∈ items, fine item := by
  induction items with
  | nil => exact ⟨fun _ => nofun, fun _ => ⟨[], rfl⟩⟩
  | cons first rest ih =>
    rw [List.forall_mem_cons, ← ih, ← ok_iff, List.mapM_cons]
    constructor
    · rintro ⟨_, read⟩
      obtain ⟨value, here, read⟩ := bind_eq_ok_iff.mp read
      obtain ⟨values, later, -⟩ := bind_eq_ok_iff.mp read
      exact ⟨⟨value, here⟩, values, later⟩
    · rintro ⟨⟨value, here⟩, values, later⟩
      exact ⟨value :: values, bind_eq_ok_iff.mpr ⟨value, here, bind_eq_ok_iff.mpr ⟨values, later, rfl⟩⟩⟩

theorem mapM_eq_error_iff {cause : ε} (error_iff : ∀ item, f item = .error cause ↔ faulty item)
    (items : List α) : items.mapM f = .error cause ↔ FirstFault fine faulty items := by
  induction items with
  | nil => exact ⟨nofun, nofun⟩
  | cons first rest ih =>
    have tail : ∀ value, (do let values ← rest.mapM f; pure (value :: values)) = .error cause ↔
        FirstFault fine faulty rest := by
      intro value
      rw [bind_eq_error_iff, ih]
      exact or_iff_left (by rintro ⟨_, _, ⟨⟩⟩)
    rw [List.mapM_cons, bind_eq_error_iff, error_iff]
    constructor
    · rintro (bad | ⟨value, here, fault⟩)
      · exact .here bad
      · exact .later ((ok_iff first).mp ⟨value, here⟩) ((tail value).mp fault)
    · rintro (bad | ⟨good, fault⟩)
      · exact .inl bad
      · obtain ⟨value, here⟩ := (ok_iff first).mpr good
        exact .inr ⟨value, here, (tail value).mpr fault⟩

end Except

end VenueGateway
