import VenueGateway.Text.Listing
import VenueGateway.Text.Quoted

/-! # Texts by another listing

A text that lists something at one place is changed by another listing at that place alone, and there
nothing but the order changes. Groups of fields and everything else that is put around such a text keep
it so.
-/

namespace VenueGateway.Text

/-- A text that lists something at one place at most. -/
inductive ListsOnce : (Listing → String) → Prop
  | fixed (text : String) : ListsOnce fun _ => text
  | place (front back : String) (items : List String) :
    ListsOnce fun listing => front ++ listing.braced items ++ back

theorem exists_intercalate (sep : String) (front back : List String) :
    ∃ before after, ∀ text, sep.intercalate (front ++ text :: back) = before ++ text ++ after := by
  induction front with
  | nil =>
    cases back with
    | nil => exact ⟨"", "", fun text => by simp⟩
    | cons next back =>
      refine ⟨"", sep ++ sep.intercalate (next :: back), fun text => ?_⟩
      rw [List.nil_append, String.intercalate_cons_cons]
      simp only [String.empty_append, String.append_assoc]
  | cons first front ih =>
    obtain ⟨before, after, around⟩ := ih
    refine ⟨first ++ sep ++ before, after, fun text => ?_⟩
    rw [List.cons_append, String.intercalate_cons_of_ne_nil (by simp), around]
    simp only [String.append_assoc]

/-- A field of a group stands in the text of its fields at one place. -/
theorem exists_shownFields (field : String) (front back : List (String × String)) :
    ∃ before after, ∀ text,
      ", ".intercalate ((front ++ (field, text) :: back).map fun field => field.1 ++ ": " ++ field.2) =
        before ++ text ++ after := by
  obtain ⟨before, after, around⟩ := exists_intercalate ", "
    (front.map fun field => field.1 ++ ": " ++ field.2) (back.map fun field => field.1 ++ ": " ++ field.2)
  refine ⟨before ++ field ++ ": ", after, fun text => ?_⟩
  rw [List.map_append, List.map_cons, around]
  simp only [String.append_assoc]

namespace ListsOnce

variable {text : Listing → String}

theorem braced (items : List String) : ListsOnce fun listing => listing.braced items := by
  have place := place "" "" items
  simpa using place

theorem append (once : ListsOnce text) (front back : String) :
    ListsOnce fun listing => front ++ text listing ++ back := by
  cases once with
  | fixed text => exact .fixed _
  | place before after items =>
    have place := place (front ++ before) (after ++ back) items
    simpa only [String.append_assoc] using place

theorem record (once : ListsOnce text) (name field : String) (front back : List (String × String)) :
    ListsOnce fun listing => shownRecord name (front ++ (field, text listing) :: back) := by
  obtain ⟨before, after, around⟩ := exists_shownFields field front back
  have placed := once.append (name ++ " \x7b " ++ before) (after ++ " \x7d")
  simp only [shownRecord, around]
  simpa only [String.append_assoc] using placed

theorem partially (once : ListsOnce text) (name field : String) (front back : List (String × String)) :
    ListsOnce fun listing => shownPartially name (front ++ (field, text listing) :: back) := by
  obtain ⟨before, after, around⟩ := exists_shownFields field front back
  have placed := once.append (name ++ " \x7b " ++ before) (after ++ ", .. \x7d")
  simp only [shownPartially, around]
  simpa only [String.append_assoc] using placed

end ListsOnce

end VenueGateway.Text
