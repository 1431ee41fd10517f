/-! # Looking for a fragment in a text

A fragment occurs in a text when the text is something, the fragment, and something more.
-/

namespace VenueGateway.Text

/-- Whether the fragment starts here or at a later character. -/
def occursIn (fragment : List Char) : List Char → Bool
  | [] => fragment.isEmpty
  | c :: rest => fragment.isPrefixOf (c :: rest) || occursIn fragment rest

def hasFragment (text fragment : String) : Bool := occursIn fragment.toList text.toList

/-- A fragment occurs exactly in the texts that can be cut around it. -/
theorem occursIn_iff (fragment text : List Char) :
    occursIn fragment text = true ↔ ∃ before after, text = before ++ fragment ++ after := by
  induction text with
  | nil =>
    constructor
    · intro h
      exact ⟨[], [], by simp [List.isEmpty_iff.mp h]⟩
    · rintro ⟨before, after, h⟩
      have empty := (List.append_eq_nil_iff.mp h.symm).1
      simp [occursIn, (List.append_eq_nil_iff.mp empty).2]
  | cons c rest ih =>
    rw [occursIn, Bool.or_eq_true, ih, List.isPrefixOf_iff_prefix]
    constructor
    · rintro (⟨after, h⟩ | ⟨before, after, h⟩)
      · exact ⟨[], after, by simpa using h.symm⟩
      · exact ⟨c :: before, after, by simp [h]⟩
    · rintro ⟨before, after, h⟩
      cases before with
      | nil => exact .inl ⟨after, by simpa using h.symm⟩
      | cons b before =>
        simp only [List.cons_append, List.cons.injEq] at h
        exact .inr ⟨before, after, h.2⟩

end VenueGateway.Text
