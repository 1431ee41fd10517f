import VenueGateway.Tolerance

/-! # What a tolerance covers

The tolerance of some settings covers exactly the statuses that they name and the texts that contain
one of their fragments that is not empty. From this follows what it makes of a response and of a
failure of the transport.
-/

namespace VenueGateway

/-- A text that can be cut around a fragment. -/
def Text.Contains (text fragment : String) : Prop :=
  ∃ before after : String, text = before ++ fragment ++ after

theorem Text.hasFragment_iff (text fragment : String) :
    Text.hasFragment text fragment = true ↔ Text.Contains text fragment := by
  rw [Text.hasFragment, Text.occursIn_iff]
  constructor
  · rintro ⟨before, after, cut⟩
    refine ⟨String.ofList before, String.ofList after, ?_⟩
    rw [← String.toList_inj, cut]
    simp
  · rintro ⟨before, after, rfl⟩
    exact ⟨before.toList, after.toList, by simp⟩

/-- A text with a fragment that the settings name. Empty fragments do not count. -/
def NetworkSettings.FragmentIn (network : NetworkSettings) (text : String) : Prop :=
  ∃ fragment ∈ network.transientFragments, fragment ≠ "" ∧ Text.Contains text fragment

namespace Tolerance

theorem coversStatus_ofSettings (network : NetworkSettings) (status : Fin 65536) :
    (ofSettings network).coversStatus status = true ↔ status ∈ network.transientStatuses :=
  List.contains_iff_mem

theorem coversText_ofSettings (network : NetworkSettings) (text : String) :
    (ofSettings network).coversText text = true ↔ network.FragmentIn text := by
  rw [coversText, List.any_eq_true]
  constructor
  · rintro ⟨fragment, member, found⟩
    obtain ⟨named, nonempty⟩ := List.mem_filter.mp member
    exact ⟨fragment, named, by simpa using nonempty, (Text.hasFragment_iff _ _).mp found⟩
  · rintro ⟨fragment, named, nonempty, found⟩
    exact ⟨fragment, List.mem_filter.mpr ⟨named, by simpa using nonempty⟩,
      (Text.hasFragment_iff _ _).mpr found⟩

/-! ## Responses and failures -/

/-- A response that the tolerance does not let pass: by its status, or by its body outside of the
200s. -/
def Refuses (tolerance : Tolerance) (response : Response) : Prop :=
  tolerance.coversStatus response.status = true ∨
    response.isSuccess = false ∧ tolerance.coversText response.payload = true

theorem checkResponse_cases (tolerance : Tolerance) (response : Response) :
    (tolerance.Refuses response ∧
      ∃ detail, tolerance.checkResponse response = .error (.network detail)) ∨
    (¬ tolerance.Refuses response ∧ tolerance.checkResponse response = .ok response) := by
  rw [checkResponse]
  split
  · rename_i covered
    exact .inl ⟨.inl covered, _, rfl⟩
  · rename_i uncovered
    split
    · rename_i body
      simp only [Bool.and_eq_true, Bool.not_eq_true'] at body
      exact .inl ⟨.inr body, _, rfl⟩
    · rename_i body
      simp only [Bool.and_eq_true, Bool.not_eq_true'] at body
      exact .inr ⟨fun refused => refused.elim uncovered body, rfl⟩

theorem checkFailure_of_covered {tolerance : Tolerance} {detail : String}
    (covered : tolerance.coversText detail = true) (response : Option Response) :
    tolerance.checkFailure (.tradingApi detail response) = .network detail := by
  rw [checkFailure, if_pos covered]

theorem checkFailure_of_uncovered {tolerance : Tolerance} {failure : Failure}
    (uncovered : ∀ detail response, failure = .tradingApi detail response →
      tolerance.coversText detail ≠ true) : tolerance.checkFailure failure = failure := by
  cases failure with
  | tradingApi detail response => rw [checkFailure, if_neg (uncovered detail response rfl)]
  | configuration | network | invalidArgument => rfl

end Tolerance

end VenueGateway
