import VenueGateway.Proofs.NameMap
import VenueGateway.Proofs.Text.Spelling
import VenueGateway.Settings.Basic

/-! # What the environment replaces

The environment replaces the key and the secret, each by a variable of its own, and nothing else. What
becomes of secrets depends on these two variables alone, so replacing them again changes nothing, and
the case of the letters of their owner does not matter.
-/

namespace VenueGateway

/-- What an environment offers under a name: the value of the variable, if it is set and not empty. -/
def Environment.offer (environment : Environment) (name : String) : Option String :=
  (environment name).filter (· ≠ "")

namespace Secrets

variable {environment : Environment} {owner other name : String} {secrets : Secrets}

/-- Secrets after the environment was asked for their owner. -/
structure Overridden (environment : Environment) (owner : String) (secrets overridden : Secrets) :
    Prop where
  key : overridden.get? "key" =
    (environment.offer (Text.upper owner ++ "_KEY")).or (secrets.get? "key")
  secret : overridden.get? "secret" =
    (environment.offer (Text.upper owner ++ "_SECRET")).or (secrets.get? "secret")
  others : ∀ name, name ≠ "key" → name ≠ "secret" → overridden.get? name = secrets.get? name

/-! ## One entry -/

theorem get?_overrideEntry (environment : Environment) (owner name : String) (secrets : Secrets) :
    (secrets.overrideEntry environment owner name).get? name =
      (environment.offer (variableName owner name)).or (secrets.get? name) := by
  rw [overrideEntry, Environment.offer]
  cases environment (variableName owner name) with
  | none => rfl
  | some value =>
    dsimp only
    by_cases empty : value = ""
    · rw [if_pos (by simpa using empty), Option.filter_some, if_neg (by simpa using empty)]
      rfl
    · rw [if_neg (by simpa using empty), Option.filter_some, if_pos (by simpa using empty)]
      exact NameMap.get?_insert_self ..

theorem get?_overrideEntry_of_ne (different : other ≠ name) (environment : Environment)
    (owner : String) (secrets : Secrets) :
    (secrets.overrideEntry environment owner name).get? other = secrets.get? other := by
  rw [overrideEntry]
  split
  · split
    · rfl
    · exact NameMap.get?_insert_of_ne _ different _
  · rfl

/-! ## The key and the secret -/

theorem overridden_override (environment : Environment) (owner : String) (secrets : Secrets) :
    Overridden environment owner secrets (secrets.override environment owner) := by
  have keyVariable : variableName owner keyName = Text.upper owner ++ "_KEY" := by
    rw [variableName, String.append_assoc]
    rfl
  have secretVariable : variableName owner secretName = Text.upper owner ++ "_SECRET" := by
    rw [variableName, String.append_assoc]
    rfl
  refine ⟨?key, ?secret, ?others⟩
  case key =>
    rw [override, get?_overrideEntry_of_ne (by decide), ← keyVariable]
    exact get?_overrideEntry environment owner keyName secrets
  case secret =>
    rw [override, ← secretVariable]
    refine (get?_overrideEntry environment owner secretName _).trans ?_
    rw [get?_overrideEntry_of_ne (by decide)]
    rfl
  case others =>
    intro name notKey notSecret
    exact (get?_overrideEntry_of_ne notSecret ..).trans (get?_overrideEntry_of_ne notKey ..)

/-- What the environment makes of secrets is determined. -/
theorem Overridden.unique {overridden another : Secrets}
    (first : Overridden environment owner secrets overridden)
    (second : Overridden environment owner secrets another) : overridden = another := by
  apply NameMap.eq_of_get?
  intro name
  by_cases isKey : name = "key"
  · rw [isKey, first.key, second.key]
  · by_cases isSecret : name = "secret"
    · rw [isSecret, first.secret, second.secret]
    · rw [first.others name isKey isSecret, second.others name isKey isSecret]

/-- What the environment offers once, it offers again. -/
theorem override_override (environment : Environment) (owner : String) (secrets : Secrets) :
    (secrets.override environment owner).override environment owner =
      secrets.override environment owner := by
  have once := overridden_override environment owner secrets
  have twice := overridden_override environment owner (secrets.override environment owner)
  have both : Overridden environment owner secrets
      ((secrets.override environment owner).override environment owner) := by
    refine ⟨?key, ?secret, ?others⟩
    case key => rw [twice.key, once.key, ← Option.or_assoc, Option.or_self]
    case secret => rw [twice.secret, once.secret, ← Option.or_assoc, Option.or_self]
    case others =>
      intro name notKey notSecret
      rw [twice.others name notKey notSecret, once.others name notKey notSecret]
  exact both.unique once

/-- Owners with the same letters have the same variables. -/
theorem override_congr (same : Text.upper owner = Text.upper other) (environment : Environment)
    (secrets : Secrets) : secrets.override environment owner = secrets.override environment other := by
  have renamed : ∀ name, variableName owner name = variableName other name := by
    intro name
    rw [variableName, same, variableName]
  simp only [override, overrideEntry, renamed]

/-- Other owners have other variables, so some environment tells them from each other. -/
theorem override_eq_iff :
    (∀ (environment : Environment) (secrets : Secrets),
      secrets.override environment owner = secrets.override environment other) ↔
        Text.upper owner = Text.upper other := by
  constructor
  · intro alike
    let environment : Environment := fun asked =>
      if asked = Text.upper other ++ "_KEY" then some "key" else none
    have here := (overridden_override environment owner ∅).key
    have there := (overridden_override environment other ∅).key
    rw [alike, there] at here
    by_contra different
    have unset : environment (Text.upper owner ++ "_KEY") = none := by
      apply if_neg
      intro same
      exact different ((String.append_left_inj _).mp same)
    have set : environment (Text.upper other ++ "_KEY") = some "key" := if_pos rfl
    rw [Environment.offer, Environment.offer, set, unset] at here
    cases here
  · exact override_congr

end Secrets

end VenueGateway
