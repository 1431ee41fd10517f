import Mathlib.Data.List.DropRight
import Mathlib.Tactic.IntervalCases
import VenueGateway.Text.Ascii
import VenueGateway.Text.Blank

/-! # Spellings of a name

A name can be written in any case of the letters of ASCII, and with blanks around it. Letters that are
turned up are the same for all cases of a name; blanks are gone only where they are trimmed.
-/

namespace VenueGateway.Text

variable {s t : String}

/-! ## Blanks -/

/-- A text with a visible character. -/
def Visible (text : String) : Prop := ∃ c ∈ text.toList, isBlank c = false

theorem isBlankText_eq_false_iff : isBlankText s = false ↔ Visible s := by
  rw [isBlankText, List.all_eq_false, Visible]
  simp only [Bool.not_eq_true]

theorem trimChars_within (cs : List Char) : trimChars cs <:+: cs := by
  have behind : trimChars cs <+: trimStart cs := List.rdropWhile_prefix isBlank _
  have inFront : trimStart cs <:+ cs := List.dropWhile_suffix isBlank
  exact behind.isInfix.trans inFront.isInfix

/-- Trimming that leaves the length as it is leaves the text as it is. -/
theorem trim_eq_of_length (same : (trim s).toList.length = s.toList.length) : trim s = s := by
  rw [trim, String.toList_ofList] at same
  have kept : trimChars s.toList = s.toList := (trimChars_within s.toList).eq_of_length same
  rw [trim, kept, String.ofList_toList]

theorem isBlank_of_isDigit {c : Char} (digit : c.isDigit = true) : isBlank c = false := by
  obtain ⟨low, high⟩ := Char.isDigit_iff_toNat.mp digit
  change 48 ≤ c.toNat at low
  change c.toNat ≤ 57 at high
  rw [isBlank]
  interval_cases c.toNat
  all_goals rfl

/-- Written with any blanks around it. -/
def Padded (body : List Char) (written : String) : Prop :=
  ∃ front back : List Char, (∀ c ∈ front, isBlank c = true) ∧ (∀ c ∈ back, isBlank c = true) ∧
    written.toList = front ++ body ++ back

theorem trimStart_append {front : List Char} (blank : ∀ c ∈ front, isBlank c = true) (cs : List Char) :
    trimStart (front ++ cs) = trimStart cs := List.dropWhile_append_of_pos blank

theorem trimStart_of_head {cs : List Char} (visible : ∀ c ∈ cs.head?, isBlank c = false) :
    trimStart cs = cs := by
  cases cs with
  | nil => rfl
  | cons c cs => rw [trimStart, List.dropWhile_cons, visible c rfl, if_neg Bool.false_ne_true]

theorem trimEnd_eq (cs : List Char) : trimEnd cs = (trimStart cs.reverse).reverse := rfl

/-- Trimming takes the blanks around a text away, and no more. -/
theorem trim_of_padded {body : List Char} {written : String} (visible : ∀ c ∈ body, isBlank c = false)
    (padded : Padded body written) : trim written = String.ofList body := by
  obtain ⟨front, back, frontBlank, backBlank, written_eq⟩ := padded
  have backReversed : ∀ c ∈ back.reverse, isBlank c = true :=
    fun c member => backBlank c (List.mem_reverse.mp member)
  have bodyReversed : ∀ c ∈ body.reverse.head?, isBlank c = false :=
    fun c member => visible c (List.mem_reverse.mp (List.mem_of_mem_head? member))
  rw [trim, trimChars, written_eq, List.append_assoc, trimStart_append frontBlank]
  cases body with
  | nil =>
    have nothing : trimStart back = [] := List.dropWhile_eq_nil_iff.mpr backBlank
    rw [List.nil_append, nothing]
    rfl
  | cons c body =>
    have head : ∀ d ∈ (c :: body ++ back).head?, isBlank d = false := by
      rintro d ⟨⟩
      exact visible c List.mem_cons_self
    rw [trimStart_of_head head, trimEnd_eq, List.reverse_append, trimStart_append backReversed,
      trimStart_of_head bodyReversed, List.reverse_reverse]

/-! ## Letters -/

/-- A letter that is turned down first is turned up all the same. -/
theorem toUpper_toLower (c : Char) : c.toLower.toUpper = c.toUpper := by
  by_cases ascii : c.toNat < 128
  · have each : ∀ n : Fin 128, (Char.ofNat n).toLower.toUpper = (Char.ofNat n).toUpper := by decide
    have turned : (Char.ofNat c.toNat).toLower.toUpper = (Char.ofNat c.toNat).toUpper :=
      each ⟨c.toNat, ascii⟩
    rwa [Char.ofNat_toNat] at turned
  · have noCapital : ¬ ('A'.val ≤ c.val ∧ c.val ≤ 'Z'.val) := by
      rintro ⟨-, below⟩
      exact ascii (Nat.lt_of_le_of_lt below (by decide))
    have still : c.toLower = c := dif_neg noCapital
    rw [still]

theorem upper_lower (s : String) : upper (lower s) = upper s := by
  rw [upper, lower, String.toList_ofList, List.map_map, upper]
  congr 1
  apply List.map_congr_left
  intro c _
  exact toUpper_toLower c

theorem upper_of_lower_eq (same : lower s = lower t) : upper s = upper t := by
  rw [← upper_lower s, same, upper_lower]

theorem sameIgnoringCase_iff : sameIgnoringCase s t = true ↔ lower s = lower t := by
  rw [sameIgnoringCase, decide_eq_true_eq, lower, lower, String.ofList_inj]

theorem length_upper (s : String) : (upper s).toList.length = s.toList.length := by
  rw [upper, String.toList_ofList, List.length_map]

/-- Letters that are turned up do not hide the blanks around a text. -/
theorem upper_trim_eq_iff : upper (trim s) = upper s ↔ trim s = s := by
  constructor
  · intro same
    apply trim_eq_of_length
    rw [← length_upper, same, length_upper]
  · intro trimmed
    rw [trimmed]

end VenueGateway.Text
