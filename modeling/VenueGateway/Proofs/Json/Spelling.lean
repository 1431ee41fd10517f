import VenueGateway.Proofs.Json.Text
import VenueGateway.Proofs.NameMap

/-! # Texts that spell a value

A value that is made of strings is spelled by many texts, since the members of an object can stand in any
order. Each of them is read as the value, and the text that is written for the value is one of them.
-/

namespace VenueGateway.Json

variable {fuel depth : ℕ} {json : Json} {cs rest : List Char} {done : List Json}

/-- The characters of a member: its name, and the characters that are given for its value. -/
def memberChars (member : String × Json × List Char) : List Char :=
  writeString member.1 ++ ':' :: member.2.2

/-- The characters of a value that is made of strings, without blanks, and with the members of objects in
any order. `depth` is how deep arrays and objects stand inside one another at most. -/
inductive Spells : ℕ → Json → List Char → Prop
  | str (depth : ℕ) (value : String) : Spells depth (.str value) (writeString value)
  | arr {depth : ℕ} (items : List (Json × List Char)) :
    (∀ item ∈ items, Spells depth item.1 item.2) →
      Spells (depth + 1) (.arr (items.map Prod.fst))
        ('[' :: ([','].intercalate (items.map Prod.snd) ++ [']']))
  | obj {depth : ℕ} (members : List (String × Json × List Char)) :
    (∀ member ∈ members, Spells depth member.2.1 member.2.2) →
      Spells (depth + 1) (.object (members.map fun member => (member.1, member.2.1)))
        ('\x7b' :: ([','].intercalate (members.map memberChars) ++ ['\x7d']))

/-- Characters that are read as a value wherever one can stand. -/
structure ReadsAs (depth : ℕ) (json : Json) (cs : List Char) : Prop where
  head : ∃ c more, cs = c :: more ∧ isSpace c = false ∧ c ≠ ']'
  read : ∀ fuel rest, 2 * cs.length ≤ fuel → readValue fuel depth (cs ++ rest) = .ok (json, rest)

/-- Characters that are read as a value where nothing behind them continues a number, as it is inside of
arrays and objects. -/
structure ReadsWithin (depth : ℕ) (json : Json) (cs : List Char) : Prop where
  head : ∃ c more, cs = c :: more ∧ isSpace c = false ∧ c ≠ ']'
  read : ∀ fuel rest, 2 * cs.length ≤ fuel → Ends rest →
    readValue fuel depth (cs ++ rest) = .ok (json, rest)

theorem ReadsAs.within (reads : ReadsAs depth json cs) : ReadsWithin depth json cs :=
  ⟨reads.head, fun fuel rest long _ => reads.read fuel rest long⟩

/-- A comma and the closing bracket or brace continue no number. -/
theorem ends_cons {c : Char} (mark : c ∈ [',', ']', '\x7d']) (rest : List Char) : Ends (c :: rest) := by
  rintro _ ⟨⟩
  rw [List.mem_cons, List.mem_cons, List.mem_singleton] at mark
  rcases mark with rfl | rfl | rfl <;> decide

/-! ## Strings -/

theorem length_le_flatMap_escapedChar (cs : List Char) : cs.length ≤ (cs.flatMap escapedChar).length := by
  have pos : ∀ c, 1 ≤ (escapedChar c).length := by
    intro c
    rw [escapedChar.eq_def]
    split
    case h_8 => split <;> simp
    all_goals decide
  induction cs with
  | nil => exact le_rfl
  | cons c cs ih =>
    rw [List.flatMap_cons, List.length_append, List.length_cons, Nat.add_comm]
    exact Nat.add_le_add (pos c) ih

theorem readsAs_string (depth : ℕ) (s : String) : ReadsAs depth (.str s) (writeString s) := by
  have written : writeString s = '"' :: (s.toList.flatMap escapedChar ++ ['"']) := rfl
  refine ⟨⟨'"', _, written, by decide, by decide⟩, ?_⟩
  intro fuel rest long
  have short := length_le_flatMap_escapedChar s.toList
  rw [written, List.length_cons, List.length_append] at long
  obtain ⟨fuel, rfl⟩ := Nat.exists_eq_add_of_lt (Nat.lt_of_lt_of_le (by omega : 0 < _) long)
  rw [written, List.cons_append, List.append_assoc, Nat.zero_add, List.singleton_append,
    readValue_written (by omega), String.ofList_toList]

/-! ## Numbers -/

theorem head?_toDigits {n : ℕ} (pos : 0 < n) : (Nat.toDigits 10 n).head? ≠ some '0' := by
  induction n using Nat.strong_induction_on with
  | _ n ih =>
    by_cases small : n < 10
    · have digit : ∀ n < 10, 0 < n → [Nat.digitChar n].head? ≠ some '0' := by decide
      rw [Nat.toDigits_of_lt_base small]
      exact digit n small pos
    · rw [Nat.toDigits_of_base_le (by decide) (not_lt.mp small),
        List.head?_append_of_ne_nil _ Nat.toDigits_ne_nil]
      exact ih (n / 10) (by omega) (by omega)

/-- A natural number as it is written. -/
def Literal.ofNat (n : ℕ) : Literal where
  negative := false
  whole := Nat.toDigits 10 n
  fraction := []
  digits := by
    rw [List.append_nil]
    exact fun c => Nat.isDigit_of_mem_toDigits (by decide) (by decide)
  some_digits := Nat.toDigits_ne_nil
  no_zero := by
    intro zero
    obtain rfl : n = 0 := by
      by_contra nonzero
      exact head?_toDigits (Nat.pos_of_ne_zero nonzero) zero
    rfl

/-- A natural number of 64 bits is read as it is written. -/
theorem readsWithin_natural {n : ℕ} (fits : n < 2 ^ 64) (depth : ℕ) :
    ReadsWithin depth (.int n) (writeChars (.int n)) := by
  have significand : (Literal.ofNat n).significand = n := by
    rw [Literal.significand, Literal.ofNat, List.append_nil, Nat.ofDigitChars_ten_toDigits]
  have reads : (Literal.ofNat n).ReadsAs (.int (Literal.ofNat n).significand) :=
    Literal.readsAs_integer rfl rfl (significand.symm ▸ fits)
  rw [significand] at reads
  have written : writeChars (.int n) = (Literal.ofNat n).chars := by
    rw [writeChars, if_neg (by omega), Literal.chars, Literal.ofNat, Int.natAbs_natCast]
    exact (List.append_nil _).symm
  obtain ⟨c, more, front⟩ := List.exists_cons_of_ne_nil (Nat.toDigits_ne_nil (b := 10) (n := n))
  have chars : (Literal.ofNat n).chars = c :: more := by
    rw [← front]
    exact List.append_nil _
  have digit : c.isDigit = true :=
    Nat.isDigit_of_mem_toDigits (by decide) (by decide) (front ▸ List.mem_cons_self)
  refine ⟨⟨c, more, written.trans chars, isSpace_of_isDigit digit, ?_⟩, ?_⟩
  · rintro rfl
    exact absurd digit (by decide)
  · intro fuel rest long ends
    rw [written, chars, List.length_cons] at long
    obtain ⟨fuel, rfl⟩ := Nat.exists_eq_add_one_of_ne_zero (by omega : fuel ≠ 0)
    rw [written]
    exact reads fuel depth [] rest (List.forall_mem_nil _) ends

/-! ## Arrays -/

/-- What is put together from pieces begins as the first of them does. -/
theorem exists_intercalate_cons (sep : List Char) (c : Char) (first : List Char)
    (pieces : List (List Char)) :
    ∃ tail, sep.intercalate ((c :: first) :: pieces) = c :: tail := by
  cases pieces with
  | nil => exact ⟨first, List.intercalate_singleton⟩
  | cons next pieces => exact ⟨_, List.intercalate_cons_cons⟩

theorem intercalate_map_cons_cons {α : Type} (chars : α → List Char) (first next : α) (others : List α) :
    [','].intercalate ((first :: next :: others).map chars) =
      chars first ++ ',' :: [','].intercalate ((next :: others).map chars) := by
  rw [List.map_cons, List.map_cons, List.intercalate_cons_cons, List.append_assoc]
  rfl

/-- Items begin with a character that closes nothing. -/
theorem exists_items_cons {item : Json × List Char} (reads : ReadsWithin depth item.1 item.2)
    (items : List (Json × List Char)) :
    ∃ c tail, [','].intercalate ((item :: items).map Prod.snd) = c :: tail ∧
      isSpace c = false ∧ c ≠ ']' := by
  obtain ⟨c, more, item_eq, visible, noBracket⟩ := reads.head
  obtain ⟨tail, tail_eq⟩ := exists_intercalate_cons [','] c more (items.map Prod.snd)
  refine ⟨c, tail, ?_, visible, noBracket⟩
  rw [List.map_cons, item_eq, tail_eq]

theorem readItems_readsAs (fuel : ℕ) (done : List Json) (rest : List Char) {item : Json × List Char}
    {items : List (Json × List Char)} (each : ∀ other ∈ item :: items, ReadsWithin depth other.1 other.2)
    (long : 2 * ([','].intercalate ((item :: items).map Prod.snd) ++ [']']).length ≤ fuel) :
    readItems fuel depth done ([','].intercalate ((item :: items).map Prod.snd) ++ ']' :: rest) =
      .ok (.arr (done.reverse ++ (item :: items).map Prod.fst), rest) := by
  induction items generalizing item fuel done with
  | nil =>
    rw [List.map_singleton, List.intercalate_singleton, List.length_append, List.length_singleton] at long
    obtain ⟨fuel, rfl⟩ := Nat.exists_eq_add_one_of_ne_zero (by omega : fuel ≠ 0)
    have read := (each item List.mem_cons_self).read fuel (']' :: rest) (by omega)
      (ends_cons (by decide) rest)
    rw [List.map_singleton, List.intercalate_singleton, List.map_singleton, readItems_last read,
      List.reverse_cons]
  | cons next items ih =>
    have here := each item List.mem_cons_self
    have later : ∀ other ∈ next :: items, ReadsWithin depth other.1 other.2 :=
      fun other member => each other (List.mem_cons_of_mem _ member)
    obtain ⟨c, tail, tail_eq, visible, noBracket⟩ :=
      exists_items_cons (later next List.mem_cons_self) items
    have split : [','].intercalate ((item :: next :: items).map Prod.snd) =
        item.2 ++ ',' :: c :: tail := by
      rw [intercalate_map_cons_cons, tail_eq]
    rw [split, List.append_assoc, List.cons_append, List.length_append, List.length_cons] at long
    obtain ⟨fuel, rfl⟩ := Nat.exists_eq_add_one_of_ne_zero (by omega : fuel ≠ 0)
    have read := here.read fuel (',' :: c :: (tail ++ ']' :: rest)) (by omega)
      (ends_cons (by decide) _)
    have laterRead := ih fuel (item.1 :: done) later (by rw [tail_eq]; omega)
    rw [split, List.append_assoc, List.cons_append, List.cons_append,
      readItems_next visible noBracket read, ← List.cons_append, ← tail_eq, laterRead,
      List.reverse_cons, List.append_assoc]
    rfl

theorem readsAs_array {items : List (Json × List Char)}
    (each : ∀ item ∈ items, ReadsWithin depth item.1 item.2) :
    ReadsAs (depth + 1) (.arr (items.map Prod.fst))
      ('[' :: ([','].intercalate (items.map Prod.snd) ++ [']'])) := by
  refine ⟨⟨'[', _, rfl, by decide, by decide⟩, ?_⟩
  intro fuel rest long
  rw [List.length_cons] at long
  obtain ⟨fuel, rfl⟩ := Nat.exists_eq_add_one_of_ne_zero (by omega : fuel ≠ 0)
  cases items with
  | nil => rfl
  | cons item items =>
    have read := readItems_readsAs fuel [] rest each (by omega)
    obtain ⟨c, tail, tail_eq, visible, noBracket⟩ :=
      exists_items_cons (each item List.mem_cons_self) items
    rw [tail_eq, List.cons_append] at read
    rw [tail_eq, List.cons_append, List.cons_append, List.cons_append, List.append_assoc,
      List.singleton_append, readValue_array visible noBracket, read]
    rfl

/-! ## Objects -/

theorem memberChars_eq (member : String × Json × List Char) :
    memberChars member =
      '"' :: (member.1.toList.flatMap escapedChar ++ '"' :: ':' :: member.2.2) := by
  rw [memberChars, writeString, List.cons_append, List.cons_append, List.append_assoc]
  rfl

/-- Members begin with the quote of a name. -/
theorem exists_members_cons (member : String × Json × List Char)
    (members : List (String × Json × List Char)) :
    ∃ tail, [','].intercalate ((member :: members).map memberChars) = '"' :: tail := by
  rw [List.map_cons, memberChars_eq]
  exact exists_intercalate_cons [','] '"' _ _

def insertAll (members : List (String × Json × List Char)) (entries : List (String × Json)) :
    List (String × Json) :=
  members.foldl (fun entries member => Entries.insert member.1 member.2.1 entries) entries

theorem readMembers_readsAs (fuel : ℕ) (entries : List (String × Json)) (rest : List Char)
    {text : List Char} {member : String × Json × List Char} {members : List (String × Json × List Char)}
    (each : ∀ other ∈ member :: members, ReadsWithin depth other.2.1 other.2.2)
    (front : [','].intercalate ((member :: members).map memberChars) = '"' :: text)
    (long : 2 * (text ++ ['\x7d']).length ≤ fuel) :
    readMembers fuel depth entries (text ++ '\x7d' :: rest) =
      .ok (.obj (insertAll (member :: members) entries), rest) := by
  induction members generalizing member fuel entries text with
  | nil =>
    have short := length_le_flatMap_escapedChar member.1.toList
    rw [List.map_singleton, List.intercalate_singleton, memberChars_eq, List.cons.injEq] at front
    obtain ⟨-, rfl⟩ := front
    simp only [List.length_append, List.length_cons] at long
    obtain ⟨fuel, rfl⟩ := Nat.exists_eq_add_one_of_ne_zero (by omega : fuel ≠ 0)
    have read := (each member List.mem_cons_self).read fuel ('\x7d' :: rest) (by omega)
      (ends_cons (by decide) rest)
    rw [List.append_assoc, List.cons_append, List.cons_append,
      readMembers_written_last (by omega) read]
    rfl
  | cons next members ih =>
    have short := length_le_flatMap_escapedChar member.1.toList
    have here := each member List.mem_cons_self
    have later : ∀ other ∈ next :: members, ReadsWithin depth other.2.1 other.2.2 :=
      fun other listed => each other (List.mem_cons_of_mem _ listed)
    obtain ⟨tail, tail_eq⟩ := exists_members_cons next members
    rw [intercalate_map_cons_cons, tail_eq, memberChars_eq, List.cons_append, List.cons.injEq] at front
    obtain ⟨-, rfl⟩ := front
    simp only [List.length_append, List.length_cons] at long
    obtain ⟨fuel, rfl⟩ := Nat.exists_eq_add_one_of_ne_zero (by omega : fuel ≠ 0)
    have read := here.read fuel (',' :: '"' :: (tail ++ '\x7d' :: rest)) (by omega)
      (ends_cons (by decide) _)
    have laterRead := ih fuel (Entries.insert member.1 member.2.1 entries) later tail_eq
      (by simp only [List.length_append, List.length_cons]; omega)
    simp only [List.append_assoc, List.cons_append]
    rw [readMembers_written_next (by omega) read, laterRead]
    rfl

theorem readsAs_object {members : List (String × Json × List Char)}
    (each : ∀ member ∈ members, ReadsWithin depth member.2.1 member.2.2) :
    ReadsAs (depth + 1) (.object (members.map fun member => (member.1, member.2.1)))
      ('\x7b' :: ([','].intercalate (members.map memberChars) ++ ['\x7d'])) := by
  refine ⟨⟨'\x7b', _, rfl, by decide, by decide⟩, ?_⟩
  intro fuel rest long
  rw [List.length_cons] at long
  obtain ⟨fuel, rfl⟩ := Nat.exists_eq_add_one_of_ne_zero (by omega : fuel ≠ 0)
  cases members with
  | nil => rfl
  | cons member members =>
    obtain ⟨tail, tail_eq⟩ := exists_members_cons member members
    rw [tail_eq, List.cons_append, List.length_cons] at long
    rw [tail_eq, List.cons_append, List.cons_append, List.cons_append, List.append_assoc,
      List.singleton_append, readValue_object, readMembers_readsAs fuel [] rest each tail_eq (by omega),
      object, List.foldl_map]
    rfl

/-! ## Values -/

/-- A text that spells a value is read as the value. -/
theorem Spells.readsAs (spells : Spells depth json cs) : ReadsAs depth json cs := by
  induction spells with
  | str depth value => exact readsAs_string depth value
  | arr items _ each => exact readsAs_array fun item member => (each item member).within
  | obj members _ each => exact readsAs_object fun member listed => (each member listed).within

theorem ReadsAs.read_text {text : String} (reads : ReadsAs depthLimit json text.toList) :
    Json.read text = .ok json := by
  have whole := reads.read (2 * text.toList.length) [] le_rfl
  rw [List.append_nil] at whole
  rw [Json.read, readChars, whole]
  rfl

/-- A whole text that spells a value is read as it. -/
theorem Spells.read {text : String} (spells : Spells depthLimit json text.toList) :
    Json.read text = .ok json := spells.readsAs.read_text

def objectText (members : List (String × Json × List Char)) : String :=
  String.ofList ('\x7b' :: ([','].intercalate (members.map memberChars) ++ ['\x7d']))

/-- The text of an object is read as the object, in whatever order its members stand. -/
theorem read_objectText {members : List (String × Json × List Char)}
    (each : ∀ member ∈ members, ReadsWithin 126 member.2.1 member.2.2) :
    Json.read (objectText members) = .ok (.object (members.map fun member => (member.1, member.2.1))) := by
  apply ReadsAs.read_text
  rw [objectText, String.toList_ofList]
  exact readsAs_object each

/-! ## What is written -/

/-- A value that is made of strings, with the members of objects in the order of their names. `depth` is
how deep arrays and objects stand inside one another at most. -/
inductive Worded : ℕ → Json → Prop
  | str (depth : ℕ) (value : String) : Worded depth (.str value)
  | arr {depth : ℕ} {items : List Json} : (∀ item ∈ items, Worded depth item) →
    Worded (depth + 1) (.arr items)
  | obj {depth : ℕ} {members : List (String × Json)} : Entries.Increasing members →
    (∀ member ∈ members, Worded depth member.2) → Worded (depth + 1) (.obj members)

theorem writeItems_eq (item : Json) (items : List Json) :
    writeChars item ++ writeItems items =
      [','].intercalate ((item :: items).map writeChars) ++ [']'] := by
  induction items generalizing item with
  | nil => rw [writeItems, List.map_singleton, List.intercalate_singleton]
  | cons next items ih =>
    rw [writeItems, List.cons_append, ih, intercalate_map_cons_cons, List.append_assoc, List.cons_append]

theorem writeChars_arr (items : List Json) :
    writeChars (.arr items) = '[' :: ([','].intercalate (items.map writeChars) ++ [']']) := by
  cases items with
  | nil => rw [writeChars]; rfl
  | cons item items => rw [writeChars, List.cons_append, writeItems_eq]

def writtenMember (member : String × Json) : String × Json × List Char :=
  (member.1, member.2, writeChars member.2)

theorem writeMembers_eq (member : String × Json) (members : List (String × Json)) :
    memberChars (writtenMember member) ++ writeMembers members =
      [','].intercalate ((member :: members).map fun member => memberChars (writtenMember member)) ++
        ['\x7d'] := by
  induction members generalizing member with
  | nil => rw [writeMembers, List.map_singleton, List.intercalate_singleton]
  | cons next members ih =>
    have written : writeMembers (next :: members) =
        ',' :: (memberChars (writtenMember next) ++ writeMembers members) := by
      rw [writeMembers]
      rfl
    rw [written, ih, intercalate_map_cons_cons, List.append_assoc, List.cons_append]

theorem writeChars_obj (members : List (String × Json)) :
    writeChars (.obj members) = '\x7b' :: ([','].intercalate
      (members.map fun member => memberChars (writtenMember member)) ++ ['\x7d']) := by
  cases members with
  | nil => rw [writeChars]; rfl
  | cons member members =>
    rw [← writeMembers_eq, writeChars]
    rfl

/-- The members of an object are put into a map, and listed in its order. -/
theorem object_eq (members : List (String × Json)) :
    object members = .obj (NameMap.ofList members).entries := by
  rw [object, NameMap.entries_ofList]

theorem map_fst_written (items : List Json) :
    (items.map fun item => (item, writeChars item)).map Prod.fst = items := by
  rw [List.map_map]
  exact List.map_id items

theorem map_members_written (members : List (String × Json)) :
    (members.map writtenMember).map (fun member => (member.1, member.2.1)) = members := by
  rw [List.map_map]
  exact List.map_id members

/-- What is written for a value spells it. -/
theorem Worded.spells (worded : Worded depth json) : Spells depth json (writeChars json) := by
  induction worded with
  | str depth value =>
    rw [writeChars]
    exact .str depth value
  | @arr depth items _ each =>
    have spells : Spells (depth + 1) _ _ :=
      .arr (items.map fun item => (item, writeChars item)) (List.forall_mem_map.mpr each)
    rw [map_fst_written, List.map_map] at spells
    rw [writeChars_arr]
    exact spells
  | @obj depth members increasing _ each =>
    have spells : Spells (depth + 1) _ _ :=
      .obj (members.map writtenMember) (List.forall_mem_map.mpr each)
    rw [map_members_written, List.map_map, object_eq, NameMap.ofList_entries ⟨members, increasing⟩]
      at spells
    rw [writeChars_obj]
    exact spells

/-! ### What is written and read -/

theorem readsAs_written_arr {items : List Json}
    (each : ∀ item ∈ items, ReadsWithin depth item (writeChars item)) :
    ReadsAs (depth + 1) (.arr items) (writeChars (.arr items)) := by
  have reads : ReadsAs (depth + 1) (.arr ((items.map fun item => (item, writeChars item)).map Prod.fst)) _ :=
    readsAs_array (List.forall_mem_map.mpr each)
  rw [map_fst_written, List.map_map] at reads
  rw [writeChars_arr]
  exact reads

theorem readsAs_written_obj {members : List (String × Json)} (increasing : Entries.Increasing members)
    (each : ∀ member ∈ members, ReadsWithin depth member.2 (writeChars member.2)) :
    ReadsAs (depth + 1) (.obj members) (writeChars (.obj members)) := by
  have reads : ReadsAs (depth + 1)
      (.object ((members.map writtenMember).map fun member => (member.1, member.2.1))) _ :=
    readsAs_object (List.forall_mem_map.mpr each)
  rw [map_members_written, List.map_map, object_eq, NameMap.ofList_entries ⟨members, increasing⟩]
    at reads
  rw [writeChars_obj]
  exact reads

end VenueGateway.Json
