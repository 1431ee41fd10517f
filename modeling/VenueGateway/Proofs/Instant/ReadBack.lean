import VenueGateway.Proofs.Instant.Stamp

/-! # Instants read back from their texts

An instant is written as a stamp in universal time, with the fewest of 0, 3, 6 and 9 fraction digits that
keep its nanoseconds. Outside leap seconds, and in years of four digits, that stamp denotes the instant,
so its text reads as the instant itself.
-/

namespace VenueGateway.Instant

open Decimal (lastDigits)

variable {s : Stamp} {t : Instant}

/-- Outside leap seconds, in a year of four digits. -/
structure Ordinary (t : Instant) : Prop where
  second : t.inLeapSecond = false
  first : 0 ≤ (Calendar.ofDayNumber t.day).year
  last : (Calendar.ofDayNumber t.day).year ≤ 9999

theorem Ordinary.nanos_lt (ordinary : t.Ordinary) : t.nanos.val < 10 ^ 9 := by
  have second := ordinary.second
  rw [inLeapSecond, decide_eq_false_iff_not] at second
  omega

/-! ## Stamps in universal time -/

theorem addSeconds_zero (t : Instant) : t.addSeconds 0 = t := by
  have second := t.second.2
  obtain ⟨day, second, nanos⟩ := t
  rw [addSeconds, Instant.mk.injEq, Fin.ext_iff]
  dsimp only at *
  omega

/-- A stamp with the letter of universal time is read as what it denotes. -/
theorem readWithOffset_universal (possible : s.Possible) (denotes : s.Denotes t)
    (years : Calendar.inRange (Calendar.ofDayNumber t.day).year = true) :
    readWithOffset (String.ofList (s.chars ++ ['Z'])) = .ok t := by
  obtain ⟨there, hour, minute⟩ := possible
  obtain ⟨⟨_, counted, seconds⟩, nanos⟩ := denotes
  obtain ⟨-, rfl⟩ := Calendar.countedAs_iff.mp counted
  have ordinary := s.second.2
  have date : readDate .spaced (s.dateChars ++ 'T' :: (s.clockChars ++ (s.fractionChars ++ ['Z']))) =
      .ok (s.date, 'T' :: (s.clockChars ++ (s.fractionChars ++ ['Z']))) :=
    readDate_of_inCalendar .spaced there _
  have clock : readClock .spaced (s.clockChars ++ (s.fractionChars ++ ['Z'])) =
      .ok (⟨⟨s.hour, by omega⟩, ⟨s.minute, by omega⟩, ⟨s.second, by omega⟩⟩,
        s.fractionChars ++ ['Z']) :=
    (readClock_eq_ok_iff .spaced).mpr ⟨rfl, rfl, rfl, rfl⟩
  have fraction : readFraction (s.fractionChars ++ ['Z']) = .ok (nanosOf s.fraction, ['Z']) :=
    readFraction_append s ZoneMark.universal.stops
  have whole : ofDateAndClock s.date ⟨⟨s.hour, by omega⟩, ⟨s.minute, by omega⟩, ⟨s.second, by omega⟩⟩
      (nanosOf s.fraction) = .ok t :=
    ofDateAndClock_eq_ok_iff.mpr ⟨there, (ofCivil_eq_iff ordinary).mpr
      ⟨seconds.symm, (nanosOf_fraction s).trans nanos.symm⟩⟩
  have mark : ∀ rest, readDateMark ('T' :: rest) = .ok rest := fun _ => rfl
  have zone : readZone (Text.trimStart ['Z']) = .ok (0, []) := by decide +kernel
  rw [readWithOffset, String.toList_ofList, Stamp.chars, List.append_assoc, List.cons_append,
    List.append_assoc]
  refine bind_eq_ok_iff.mpr ⟨_, date, bind_eq_ok_iff.mpr ⟨_, mark _, bind_eq_ok_iff.mpr ⟨_, clock,
    bind_eq_ok_iff.mpr ⟨_, fraction, bind_eq_ok_iff.mpr ⟨_, zone, ?_⟩⟩⟩⟩⟩
  dsimp only
  rw [if_neg (by decide), whole]
  refine bind_eq_ok_iff.mpr ⟨t, rfl, ?_⟩
  rw [if_neg (by decide), Int.neg_zero, addSeconds_zero, if_pos years]
  rfl

/-! ## The stamp that is written -/

/-- A year of four digits is written by its digits. -/
theorem yearText_eq {year : ℕ} (small : year < 10000) : yearText year = lastDigits 4 year := by
  have written : (0 : ℤ) ≤ year ∧ (year : ℤ) ≤ 9999 := by omega
  rw [yearText, if_pos written, Int.natAbs_natCast]
  exact Decimal.replicate_append_toDigits (by decide) small

/-- A fraction is written in digits that leave nothing out. -/
theorem exists_fractionText (nanos : ℕ) :
    ∃ count left, count + left = 9 ∧ nanos % 10 ^ left = 0 ∧
      fractionText nanos = if count = 0 then [] else '.' :: lastDigits count (nanos / 10 ^ left) := by
  rw [fractionText]
  split
  · exact ⟨0, 9, rfl, by omega, rfl⟩
  · split
    · exact ⟨3, 6, rfl, ‹_›, rfl⟩
    · split
      · exact ⟨6, 3, rfl, ‹_›, rfl⟩
      · exact ⟨9, 0, rfl, Nat.mod_one nanos, by rw [Nat.pow_zero, Nat.div_one]; rfl⟩

/-- Digits that are left out at the end of a fraction are read as zeros. -/
theorem ofDigitChars_fraction {count left nanos : ℕ} (nine : count + left = 9) (small : nanos < 10 ^ 9)
    (nothing : nanos % 10 ^ left = 0) :
    Nat.ofDigitChars 10 ((lastDigits count (nanos / 10 ^ left) ++ List.replicate 9 '0').take 9) 0 =
      nanos := by
  have fits : nanos / 10 ^ left < 10 ^ count := by
    rw [Nat.div_lt_iff_lt_mul (by positivity), ← pow_add, nine]
    exact small
  have length : (lastDigits count (nanos / 10 ^ left)).length = count := Decimal.length_lastDigits _ _
  have filled : (lastDigits count (nanos / 10 ^ left) ++ List.replicate 9 '0').take 9 =
      lastDigits count (nanos / 10 ^ left) ++ List.replicate left '0' := by
    rw [List.take_append, List.take_of_length_le (by omega), List.take_replicate, length]
    congr 2
    omega
  rw [filled, Nat.ofDigitChars_append, Decimal.ofDigitChars_lastDigits, Nat.mul_zero, Nat.zero_add,
    Nat.mod_eq_of_lt fits, Nat.ofDigitChars_replicate_zero]
  exact Nat.mul_div_cancel' (Nat.dvd_of_mod_eq_zero nothing)

/-- The stamp that an instant is written as. -/
structure Stamp.Writes (s : Stamp) (t : Instant) : Prop where
  date : s.date = Calendar.ofDayNumber t.day
  hour : s.hour.val = t.second.val / 3600
  minute : s.minute.val = t.second.val / 60 % 60
  second : s.second.val = t.second.val % 60
  fraction : s.fractionChars = fractionText t.nanos.val
  nanos : Nat.ofDigitChars 10 s.nanoDigits 0 = t.nanos.val

theorem Ordinary.exists_writes (ordinary : t.Ordinary) : ∃ s : Stamp, s.Writes t := by
  have first := ordinary.first
  have last := ordinary.last
  obtain ⟨there, -⟩ := Calendar.ofDayNumber_spec t.day
  have inDay := t.second.2
  have month_lt : (Calendar.ofDayNumber t.day).month < 100 := there.month_le.trans_lt (by decide)
  have day_lt : (Calendar.ofDayNumber t.day).day < 100 :=
    (there.day_le.trans (Calendar.lastDay_bounds _ _).2).trans_lt (by decide)
  obtain ⟨count, left, nine, nothing, fraction⟩ := exists_fractionText t.nanos.val
  have none_iff : lastDigits count (t.nanos.val / 10 ^ left) = [] ↔ count = 0 := by
    rw [← List.length_eq_zero_iff, Decimal.length_lastDigits]
  refine ⟨⟨⟨(Calendar.ofDayNumber t.day).year.toNat, by omega⟩, ⟨_, month_lt⟩, ⟨_, day_lt⟩,
    ⟨t.second.val / 3600, by omega⟩, ⟨t.second.val / 60 % 60, by omega⟩, ⟨t.second.val % 60, by omega⟩,
    lastDigits count (t.nanos.val / 10 ^ left), fun c => Decimal.isDigit_of_mem_lastDigits⟩,
    ?date, rfl, rfl, rfl, ?fraction, ofDigitChars_fraction nine ordinary.nanos_lt nothing⟩
  case date =>
    rw [Stamp.date, Int.toNat_of_nonneg first]
  case fraction =>
    rw [fraction, Stamp.fractionChars]
    simp only [none_iff]

theorem Stamp.Writes.possible (writes : s.Writes t) : s.Possible := by
  have inDay := t.second.2
  refine ⟨?there, ?hour, ?minute⟩
  case there =>
    rw [writes.date]
    exact (Calendar.ofDayNumber_spec t.day).1
  case hour =>
    rw [writes.hour]
    omega
  case minute =>
    rw [writes.minute]
    omega

theorem Stamp.Writes.denotes (writes : s.Writes t) : s.Denotes t := by
  refine ⟨⟨t.day, ?counted, ?seconds⟩, writes.nanos.symm⟩
  case counted =>
    rw [writes.date]
    exact Calendar.countedAs_iff.mpr (Calendar.ofDayNumber_spec t.day)
  case seconds =>
    rw [unixSeconds, writes.hour, writes.minute, writes.second]
    omega

theorem Stamp.Writes.text_eq (writes : s.Writes t) (ordinary : t.Ordinary) :
    t.text = String.ofList (s.chars ++ ['Z']) := by
  have small : t.nanos.val % 1000000000 = t.nanos.val := Nat.mod_eq_of_lt ordinary.nanos_lt
  have year : yearText s.date.year = lastDigits 4 s.year := yearText_eq s.year.2
  rw [text, ← writes.date, ordinary.second, small, ← writes.fraction, ← writes.hour, ← writes.minute]
  rw [if_neg Bool.false_ne_true, Nat.add_zero, ← writes.second, year]
  simp only [Stamp.chars, Stamp.dateChars, Stamp.clockChars, Stamp.date, List.append_assoc,
    List.cons_append]

/-- The text of an instant reads as the instant. -/
theorem readWithOffset_text (ordinary : t.Ordinary) : readWithOffset t.text = .ok t := by
  obtain ⟨s, writes⟩ := ordinary.exists_writes
  have years : Calendar.inRange (Calendar.ofDayNumber t.day).year = true := by
    have first := ordinary.first
    have last := ordinary.last
    rw [Calendar.inRange, Bool.and_eq_true, decide_eq_true_eq, decide_eq_true_eq]
    omega
  rw [writes.text_eq ordinary]
  exact readWithOffset_universal writes.possible writes.denotes years

end VenueGateway.Instant
