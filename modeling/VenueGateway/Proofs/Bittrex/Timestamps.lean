import VenueGateway.Bittrex.Reply
import VenueGateway.Proofs.Instant.Stamp

/-! # Timestamps of the exchange

Timestamps are trimmed and read with a fraction of a second or without. Those that are possible are read
as what they denote and all others are refused, with the exchange's error.
-/

namespace VenueGateway.Bittrex

open Instant (Stamp ZoneMark)

variable {s : Stamp} {written : String} {t : Instant}

theorem readTimestamp_eq_ok_iff {body : List Char} (visible : ∀ c ∈ body, Text.isBlank c = false)
    (padded : Text.Padded body written) :
    readTimestamp written = .ok t ↔ Instant.readLocal true body = .ok t := by
  rw [readTimestamp, mapError_eq_ok_iff, Text.trim_of_padded visible padded,
    Instant.readTimestamp_eq_ok_iff, String.toList_ofList]

theorem readTimestamp_stamp_iff (padded : Text.Padded s.chars written) :
    readTimestamp written = .ok t ↔ s.Possible ∧ s.Denotes t := by
  have read : Instant.readLocal true (s.chars ++ []) = .ok t ↔ [] = [] ∧ s.Possible ∧ s.Denotes t :=
    Instant.readLocal_eq_ok_iff nofun
  rw [List.append_nil] at read
  rw [readTimestamp_eq_ok_iff s.visible padded, read]
  exact ⟨And.right, fun found => ⟨rfl, found⟩⟩

/-- A zone designator behind a stamp is one character too many. -/
theorem readTimestamp_zone {zone : ZoneMark} (padded : Text.Padded (s.chars ++ zone.chars) written) :
    ¬ readTimestamp written = .ok t := by
  rw [readTimestamp_eq_ok_iff (List.forall_mem_append.mpr ⟨s.visible, zone.visible⟩) padded,
    Instant.readLocal_eq_ok_iff zone.stops]
  rintro ⟨nothing, -⟩
  exact zone.chars_ne_nil nothing

theorem readTimestamp_error {failure : Failure} (failed : readTimestamp written = .error failure) :
    ∃ cause : Instant.ReadError, failure = .tradingApi ("Illegal date/time format '" ++
      Text.trim written ++ "': " ++ cause.message) none := by
  rw [readTimestamp] at failed
  cases read : Instant.readTimestamp (Text.trim written) with
  | ok instant =>
    rw [read] at failed
    cases failed
  | error cause =>
    rw [read] at failed
    cases failed
    exact ⟨cause, rfl⟩

/-- A timestamp with any blanks around it has an instant exactly if its date and its time of day exist:
the instant of that civil time in universal time, to the nanosecond. With a zone designator it is
refused, and whatever is refused is an error of the exchange without a response. The form without a
fraction adds nothing to the form with one. -/
theorem readTimestamp_civil :
    (∀ (s : Stamp) (written : String), Text.Padded s.chars written →
      ((∃ t, readTimestamp written = .ok t) ↔ s.Possible) ∧
        ∀ t, readTimestamp written = .ok t → s.Denotes t) ∧
    (∀ (s other : Stamp) (written alsoWritten : String) (t : Instant),
      Text.Padded s.chars written → Text.Padded other.chars alsoWritten →
        readTimestamp written = .ok t → readTimestamp alsoWritten = .ok t → s.Agrees other) ∧
    (∀ (s : Stamp) (written withoutFraction : String) (t : Instant),
      Text.Padded s.chars written → Text.Padded s.whole.chars withoutFraction →
        readTimestamp written = .ok t → ∃ u, readTimestamp withoutFraction = .ok u ∧
          u.unixSeconds = t.unixSeconds ∧ u.nanos = 0) ∧
    (∀ (s : Stamp) (zone : ZoneMark) (written : String),
      Text.Padded (s.chars ++ zone.chars) written →
        ∃ failure, readTimestamp written = .error failure) ∧
    (∀ (written : String) (failure : Failure), readTimestamp written = .error failure →
      ∃ message, failure = .tradingApi message none) ∧
    ∀ (cs : List Char) (t : Instant), Instant.readLocal false cs = .ok t →
      Instant.readLocal true cs = .ok t := by
  refine ⟨?stamp, ?distinct, ?whole, ?zone, ?failure, ?fallback⟩
  case stamp =>
    intro s written padded
    simp only [readTimestamp_stamp_iff padded]
    refine ⟨⟨?_, ?_⟩, fun t found => found.2⟩
    · rintro ⟨t, possible, -⟩
      exact possible
    · intro possible
      obtain ⟨t, denotes⟩ := possible.exists_denotes
      exact ⟨t, possible, denotes⟩
  case distinct =>
    intro s other written alsoWritten t padded alsoPadded read alsoRead
    obtain ⟨possible, denotes⟩ := (readTimestamp_stamp_iff padded).mp read
    obtain ⟨alsoPossible, alsoDenotes⟩ := (readTimestamp_stamp_iff alsoPadded).mp alsoRead
    exact denotes.agrees possible alsoPossible alsoDenotes
  case whole =>
    intro s written withoutFraction t padded alsoPadded read
    obtain ⟨possible, denotes⟩ := (readTimestamp_stamp_iff padded).mp read
    have wholePossible : s.whole.Possible := ⟨possible.date, possible.hour, possible.minute⟩
    obtain ⟨u, denotesWhole⟩ := wholePossible.exists_denotes
    exact ⟨u, (readTimestamp_stamp_iff alsoPadded).mpr ⟨wholePossible, denotesWhole⟩,
      denotes.whole denotesWhole⟩
  case zone =>
    intro s zone written padded
    cases read : readTimestamp written with
    | ok t => exact absurd read (readTimestamp_zone padded)
    | error failure => exact ⟨failure, rfl⟩
  case failure =>
    intro written failure failed
    obtain ⟨cause, shown⟩ := readTimestamp_error failed
    exact ⟨_, shown⟩
  case fallback => exact fun cs t read => Instant.readLocal_true_of_false read

/-- The last nanosecond of a leap day, with one more digit than an instant has. -/
def endOfLeapDay : Stamp := ⟨2000, 2, 29, 23, 59, 59, "9999999995".toList, List.all_eq_true.mp (by decide)⟩

theorem readTimestamp_civil_leapDay :
    (∃ t, readTimestamp " 2000-02-29T23:59:59.9999999995\n" = .ok t ∧ endOfLeapDay.Denotes t ∧
      t.unixSeconds = 951868799 ∧ t.nanos.val = 999999999 ∧
      ∃ u, readTimestamp "2000-02-29T23:59:59" = .ok u ∧ u.unixSeconds = t.unixSeconds ∧ u.nanos = 0) ∧
    ∃ message, readTimestamp "2000-02-29T23:59:59.9999999995+02:00 " =
      .error (.tradingApi message none) := by
  obtain ⟨stamp, -, whole, zone, failure, -⟩ := readTimestamp_civil
  have possible : endOfLeapDay.Possible :=
    ⟨Calendar.hasDate_iff.mp (by decide), by decide, by decide⟩
  have padded : Text.Padded endOfLeapDay.chars " 2000-02-29T23:59:59.9999999995\n" :=
    ⟨[' '], ['\n'], List.forall_mem_singleton.mpr (by decide), List.forall_mem_singleton.mpr (by decide),
      by decide⟩
  have paddedWhole : Text.Padded endOfLeapDay.whole.chars "2000-02-29T23:59:59" :=
    ⟨[], [], List.forall_mem_nil _, List.forall_mem_nil _, by decide⟩
  have paddedZone : Text.Padded (endOfLeapDay.chars ++ (ZoneMark.offset true 2 0).chars)
      "2000-02-29T23:59:59.9999999995+02:00 " :=
    ⟨[], [' '], List.forall_mem_nil _, List.forall_mem_singleton.mpr (by decide), by decide⟩
  constructor
  · obtain ⟨read_iff, denotes⟩ := stamp endOfLeapDay _ padded
    obtain ⟨t, read⟩ := read_iff.mpr possible
    obtain ⟨⟨n, counted, seconds⟩, nanos⟩ := denotes t read
    have day : Calendar.dayNumber endOfLeapDay.date = 11016 := by decide
    rw [← (Calendar.countedAs_iff.mp counted).2, day] at seconds
    exact ⟨t, read, denotes t read, seconds, nanos.trans (by decide),
      whole endOfLeapDay _ _ t padded paddedWhole read⟩
  · obtain ⟨error, refused⟩ := zone endOfLeapDay _ _ paddedZone
    obtain ⟨message, rfl⟩ := failure _ error refused
    exact ⟨message, refused⟩

end VenueGateway.Bittrex
