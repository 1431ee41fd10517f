import VenueGateway.Instant.Reader
import VenueGateway.Proofs.Calendar
import VenueGateway.Proofs.Decimal.Numeral
import VenueGateway.Proofs.Text.Spelling
import VenueGateway.Proofs.Traversal

/-! # Timestamps and their instants

A timestamp is a date and a time of day with a fixed number of digits for each item, and perhaps a
fraction of a second. It is read exactly if the calendar has the date and the day has the time, and then
as the instant that counting the days leads to.
-/

namespace VenueGateway.Instant

open Decimal (lastDigits)

/-! ## Stamps -/

/-- A date and a time of day as they are written, with the digits of the fraction if there is one.
Neither need exist. -/
structure Stamp where
  year : Fin 10000
  month : Fin 100
  day : Fin 100
  hour : Fin 100
  minute : Fin 100
  second : Fin 60
  fraction : List Char
  digits : ∀ c ∈ fraction, c.isDigit = true

namespace Stamp

variable (s : Stamp)

def dateChars : List Char :=
  lastDigits 4 s.year ++ '-' :: (lastDigits 2 s.month ++ '-' :: lastDigits 2 s.day)

def clockChars : List Char :=
  lastDigits 2 s.hour ++ ':' :: (lastDigits 2 s.minute ++ ':' :: lastDigits 2 s.second)

def fractionChars : List Char := if s.fraction = [] then [] else '.' :: s.fraction

/-- The stamp as it is written: `YYYY-MM-DDThh:mm:ss`, and a point in front of a fraction. -/
def chars : List Char := s.dateChars ++ 'T' :: (s.clockChars ++ s.fractionChars)

def date : CivilDate := ⟨s.year.val, s.month, s.day⟩

/-- There is such a date and such a time of day. -/
structure Possible : Prop where
  date : Calendar.InCalendar s.date
  hour : s.hour.val ≤ 23
  minute : s.minute.val ≤ 59

/-- The first nine digits of the fraction, zeros for those that are not written. -/
def nanoDigits : List Char := (s.fraction ++ List.replicate 9 '0').take 9

/-- The instant of a stamp in universal time: seconds by counting days, nanoseconds by their digits. -/
structure Denotes (t : Instant) : Prop where
  seconds : ∃ n : ℤ, Calendar.CountedAs s.date n ∧
    t.unixSeconds = n * 86400 + s.hour.val * 3600 + s.minute.val * 60 + s.second.val
  nanos : t.nanos.val = Nat.ofDigitChars 10 s.nanoDigits 0

/-- The same date and time of day, to the nanosecond. -/
structure Agrees (other : Stamp) : Prop where
  date : s.date = other.date
  hour : s.hour = other.hour
  minute : s.minute = other.minute
  second : s.second = other.second
  nanos : s.nanoDigits = other.nanoDigits

def whole : Stamp := { s with fraction := [], digits := List.forall_mem_nil _ }

end Stamp

/-- A zone designator: the letter of universal time, or hours and minutes ahead of it or behind. -/
inductive ZoneMark
  | universal
  | offset (ahead : Bool) (hours minutes : Fin 100)

def ZoneMark.chars : ZoneMark → List Char
  | universal => ['Z']
  | offset ahead hours minutes =>
    (if ahead then '+' else '-') :: (lastDigits 2 hours ++ ':' :: lastDigits 2 minutes)

/-! ## Items -/

/-- Digits are read as far as they go, or as many as are wanted. -/
theorem readNumber_append {most : ℕ} {digits rest : List Char}
    (each : ∀ c ∈ digits, c.isDigit = true) (some_digits : digits ≠ []) (within : digits.length ≤ most)
    (stops : (rest.take (most - digits.length)).takeWhile Char.isDigit = []) :
    readNumber most (digits ++ rest) = .ok (digits, rest) := by
  obtain ⟨c, more, rfl⟩ := List.exists_cons_of_ne_nil some_digits
  have taken : ((c :: more ++ rest).take most).takeWhile Char.isDigit = c :: more := by
    rw [List.take_append, List.take_of_length_le within, List.takeWhile_append_of_pos each, stops,
      List.append_nil]
  rw [List.cons_append, readNumber, if_pos (each c List.mem_cons_self), ← List.cons_append]
  simp only [taken, List.drop_left]

theorem readNumber_lastDigits {count : ℕ} (pos : 0 < count) (n : ℕ) (rest : List Char) :
    readNumber count (lastDigits count n ++ rest) = .ok (lastDigits count n, rest) := by
  have length : (lastDigits count n).length = count := Decimal.length_lastDigits count n
  apply readNumber_append (fun c member => Decimal.isDigit_of_mem_lastDigits member) _ length.le
  · rw [length, Nat.sub_self, List.take_zero, List.takeWhile_nil]
  · exact List.ne_nil_of_length_pos (length.symm ▸ pos)

theorem digitsValue_lastDigits {count n : ℕ} (small : n < 10 ^ count) :
    Text.digitsValue (lastDigits count n) = n := by
  rw [Text.digitsValue_eq, Decimal.ofDigitChars_lastDigits, Nat.mul_zero, Nat.zero_add,
    Nat.mod_eq_of_lt small]

theorem trimStart_lastDigits {count : ℕ} (pos : 0 < count) (n : ℕ) (rest : List Char) :
    Text.trimStart (lastDigits count n ++ rest) = lastDigits count n ++ rest := by
  apply Text.trimStart_of_head
  intro c head
  have length : 0 < (lastDigits count n).length := (Decimal.length_lastDigits count n).symm ▸ pos
  rw [List.head?_append_of_ne_nil _ (List.ne_nil_of_length_pos length)] at head
  exact Text.isBlank_of_isDigit (Decimal.isDigit_of_mem_lastDigits (List.mem_of_mem_head? head))

/-- Two digits are read if they write a number that the item allows. -/
theorem readField_eq_ok_iff {low high n : ℕ} (small : n < 100) {rest after : List Char}
    {value : { n : ℕ // low ≤ n ∧ n < high }} :
    readField low high (lastDigits 2 n ++ rest) = .ok (value, after) ↔ n = value ∧ rest = after := by
  have number : Text.digitsValue (lastDigits 2 n) = n := digitsValue_lastDigits small
  rw [readField, trimStart_lastDigits (by decide), readNumber_lastDigits (by decide)]
  change dite _ _ _ = _ ↔ _
  simp only [number]
  split
  · simp [pure, Except.pure, Subtype.ext_iff]
  · rename_i outside
    constructor
    · exact nofun
    · rintro ⟨rfl, -⟩
      exact absurd value.2 outside

theorem readMark_eq_ok_iff {mark c : Char} {rest after : List Char} :
    readMark mark (c :: rest) = .ok after ↔ c = mark ∧ rest = after := by
  rw [readMark]
  split <;> simp [*]

/-- Blanks are allowed in front of a mark at most, and here there are none. -/
theorem Layout.mark_eq_ok_iff (layout : Layout) {mark : Char} (visible : Text.isBlank mark = false)
    {rest after : List Char} : layout.mark mark (mark :: rest) = .ok after ↔ rest = after := by
  cases layout with
  | tight => exact readMark_eq_ok_iff.trans (and_iff_right rfl)
  | spaced =>
    have front : Text.trimStart (mark :: rest) = mark :: rest := by
      apply Text.trimStart_of_head
      rintro _ ⟨⟩
      exact visible
    rw [Layout.mark, front]
    exact readMark_eq_ok_iff.trans (and_iff_right rfl)

theorem readYear_append (year : Fin 10000) (rest : List Char) :
    readYear (lastDigits 4 year ++ rest) = .ok (year.val, rest) := by
  have number : Text.digitsValue (lastDigits 4 year) = year :=
    digitsValue_lastDigits (year.2.trans_eq (by norm_num))
  have length : (lastDigits 4 year).length = 4 := Decimal.length_lastDigits 4 year
  have read := readNumber_lastDigits (by decide : 0 < 4) year rest
  obtain ⟨c, more, front⟩ := List.exists_cons_of_length_eq_add_one length
  have leading : c ∈ lastDigits 4 year := by
    rw [front]
    exact List.mem_cons_self
  have digit := Decimal.isDigit_of_mem_lastDigits leading
  have small := year.2
  rw [readYear, trimStart_lastDigits (by decide)]
  rw [front] at number read ⊢
  split
  · rename_i same
    obtain rfl := (List.cons.inj same).1
    exact absurd digit (by decide)
  · rename_i same
    obtain rfl := (List.cons.inj same).1
    exact absurd digit (by decide)
  · have range : -2147483648 ≤ (year.val : ℤ) ∧ (year.val : ℤ) < 2147483648 := by omega
    refine bind_eq_ok_iff.mpr ⟨_, read, ?_⟩
    dsimp only
    rw [number]
    refine bind_eq_ok_iff.mpr ⟨_, rfl, ?_⟩
    dsimp only
    rw [if_pos range]
    rfl

/-! ## The parts of a stamp -/

variable {s : Stamp} {rest after tail : List Char} {t : Instant}

theorem readDate_eq_ok_iff (layout : Layout) {date : CivilDate} :
    readDate layout (s.dateChars ++ rest) = .ok (date, after) ↔
      (1 ≤ s.month.val ∧ s.month.val < 13) ∧ (1 ≤ s.day.val ∧ s.day.val < 32) ∧
        s.date = date ∧ rest = after := by
  have mark : ∀ {rest after}, layout.mark '-' ('-' :: rest) = .ok after ↔ rest = after :=
    layout.mark_eq_ok_iff (by decide)
  simp only [readDate, bind_eq_ok_iff, Stamp.dateChars, List.append_assoc, List.cons_append,
    readYear_append]
  constructor
  · rintro ⟨_, ⟨⟩, _, yearMark, ⟨month, _⟩, monthRead, _, monthMark, ⟨day, _⟩, dayRead, ⟨⟩⟩
    obtain rfl := mark.mp yearMark
    obtain ⟨monthIs, rfl⟩ := (readField_eq_ok_iff s.month.2).mp monthRead
    obtain rfl := mark.mp monthMark
    obtain ⟨dayIs, rfl⟩ := (readField_eq_ok_iff s.day.2).mp dayRead
    refine ⟨monthIs ▸ month.2, dayIs ▸ day.2, ?_, rfl⟩
    rw [Stamp.date, monthIs, dayIs]
  · rintro ⟨month, day, rfl, rfl⟩
    exact ⟨_, rfl, _, mark.mpr rfl,
      (⟨s.month, month⟩, _), (readField_eq_ok_iff s.month.2).mpr ⟨rfl, rfl⟩,
      _, mark.mpr rfl,
      (⟨s.day, day⟩, _), (readField_eq_ok_iff s.day.2).mpr ⟨rfl, rfl⟩, rfl⟩

/-- A date that exists is read, whatever follows it. -/
theorem readDate_of_inCalendar (layout : Layout) (there : Calendar.InCalendar s.date)
    (rest : List Char) : readDate layout (s.dateChars ++ rest) = .ok (s.date, rest) := by
  have day_le : s.date.day ≤ 31 := there.day_le.trans (Calendar.lastDay_bounds _ _).2
  exact (readDate_eq_ok_iff layout).mpr ⟨⟨there.month_pos, Nat.lt_succ_of_le there.month_le⟩,
    ⟨there.day_pos, Nat.lt_succ_of_le day_le⟩, rfl, rfl⟩

theorem readClock_eq_ok_iff (layout : Layout) {clock : Clock} :
    readClock layout (s.clockChars ++ rest) = .ok (clock, after) ↔
      s.hour.val = clock.hour ∧ s.minute.val = clock.minute ∧ s.second.val = clock.second ∧
        rest = after := by
  have mark : ∀ {rest after}, layout.mark ':' (':' :: rest) = .ok after ↔ rest = after :=
    layout.mark_eq_ok_iff (by decide)
  have second : s.second.val < 100 := s.second.2.trans (by decide)
  simp only [readClock, bind_eq_ok_iff, Stamp.clockChars, List.append_assoc, List.cons_append]
  constructor
  · rintro ⟨⟨hour, _⟩, hourRead, _, hourMark, ⟨minute, _⟩, minuteRead, _, minuteMark, ⟨second, _⟩,
      secondRead, ⟨⟩⟩
    obtain ⟨hourIs, rfl⟩ := (readField_eq_ok_iff s.hour.2).mp hourRead
    obtain rfl := mark.mp hourMark
    obtain ⟨minuteIs, rfl⟩ := (readField_eq_ok_iff s.minute.2).mp minuteRead
    obtain rfl := mark.mp minuteMark
    obtain ⟨secondIs, rfl⟩ := (readField_eq_ok_iff ‹_›).mp secondRead
    exact ⟨hourIs, minuteIs, secondIs, rfl⟩
  · obtain ⟨hour, minute, second⟩ := clock
    rintro ⟨hourIs, minuteIs, secondIs, rfl⟩
    exact ⟨(⟨hour, Nat.zero_le _, hour.2⟩, _), (readField_eq_ok_iff s.hour.2).mpr ⟨hourIs, rfl⟩,
      _, mark.mpr rfl,
      (⟨minute, Nat.zero_le _, minute.2⟩, _), (readField_eq_ok_iff s.minute.2).mpr ⟨minuteIs, rfl⟩,
      _, mark.mpr rfl,
      (⟨second, Nat.zero_le _, second.2⟩, _), (readField_eq_ok_iff ‹_›).mpr ⟨secondIs, rfl⟩, rfl⟩

theorem Stamp.length_nanoDigits (s : Stamp) : s.nanoDigits.length = 9 := by
  rw [nanoDigits, List.length_take, List.length_append, List.length_replicate]
  omega

theorem Stamp.isDigit_of_mem_nanoDigits {c : Char} (member : c ∈ s.nanoDigits) :
    c.isDigit = true := by
  rcases List.mem_append.mp (List.mem_of_mem_take member) with written | zero
  · exact s.digits c written
  · rw [List.eq_of_mem_replicate zero]
    rfl

theorem nanosOf_fraction (s : Stamp) :
    (nanosOf s.fraction).val = Nat.ofDigitChars 10 s.nanoDigits 0 := by
  have padded : s.fraction.take 9 ++ List.replicate (9 - s.fraction.length) '0' = s.nanoDigits := by
    rw [Stamp.nanoDigits, List.take_append, List.take_replicate, Nat.min_eq_left (Nat.sub_le 9 _)]
  have small := Text.ofDigitChars_lt (fun c => s.isDigit_of_mem_nanoDigits (c := c)) 0
  rw [s.length_nanoDigits] at small
  rw [nanosOf, padded, Text.digitsValue_eq, Fin.val_ofNat]
  exact Nat.mod_eq_of_lt (small.trans_eq (by norm_num))

/-- The fraction is read up to what cannot continue it. -/
theorem readFraction_append (s : Stamp) (stops : ∀ c ∈ tail.head?, c.isDigit = false ∧ c ≠ '.') :
    readFraction (s.fractionChars ++ tail) = .ok (nanosOf s.fraction, tail) := by
  rw [Stamp.fractionChars]
  split
  · rename_i none
    rw [none, List.nil_append, readFraction]
    · rfl
    · rintro rest rfl
      exact (stops '.' rfl).2 rfl
  · rename_i some_digits
    have noDigit : tail.takeWhile Char.isDigit = [] := by
      cases tail with
      | nil => rfl
      | cons c tail => rw [List.takeWhile_cons, (stops c rfl).1, if_neg Bool.false_ne_true]
    have read : readNumber (s.fraction ++ tail).length (s.fraction ++ tail) = .ok (s.fraction, tail) :=
      readNumber_append s.digits some_digits (by simp) (by simpa using noDigit)
    rw [List.cons_append, readFraction, read]
    rfl

theorem ofDateAndClock_eq_ok_iff {clock : Clock} {nanos : Fin 1000000000} :
    ofDateAndClock s.date clock nanos = .ok t ↔
      Calendar.InCalendar s.date ∧ ofCivil s.date clock.hour clock.minute clock.second nanos = t := by
  have within : Calendar.inRange s.date.year = true := by
    have bounds := s.year.2
    rw [Calendar.inRange, Bool.and_eq_true, decide_eq_true_eq, decide_eq_true_eq]
    change -262143 ≤ (s.year.val : ℤ) ∧ (s.year.val : ℤ) ≤ 262142
    omega
  rw [ofDateAndClock, within, Bool.true_and, ← Calendar.hasDate_iff]
  split
  · rename_i there
    simp [there]
  · rename_i missing
    simp [missing]

/-- Outside a leap second an instant is the seconds of its day and its nanoseconds. -/
theorem ofCivil_eq_iff {date : CivilDate} {clock : Clock} {nanos : Fin 1000000000}
    (ordinary : clock.second.val < 60) :
    ofCivil date clock.hour clock.minute clock.second nanos = t ↔
      Calendar.dayNumber date * 86400 + clock.hour.val * 3600 + clock.minute.val * 60 +
        clock.second.val = t.unixSeconds ∧ nanos.val = t.nanos.val := by
  obtain ⟨day, second, nano⟩ := t
  have hour := clock.hour.2
  have minute := clock.minute.2
  have inDay := second.2
  rw [ofCivil, dif_neg (by omega), Instant.mk.injEq, Fin.ext_iff, Fin.ext_iff, unixSeconds]
  dsimp only
  constructor
  · rintro ⟨rfl, same, nanosSame⟩
    exact ⟨by omega, nanosSame⟩
  · rintro ⟨same, nanosSame⟩
    exact ⟨by omega, by omega, nanosSame⟩

/-- A stamp is read if it is possible and nothing follows it, as what it denotes. -/
theorem readLocal_eq_ok_iff (stops : ∀ c ∈ tail.head?, c.isDigit = false ∧ c ≠ '.') :
    readLocal true (s.chars ++ tail) = .ok t ↔ tail = [] ∧ s.Possible ∧ s.Denotes t := by
  have ordinary := s.second.2
  simp only [readLocal, bind_eq_ok_iff, Stamp.chars, List.append_assoc, List.cons_append, if_true]
  constructor
  · rintro ⟨⟨date, _⟩, dateRead, _, markRead, ⟨clock, _⟩, clockRead, ⟨nanos, _⟩, fractionRead, whole⟩
    obtain ⟨-, -, rfl, rfl⟩ := (readDate_eq_ok_iff .tight).mp dateRead
    obtain ⟨-, rfl⟩ := readMark_eq_ok_iff.mp markRead
    obtain ⟨hour, minute, second, rfl⟩ := (readClock_eq_ok_iff .tight).mp clockRead
    rw [readFraction_append s stops] at fractionRead
    cases fractionRead
    dsimp only at whole
    split at whole
    · rename_i ends
      obtain ⟨there, made⟩ := ofDateAndClock_eq_ok_iff.mp whole
      obtain ⟨seconds, nanosSame⟩ := (ofCivil_eq_iff (second ▸ ordinary)).mp made
      have hourLess := clock.hour.2
      have minuteLess := clock.minute.2
      refine ⟨List.isEmpty_iff.mp ends, ⟨there, by omega, by omega⟩,
        ⟨_, Calendar.countedAs_iff.mpr ⟨there, rfl⟩, ?_⟩, ?_⟩
      · rw [hour, minute, second, seconds]
      · rw [← nanosSame, nanosOf_fraction]
    · cases whole
  · rintro ⟨rfl, ⟨there, hour, minute⟩, ⟨_, counted, seconds⟩, nanos⟩
    obtain ⟨-, rfl⟩ := Calendar.countedAs_iff.mp counted
    refine ⟨(s.date, _), readDate_of_inCalendar .tight there _, _, readMark_eq_ok_iff.mpr ⟨rfl, rfl⟩,
      (⟨⟨s.hour, by omega⟩, ⟨s.minute, by omega⟩, ⟨s.second, by omega⟩⟩, _),
      (readClock_eq_ok_iff .tight).mpr ⟨rfl, rfl, rfl, rfl⟩, _, readFraction_append s stops, ?_⟩
    refine ofDateAndClock_eq_ok_iff.mpr ⟨there, (ofCivil_eq_iff ordinary).mpr ⟨seconds.symm, ?_⟩⟩
    rw [nanosOf_fraction, nanos]

/-! ## What stamps denote -/

theorem Stamp.Possible.exists_denotes (possible : s.Possible) : ∃ t, s.Denotes t := by
  obtain ⟨there, hour, minute⟩ := possible
  have second := s.second.2
  let clock : Clock := ⟨⟨s.hour, by omega⟩, ⟨s.minute, by omega⟩, ⟨s.second, by omega⟩⟩
  have made : ofCivil s.date clock.hour clock.minute clock.second (nanosOf s.fraction) = _ := rfl
  obtain ⟨seconds, nanos⟩ := (ofCivil_eq_iff (by exact second)).mp made
  exact ⟨_, ⟨_, Calendar.countedAs_iff.mpr ⟨there, rfl⟩, seconds.symm⟩, nanos ▸ nanosOf_fraction s⟩

/-- Stamps of one instant agree to the nanosecond. -/
theorem Stamp.Denotes.agrees {other : Stamp} (possible : s.Possible) (alsoPossible : other.Possible)
    (denotes : s.Denotes t) (alsoDenotes : other.Denotes t) : s.Agrees other := by
  obtain ⟨⟨n, counted, seconds⟩, nanos⟩ := denotes
  obtain ⟨⟨m, alsoCounted, alsoSeconds⟩, alsoNanos⟩ := alsoDenotes
  obtain ⟨there, rfl⟩ := Calendar.countedAs_iff.mp counted
  obtain ⟨alsoThere, rfl⟩ := Calendar.countedAs_iff.mp alsoCounted
  obtain ⟨-, hour, minute⟩ := possible
  obtain ⟨-, alsoHour, alsoMinute⟩ := alsoPossible
  have second := s.second.2
  have alsoSecond := other.second.2
  have digits : Nat.ofDigitChars 10 s.nanoDigits 0 = Nat.ofDigitChars 10 other.nanoDigits 0 ↔ _ :=
    Text.ofDigitChars_inj (s.length_nanoDigits.trans other.length_nanoDigits.symm)
      (fun _ => s.isDigit_of_mem_nanoDigits) (fun _ => other.isDigit_of_mem_nanoDigits)
  refine ⟨(Calendar.dayNumber_inj there alsoThere).mp (by omega), Fin.ext (by omega),
    Fin.ext (by omega), Fin.ext (by omega), (digits.mp ?_).2⟩
  rw [← nanos, ← alsoNanos]

/-- A fraction does not change the second. -/
theorem Stamp.Denotes.whole {u : Instant} (denotes : s.Denotes t) (denotesWhole : s.whole.Denotes u) :
    u.unixSeconds = t.unixSeconds ∧ u.nanos = 0 := by
  obtain ⟨⟨n, counted, seconds⟩, -⟩ := denotes
  obtain ⟨⟨m, alsoCounted, alsoSeconds⟩, nanos⟩ := denotesWhole
  obtain ⟨-, rfl⟩ := Calendar.countedAs_iff.mp counted
  obtain ⟨-, rfl⟩ := Calendar.countedAs_iff.mp alsoCounted
  exact ⟨alsoSeconds.trans seconds.symm, Fin.ext nanos⟩

/-! ## Whole texts -/

/-- What can be read without a fraction is read alike where a fraction could stand. -/
theorem readLocal_true_of_false {cs : List Char} (read : readLocal false cs = .ok t) :
    readLocal true cs = .ok t := by
  simp only [readLocal, bind_eq_ok_iff, if_true, Bool.false_eq_true, if_false] at read ⊢
  obtain ⟨date, dateRead, afterMark, markRead, clock, clockRead, _, ⟨⟩, whole⟩ := read
  refine ⟨date, dateRead, afterMark, markRead, clock, clockRead, (0, clock.2), ?_, whole⟩
  dsimp only at whole
  split at whole
  · rename_i ends
    rw [List.isEmpty_iff.mp ends]
    rfl
  · cases whole

theorem readTimestamp_eq_ok_iff {text : String} :
    readTimestamp text = .ok t ↔ readLocal true text.toList = .ok t := by
  rw [readTimestamp]
  cases read : readLocal true text.toList with
  | ok u => rfl
  | error cause =>
    refine ⟨?_, nofun⟩
    intro fallback
    have found := readLocal_true_of_false fallback
    rw [read] at found
    cases found

theorem ZoneMark.stops (zone : ZoneMark) : ∀ c ∈ zone.chars.head?, c.isDigit = false ∧ c ≠ '.' := by
  match zone with
  | universal | offset true _ _ | offset false _ _ =>
    rintro _ ⟨⟩
    decide

theorem ZoneMark.chars_ne_nil (zone : ZoneMark) : zone.chars ≠ [] := by
  cases zone <;> exact List.cons_ne_nil _ _

theorem Stamp.visible (s : Stamp) : ∀ c ∈ s.chars, Text.isBlank c = false := by
  have digits : ∀ count n, ∀ c ∈ lastDigits count n, Text.isBlank c = false :=
    fun count n c member => Text.isBlank_of_isDigit (Decimal.isDigit_of_mem_lastDigits member)
  have fraction : ∀ c ∈ s.fractionChars, Text.isBlank c = false := by
    rw [fractionChars]
    split
    · exact nofun
    · exact List.forall_mem_cons.mpr
        ⟨by decide, fun c member => Text.isBlank_of_isDigit (s.digits c member)⟩
  simp only [chars, dateChars, clockChars, List.forall_mem_append, List.forall_mem_cons]
  exact ⟨⟨digits _ _, by decide, digits _ _, by decide, digits _ _⟩, by decide,
    ⟨digits _ _, by decide, digits _ _, by decide, digits _ _⟩, fraction⟩

theorem ZoneMark.visible (zone : ZoneMark) : ∀ c ∈ zone.chars, Text.isBlank c = false := by
  have digits : ∀ n, ∀ c ∈ lastDigits 2 n, Text.isBlank c = false :=
    fun n c member => Text.isBlank_of_isDigit (Decimal.isDigit_of_mem_lastDigits member)
  match zone with
  | universal => exact List.forall_mem_singleton.mpr (by decide)
  | offset ahead hours minutes =>
    simp only [chars, List.forall_mem_append, List.forall_mem_cons]
    refine ⟨?_, digits _, by decide, digits _⟩
    cases ahead <;> decide

end VenueGateway.Instant
