import Mathlib.Data.Nat.Notation
import Mathlib.Tactic.ByContra
import Mathlib.Tactic.IntervalCases
import VenueGateway.Calendar

/-! # Counting the days of the calendar

The days of the proleptic Gregorian calendar follow one another: within a month, from the last day of a
month to the first of the next, and from the end of a year to the beginning of the next. The number of a
date is what counting its days from the first of January 1970 gives, forwards and backwards, and dates
of one number are one date.
-/

namespace VenueGateway.Calendar

/-! ## Dates -/

def lastDay (year : ℤ) (month : ℕ) : ℕ :=
  if month = 2 then (if year % 4 = 0 ∧ (year % 100 = 0 → year % 400 = 0) then 29 else 28)
  else if month ∈ [4, 6, 9, 11] then 30
  else 31

/-- The dates that there are. -/
structure InCalendar (date : CivilDate) : Prop where
  month_pos : 1 ≤ date.month
  month_le : date.month ≤ 12
  day_pos : 1 ≤ date.day
  day_le : date.day ≤ lastDay date.year date.month

/-- The date of the day after. -/
def dayAfter (date : CivilDate) : CivilDate :=
  if date.day < lastDay date.year date.month then ⟨date.year, date.month, date.day + 1⟩
  else if date.month < 12 then ⟨date.year, date.month + 1, 1⟩
  else ⟨date.year + 1, 1, 1⟩

/-- The number that a date is counted to, from the first of January 1970. -/
inductive CountedAs : CivilDate → ℤ → Prop
  | start : CountedAs ⟨1970, 1, 1⟩ 0
  | forwards {date : CivilDate} {n : ℤ} : CountedAs date n → CountedAs (dayAfter date) (n + 1)
  | backwards {date : CivilDate} {n : ℤ} :
    InCalendar date → CountedAs (dayAfter date) (n + 1) → CountedAs date n

variable {year other : ℤ} {month : ℕ} {date : CivilDate}

theorem isLeap_eq_true_iff :
    isLeap year = true ↔ year % 4 = 0 ∧ (year % 100 = 0 → year % 400 = 0) := by
  rw [isLeap, Bool.and_eq_true, Bool.or_eq_true, decide_eq_true_eq, decide_eq_true_eq,
    decide_eq_true_eq, ← imp_iff_not_or]

theorem monthLength_eq (pos : 1 ≤ month) (le : month ≤ 12) :
    monthLength year month = lastDay year month := by
  simp only [monthLength, monthLengths, lastDay, ← isLeap_eq_true_iff]
  interval_cases month
  all_goals rfl

theorem monthLength_of_gt (gt : 12 < month) : monthLength year month = 0 := by
  have behind : (monthLengths year).length ≤ month - 1 := Nat.le_sub_one_of_lt gt
  rw [monthLength, if_neg (by omega), List.getElem?_eq_none behind]
  rfl

theorem hasDate_iff : hasDate date = true ↔ InCalendar date := by
  rw [hasDate, Bool.and_eq_true, decide_eq_true_eq, decide_eq_true_eq]
  constructor
  · rintro ⟨pos, le⟩
    have month_pos : 1 ≤ date.month := by
      by_contra zero
      rw [monthLength, if_pos (by omega)] at le
      omega
    have month_le : date.month ≤ 12 := by
      by_contra gt
      rw [monthLength_of_gt (by omega)] at le
      omega
    exact ⟨month_pos, month_le, pos, monthLength_eq month_pos month_le ▸ le⟩
  · rintro ⟨month_pos, month_le, pos, le⟩
    exact ⟨pos, (monthLength_eq month_pos month_le).symm ▸ le⟩

theorem lastDay_bounds (year : ℤ) (month : ℕ) : 28 ≤ lastDay year month ∧ lastDay year month ≤ 31 := by
  rw [lastDay]
  split
  · split <;> decide
  · split <;> decide

theorem inCalendar_first (year : ℤ) (pos : 1 ≤ month) (le : month ≤ 12) :
    InCalendar ⟨year, month, 1⟩ :=
  ⟨pos, le, le_rfl, (by decide : 1 ≤ 28).trans (lastDay_bounds year month).1⟩

theorem inCalendar_last (year : ℤ) (pos : 1 ≤ month) (le : month ≤ 12) :
    InCalendar ⟨year, month, lastDay year month⟩ :=
  ⟨pos, le, (by decide : 1 ≤ 28).trans (lastDay_bounds year month).1, le_rfl⟩

/-- The day after is in the same month, in the next month, or in the next year. -/
theorem dayAfter_cases (there : InCalendar date) :
    date.day < lastDay date.year date.month ∧ dayAfter date = ⟨date.year, date.month, date.day + 1⟩ ∨
    date.day = lastDay date.year date.month ∧ date.month < 12 ∧
      dayAfter date = ⟨date.year, date.month + 1, 1⟩ ∨
    date.day = lastDay date.year date.month ∧ date.month = 12 ∧
      dayAfter date = ⟨date.year + 1, 1, 1⟩ := by
  rcases Nat.lt_or_eq_of_le there.day_le with within | last
  · exact .inl ⟨within, if_pos within⟩
  · have notWithin : ¬ date.day < lastDay date.year date.month := last.not_lt
    rcases Nat.lt_or_eq_of_le there.month_le with month | december
    · exact .inr (.inl ⟨last, month, (if_neg notWithin).trans (if_pos month)⟩)
    · exact .inr (.inr ⟨last, december, (if_neg notWithin).trans (if_neg december.not_lt)⟩)

theorem inCalendar_dayAfter (there : InCalendar date) : InCalendar (dayAfter date) := by
  rcases dayAfter_cases there with ⟨within, after⟩ | ⟨-, month, after⟩ | ⟨-, -, after⟩
  · rw [after]
    exact ⟨there.month_pos, there.month_le, Nat.le_add_left 1 _, within⟩
  · rw [after]
    exact inCalendar_first _ (Nat.le_add_left 1 _) month
  · rw [after]
    exact inCalendar_first _ le_rfl (by decide)

/-- Every date follows another. -/
theorem exists_dayBefore (there : InCalendar date) :
    ∃ before, InCalendar before ∧ dayAfter before = date := by
  obtain ⟨year, month, day⟩ := date
  obtain ⟨month_pos, month_le, day_pos, day_le⟩ := there
  dsimp only at month_pos month_le day_pos day_le
  rcases Nat.lt_or_eq_of_le day_pos with later | rfl
  · obtain ⟨day, rfl⟩ := Nat.exists_eq_add_of_lt later
    have within : 1 + day < lastDay year month := day_le
    exact ⟨⟨year, month, 1 + day⟩, ⟨month_pos, month_le, Nat.le_add_right 1 day, within.le⟩,
      if_pos within⟩
  · rcases Nat.lt_or_eq_of_le month_pos with later | rfl
    · obtain ⟨month, rfl⟩ := Nat.exists_eq_add_of_lt later
      have within : 1 + month < 12 := month_le
      exact ⟨_, inCalendar_last year (Nat.le_add_right 1 month) within.le,
        (if_neg (lt_irrefl _)).trans (if_pos within)⟩
    · refine ⟨_, inCalendar_last (year - 1) (by decide) le_rfl, ?_⟩
      refine ((if_neg (lt_irrefl _)).trans (if_neg (lt_irrefl _))).trans ?_
      rw [Int.sub_add_cancel]

/-! ## Numbers -/

def daysBeforeMonth (year : ℤ) (month : ℕ) : ℕ :=
  ((monthLengths year).take (month - 1)).foldl Nat.add 0

theorem daysBeforeMonth_succ (pos : 1 ≤ month) (le : month < 12) :
    daysBeforeMonth year (month + 1) = daysBeforeMonth year month + lastDay year month := by
  rw [← monthLength_eq pos le.le, daysBeforeMonth, daysBeforeMonth, monthLength, monthLengths]
  interval_cases month
  all_goals rfl

theorem daysBeforeMonth_mono (year : ℤ) {later : ℕ} (pos : 1 ≤ month) (less : month < later)
    (le : later ≤ 12) :
    daysBeforeMonth year month + lastDay year month ≤ daysBeforeMonth year later := by
  induction less with
  | refl => rw [daysBeforeMonth_succ pos le]
  | @step later less ih =>
    have later_pos : 1 ≤ later := pos.trans (Nat.le_of_lt less)
    rw [daysBeforeMonth_succ later_pos le]
    exact (ih (Nat.le_of_lt le)).trans (Nat.le_add_right _ _)

/-- The year ends with its twelfth month. -/
theorem daysBeforeYear_succ (year : ℤ) : daysBeforeYear (year + 1) =
    daysBeforeYear year + daysBeforeMonth year 12 + lastDay year 12 := by
  have rule : isLeap year = true ↔ year % 4 = 0 ∧ (year % 100 = 0 → year % 400 = 0) :=
    isLeap_eq_true_iff
  rw [← monthLength_eq (by decide) (by decide)]
  cases leap : isLeap year with
  | true =>
    have months : daysBeforeMonth year 12 + monthLength year 12 = 366 := by
      rw [daysBeforeMonth, monthLength, monthLengths, leap]
      rfl
    rw [leap] at rule
    have divides := rule.mp rfl
    rw [daysBeforeYear, daysBeforeYear]
    omega
  | false =>
    have months : daysBeforeMonth year 12 + monthLength year 12 = 365 := by
      rw [daysBeforeMonth, monthLength, monthLengths, leap]
      rfl
    rw [leap] at rule
    have apart : ¬ (year % 4 = 0 ∧ (year % 100 = 0 → year % 400 = 0)) := fun held => nomatch rule.mpr held
    rw [daysBeforeYear, daysBeforeYear]
    omega

theorem daysBeforeYear_mono (le : year ≤ other) : daysBeforeYear year ≤ daysBeforeYear other := by
  rw [daysBeforeYear, daysBeforeYear]
  omega

theorem dayNumber_eq (date : CivilDate) : dayNumber date =
    daysBeforeYear date.year - dayOfEra + daysBeforeMonth date.year date.month + date.day - 1 := rfl

/-- Each day has the number after that of the day before. -/
theorem dayNumber_dayAfter (there : InCalendar date) :
    dayNumber (dayAfter date) = dayNumber date + 1 := by
  rcases dayAfter_cases there with ⟨-, after⟩ | ⟨last, month, after⟩ | ⟨last, december, after⟩
  · rw [after, dayNumber_eq, dayNumber_eq]
    push_cast
    omega
  · rw [after, dayNumber_eq, dayNumber_eq, daysBeforeMonth_succ there.month_pos month, last]
    push_cast
    omega
  · have none : daysBeforeMonth (date.year + 1) 1 = 0 := rfl
    rw [after, dayNumber_eq, dayNumber_eq, daysBeforeYear_succ, none, last, december]
    push_cast
    omega

/-- A date lies in its year. -/
theorem dayNumber_bounds (there : InCalendar date) :
    daysBeforeYear date.year - dayOfEra ≤ dayNumber date ∧
      dayNumber date < daysBeforeYear (date.year + 1) - dayOfEra := by
  obtain ⟨month_pos, month_le, day_pos, day_le⟩ := there
  have within : daysBeforeMonth date.year date.month + lastDay date.year date.month ≤
      daysBeforeMonth date.year 12 + lastDay date.year 12 := by
    rcases Nat.lt_or_eq_of_le month_le with less | last
    · exact (daysBeforeMonth_mono _ month_pos less le_rfl).trans (Nat.le_add_right _ _)
    · rw [last]
  rw [dayNumber_eq, daysBeforeYear_succ]
  omega

/-- Dates of one number are one date. -/
theorem dayNumber_inj {date other : CivilDate} (there : InCalendar date) (alsoThere : InCalendar other) :
    dayNumber date = dayNumber other ↔ date = other := by
  refine ⟨?_, congrArg dayNumber⟩
  intro same
  obtain ⟨low, high⟩ := dayNumber_bounds there
  obtain ⟨otherLow, otherHigh⟩ := dayNumber_bounds alsoThere
  have year : date.year = other.year := by
    rcases lt_trichotomy date.year other.year with less | equal | more
    · have := daysBeforeYear_mono (Int.add_one_le_iff.mpr less)
      omega
    · exact equal
    · have := daysBeforeYear_mono (Int.add_one_le_iff.mpr more)
      omega
  obtain ⟨month_pos, month_le, day_pos, day_le⟩ := there
  obtain ⟨otherMonth_pos, otherMonth_le, otherDay_pos, otherDay_le⟩ := alsoThere
  rw [dayNumber_eq, dayNumber_eq, year] at same
  rw [year] at day_le
  have month : date.month = other.month := by
    rcases lt_trichotomy date.month other.month with less | equal | more
    · have := daysBeforeMonth_mono other.year month_pos less otherMonth_le
      omega
    · exact equal
    · have := daysBeforeMonth_mono other.year otherMonth_pos more month_le
      omega
  rw [month] at same
  have day : date.day = other.day := by omega
  cases date
  cases other
  cases year
  cases month
  cases day
  rfl

/-! ## Counting -/

private theorem countedAs_ofNat (n : ℕ) {date : CivilDate} (there : InCalendar date)
    (number : dayNumber date = n) : CountedAs date n := by
  induction n generalizing date with
  | zero =>
    have first : InCalendar ⟨1970, 1, 1⟩ := ⟨by decide, by decide, by decide, by decide⟩
    obtain rfl := (dayNumber_inj there first).mp number
    exact .start
  | succ n ih =>
    obtain ⟨before, alsoThere, rfl⟩ := exists_dayBefore there
    rw [dayNumber_dayAfter alsoThere] at number
    push_cast at number ⊢
    exact .forwards (ih alsoThere (by omega))

private theorem countedAs_neg (n : ℕ) {date : CivilDate} (there : InCalendar date)
    (number : dayNumber date = -n) : CountedAs date (-n) := by
  induction n generalizing date with
  | zero => exact countedAs_ofNat 0 there number
  | succ n ih =>
    have after : dayNumber (dayAfter date) = -n := by
      rw [dayNumber_dayAfter there, number]
      push_cast
      omega
    have counted := ih (inCalendar_dayAfter there) after
    apply CountedAs.backwards there
    push_cast
    rwa [show (-((n : ℤ) + 1) + 1) = -n by omega]

/-- Counting comes to every date, and to its number. -/
theorem countedAs_iff {n : ℤ} : CountedAs date n ↔ InCalendar date ∧ dayNumber date = n := by
  constructor
  · intro counted
    induction counted with
    | start => exact ⟨⟨by decide, by decide, by decide, by decide⟩, by decide⟩
    | forwards _ ih =>
      obtain ⟨there, number⟩ := ih
      exact ⟨inCalendar_dayAfter there, by rw [dayNumber_dayAfter there, number]⟩
    | backwards there _ ih =>
      obtain ⟨-, number⟩ := ih
      rw [dayNumber_dayAfter there] at number
      exact ⟨there, by omega⟩
  · rintro ⟨there, rfl⟩
    rcases Int.eq_nat_or_neg (dayNumber date) with ⟨n, number | number⟩
    · rw [number]
      exact countedAs_ofNat n there number
    · rw [number]
      exact countedAs_neg n there number

/-! ## Dates of numbers -/

/-- Days before a year, by the cycles of 400 years, the centuries, the fours of years and the years that
have passed. -/
theorem daysBeforeYear_of_parts (cycles : ℤ) (century fours years : ℕ)
    (parts : year = 1 + 400 * cycles + 100 * century + 4 * fours + years) (centuries : century ≤ 3)
    (foursOfYears : fours ≤ 24) (singles : years ≤ 3) :
    daysBeforeYear year = 146097 * cycles + 36524 * century + 1461 * fours + 365 * years := by
  rw [daysBeforeYear, parts]
  omega

/-- Whole lengths are taken off, but no more than so many. -/
theorem exists_taken (most n : ℕ) {length : ℕ} (pos : 0 < length) :
    ∃ taken left, min most (n / length) = taken ∧ n - taken * length = left ∧
      n = length * taken + left ∧ taken ≤ most ∧ (left < length ∨ taken = most) := by
  have whole : length * (n / length) + n % length = n := Nat.div_add_mod n length
  have rest : n % length < length := Nat.mod_lt n pos
  refine ⟨_, _, rfl, rfl, ?_, min_le_left _ _, ?_⟩
  · have le : min most (n / length) * length ≤ n :=
      (Nat.mul_le_mul_right length (min_le_right _ _)).trans (Nat.div_mul_le_self n length)
    rw [Nat.mul_comm length]
    omega
  · rcases Nat.lt_or_ge (n / length) most with less | more
    · left
      rw [min_eq_right less.le, Nat.mul_comm]
      omega
    · exact .inr (min_eq_left more)

/-- A day split into cycles of 400 years, centuries, fours of years, years, and the days that are left. A
whole cycle, a whole four or a whole year is taken off wherever there is one, but only the last century of
a cycle and the last year of a four can have a day more than the others. -/
structure IsSplit (day cycles : ℤ) (century fours years days : ℕ) : Prop where
  whole : day = 146097 * cycles + (36524 * century + (1461 * fours + (365 * years + days)) : ℕ)
  century_le : century ≤ 3
  fours_le : fours ≤ 24
  years_le : years ≤ 3
  inCycle : 36524 * century + (1461 * fours + (365 * years + days)) < 146097
  inCentury : 1461 * fours + (365 * years + days) < 36524 ∨ century = 3
  inFour : 365 * years + days < 1461
  inYear : days < 365 ∨ years = 3

theorem exists_isSplit (day : ℤ) :
    ∃ cycles century fours years days, IsSplit day cycles century fours years days ∧
      splitYear day = (1 + 400 * cycles + 100 * century + 4 * fours + years, days) := by
  have low : 0 ≤ day % 146097 := Int.emod_nonneg day (by decide)
  have high : day % 146097 < 146097 := Int.emod_lt_of_pos day (by decide)
  have whole : 146097 * (day / 146097) + day % 146097 = day := Int.mul_ediv_add_emod day 146097
  obtain ⟨inCycle, inCycle_eq⟩ := Int.eq_ofNat_of_zero_le low
  rw [inCycle_eq] at high whole
  obtain ⟨century, inCentury, taken, left, inCycle_split, century_le, inCentury_lt⟩ :=
    exists_taken 3 inCycle (by decide : 0 < 36524)
  have inCentury_split := Nat.div_add_mod inCentury 1461
  have inFour_lt := Nat.mod_lt inCentury (by decide : 0 < 1461)
  have inFour_eq : inCentury - inCentury / 1461 * 1461 = inCentury % 1461 := by omega
  obtain ⟨years, days, yearsTaken, yearsLeft, inFour_split, years_le, days_lt⟩ :=
    exists_taken 3 (inCentury % 1461) (by decide : 0 < 365)
  refine ⟨day / 146097, century, inCentury / 1461, years, days, ?parts, ?split⟩
  case parts =>
    have fours_le : inCentury / 1461 ≤ 24 := by omega
    rw [inFour_split] at inCentury_split inFour_lt
    have sum : 36524 * century + (1461 * (inCentury / 1461) + (365 * years + days)) = inCycle := by
      rw [inCentury_split, inCycle_split]
    exact ⟨by rw [sum, whole], century_le, fours_le, years_le, by rw [sum]; exact_mod_cast high,
      by rwa [inCentury_split], inFour_lt, days_lt⟩
  case split =>
    rw [splitYear, inCycle_eq]
    simp only [Int.toNat_natCast, taken, left, inFour_eq, yearsTaken, yearsLeft]

theorem IsSplit.lt_next {day cycles : ℤ} {century fours years days : ℕ}
    (split : IsSplit day cycles century fours years days) :
    day < daysBeforeYear (1 + 400 * cycles + 100 * century + 4 * fours + years + 1) := by
  obtain ⟨whole, century_le, fours_le, years_le, inCycle, inCentury, inFour, inYear⟩ := split
  rcases Nat.lt_or_eq_of_le years_le with less | rfl
  · rw [daysBeforeYear_of_parts cycles century fours (years + 1) (by omega) century_le fours_le less]
    omega
  rcases Nat.lt_or_eq_of_le fours_le with less | rfl
  · rw [daysBeforeYear_of_parts cycles century (fours + 1) 0 (by omega) century_le less (Nat.zero_le 3)]
    omega
  rcases Nat.lt_or_eq_of_le century_le with less | rfl
  · rw [daysBeforeYear_of_parts cycles (century + 1) 0 0 (by omega) less (Nat.zero_le 24)
      (Nat.zero_le 3)]
    omega
  · rw [daysBeforeYear_of_parts (cycles + 1) 0 0 0 (by omega) (Nat.zero_le 3) (Nat.zero_le 24)
      (Nat.zero_le 3)]
    omega

/-- A day lies in its year, as many days after the beginning as are left. -/
theorem splitYear_spec (day : ℤ) :
    daysBeforeYear (splitYear day).1 + (splitYear day).2 = day ∧
      day < daysBeforeYear ((splitYear day).1 + 1) := by
  obtain ⟨cycles, century, fours, years, days, split, split_eq⟩ := exists_isSplit day
  have begins := daysBeforeYear_of_parts cycles century fours years rfl split.century_le split.fours_le
    split.years_le
  have whole := split.whole
  rw [split_eq]
  refine ⟨?_, split.lt_next⟩
  dsimp only
  rw [begins]
  omega

/-- A day lies in its month, as many days after the beginning as are left. -/
theorem splitMonth_spec (first : ℕ) {lengths : List ℕ} {days : ℕ} (within : days < lengths.sum) :
    ∃ before length after, lengths = before ++ length :: after ∧
      (splitMonth first lengths days).1 = first + before.length ∧
      before.sum + (splitMonth first lengths days).2 = days + 1 ∧
      1 ≤ (splitMonth first lengths days).2 ∧ (splitMonth first lengths days).2 ≤ length := by
  induction lengths generalizing first days with
  | nil => cases within
  | cons length lengths ih =>
    rw [List.sum_cons] at within
    rw [splitMonth]
    split
    · exact ⟨[], length, lengths, rfl, rfl, Nat.zero_add _, Nat.le_add_left 1 days, ‹_›⟩
    · have later : days - length < lengths.sum := by omega
      obtain ⟨before, last, after, rfl, month, sum, pos, le⟩ := ih (first + 1) later
      refine ⟨length :: before, last, after, rfl, ?_, ?_, pos, le⟩
      · rw [month, List.length_cons]
        omega
      · rw [List.sum_cons]
        omega

theorem sum_monthLengths (year : ℤ) :
    (monthLengths year).sum = daysBeforeMonth year 12 + lastDay year 12 := by
  rw [← monthLength_eq (by decide) (by decide), daysBeforeMonth, monthLength, monthLengths]
  cases isLeap year <;> rfl

/-- The month that begins after the months `before`. -/
theorem month_of_split {before after : List ℕ} {length : ℕ}
    (lengths : monthLengths year = before ++ length :: after) :
    1 + before.length ≤ 12 ∧ daysBeforeMonth year (1 + before.length) = before.sum ∧
      lastDay year (1 + before.length) = length := by
  have twelve : before.length + (after.length + 1) = 12 := by
    rw [← List.length_cons, ← List.length_append, ← lengths]
    rfl
  have month_le : 1 + before.length ≤ 12 := by omega
  refine ⟨month_le, ?inFront, ?here⟩
  case inFront =>
    rw [daysBeforeMonth, lengths, Nat.add_sub_cancel_left, List.take_left]
    exact List.sum_eq_foldl.symm
  case here =>
    rw [← monthLength_eq (Nat.le_add_right 1 _) month_le, monthLength, if_neg (by omega), lengths,
      Nat.add_sub_cancel_left, List.getElem?_append_right le_rfl, Nat.sub_self]
    rfl

/-- The date of a number is in the calendar, and has that number. -/
theorem ofDayNumber_spec (n : ℤ) : InCalendar (ofDayNumber n) ∧ dayNumber (ofDayNumber n) = n := by
  obtain ⟨begins, ends⟩ := splitYear_spec (n + dayOfEra)
  have date_eq : ofDayNumber n = ⟨(splitYear (n + dayOfEra)).1,
    (splitMonth 1 (monthLengths (splitYear (n + dayOfEra)).1) (splitYear (n + dayOfEra)).2).1,
    (splitMonth 1 (monthLengths (splitYear (n + dayOfEra)).1) (splitYear (n + dayOfEra)).2).2⟩ := rfl
  rw [date_eq]
  generalize (splitYear (n + dayOfEra)).1 = year at *
  generalize (splitYear (n + dayOfEra)).2 = days at *
  rw [daysBeforeYear_succ] at ends
  have within : days < (monthLengths year).sum := by
    rw [sum_monthLengths]
    omega
  obtain ⟨before, length, after, lengths, month, sum, pos, le⟩ := splitMonth_spec 1 within
  obtain ⟨month_le, inFront, here⟩ := month_of_split lengths
  rw [month]
  refine ⟨⟨Nat.le_add_right 1 _, month_le, pos, here.symm ▸ le⟩, ?_⟩
  rw [dayNumber_eq]
  dsimp only
  rw [inFront]
  omega

end VenueGateway.Calendar
