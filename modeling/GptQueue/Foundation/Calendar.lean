import Mathlib.Tactic

/-! # The proleptic Gregorian calendar

Days are counted from 1970-01-01, as in the ECMAScript date algorithms. `dateOf`
inverts `dayOf`: `dateOf_dayOf` states that the date of a day is the only valid
one, so another implementation only has to give a valid date on the same day.
-/

namespace GptQueue.Calendar

/-- A calendar date; months and days of the month count from one. -/
structure Date where
  year : Int
  month : Int
  day : Int
deriving DecidableEq, Repr

def isLeap (year : Int) : Bool :=
  year % 4 == 0 && (year % 100 != 0 || year % 400 == 0)

def leapDays (year : Int) : Int := if isLeap year then 1 else 0

/-- `DayFromYear`: the day on which a year begins. -/
def dayFromYear (year : Int) : Int :=
  365 * (year - 1970) + (year - 1969) / 4 - (year - 1901) / 100 + (year - 1601) / 400

/-- The days of a year before a month begins, where `leap` is the length of the
leap day. The thirteenth month is the next January. -/
def daysBeforeMonth (leap month : Int) : Int :=
  if month ≤ 1 then 0
  else if month = 2 then 31
  else if month = 3 then 59 + leap
  else if month = 4 then 90 + leap
  else if month = 5 then 120 + leap
  else if month = 6 then 151 + leap
  else if month = 7 then 181 + leap
  else if month = 8 then 212 + leap
  else if month = 9 then 243 + leap
  else if month = 10 then 273 + leap
  else if month = 11 then 304 + leap
  else if month = 12 then 334 + leap
  else 365 + leap

def Date.valid (date : Date) : Prop :=
  1 ≤ date.month ∧ date.month ≤ 12 ∧ 1 ≤ date.day ∧
    daysBeforeMonth (leapDays date.year) date.month + date.day ≤
      daysBeforeMonth (leapDays date.year) (date.month + 1)

instance (date : Date) : Decidable date.valid := inferInstanceAs (Decidable (_ ∧ _))

/-- `MakeDay`. -/
def dayOf (date : Date) : Int :=
  dayFromYear date.year + daysBeforeMonth (leapDays date.year) date.month + date.day - 1

/-- `YearFromTime`, from the position of the day in its cycles of 400, 100, 4
and 1 years. The last century of a cycle and the last year of an olympiad are a
day longer than the others. -/
def yearFromDay (day : Int) : Int :=
  let cycle := (day + 719162) / 146097
  let inCycle := (day + 719162) % 146097
  let century := min (inCycle / 36524) 3
  let inCentury := inCycle - 36524 * century
  let olympiad := inCentury / 1461
  let inOlympiad := inCentury % 1461
  400 * cycle + 100 * century + 4 * olympiad + min (inOlympiad / 365) 3 + 1

/-- `MonthFromTime`, counted from one. -/
def monthFromDay (leap dayInYear : Int) : Int :=
  if dayInYear < 31 then 1
  else if dayInYear < 59 + leap then 2
  else if dayInYear < 90 + leap then 3
  else if dayInYear < 120 + leap then 4
  else if dayInYear < 151 + leap then 5
  else if dayInYear < 181 + leap then 6
  else if dayInYear < 212 + leap then 7
  else if dayInYear < 243 + leap then 8
  else if dayInYear < 273 + leap then 9
  else if dayInYear < 304 + leap then 10
  else if dayInYear < 334 + leap then 11
  else 12

def dateOf (day : Int) : Date :=
  let year := yearFromDay day
  let leap := leapDays year
  let dayInYear := day - dayFromYear year
  let month := monthFromDay leap dayInYear
  { year, month, day := dayInYear - daysBeforeMonth leap month + 1 }

example : dateOf 0 = ⟨1970, 1, 1⟩ := by decide

example : dateOf 11016 = ⟨2000, 2, 29⟩ := by decide

/-! ## Years -/

theorem leapDays_eq_ite (year : Int) :
    leapDays year =
      if year % 4 = 0 ∧ (year % 100 ≠ 0 ∨ year % 400 = 0) then 1 else 0 := by
  simp [leapDays, isLeap]

theorem leapDays_bounds (year : Int) : 0 ≤ leapDays year ∧ leapDays year ≤ 1 := by
  unfold leapDays
  split <;> omega

theorem dayFromYear_succ (year : Int) :
    dayFromYear (year + 1) = dayFromYear year + 365 + leapDays year := by
  rw [leapDays_eq_ite]
  unfold dayFromYear
  split <;> omega

theorem dayFromYear_strictMono : StrictMono dayFromYear := by
  apply strictMono_int_of_lt_succ
  intro year
  have bounds := leapDays_bounds year
  rw [dayFromYear_succ]
  omega

/-- A year is determined by any of its days. -/
theorem year_unique {year other day : Int}
    (starts : dayFromYear year ≤ day) (ends : day < dayFromYear (year + 1))
    (otherStarts : dayFromYear other ≤ day) (otherEnds : day < dayFromYear (other + 1)) :
    year = other := by
  have notLater : year < other + 1 :=
    dayFromYear_strictMono.lt_iff_lt.mp (starts.trans_lt otherEnds)
  have notEarlier : other < year + 1 :=
    dayFromYear_strictMono.lt_iff_lt.mp (otherStarts.trans_lt ends)
  omega

/-- The first day of a year, from its place in the cycles. -/
theorem dayFromYear_of_parts {cycle century olympiad year : Int}
    (centuries : 0 ≤ century ∧ century ≤ 3) (olympiads : 0 ≤ olympiad ∧ olympiad ≤ 24)
    (years : 0 ≤ year ∧ year ≤ 3) :
    dayFromYear (400 * cycle + 100 * century + 4 * olympiad + year + 1) =
      146097 * cycle + 36524 * century + 1461 * olympiad + 365 * year - 719162 := by
  unfold dayFromYear
  omega

theorem parts_of_inCycle {inCycle : Int} (inRange : 0 ≤ inCycle ∧ inCycle < 146097) :
    ∃ century olympiad year dayInYear : Int,
      century = min (inCycle / 36524) 3 ∧
      olympiad = (inCycle - 36524 * century) / 1461 ∧
      year = min ((inCycle - 36524 * century) % 1461 / 365) 3 ∧
      inCycle = 36524 * century + 1461 * olympiad + 365 * year + dayInYear ∧
      (0 ≤ century ∧ century ≤ 3) ∧ (0 ≤ olympiad ∧ olympiad ≤ 24) ∧
      (0 ≤ year ∧ year ≤ 3) ∧ 0 ≤ dayInYear ∧
      dayInYear < 365 + if year = 3 ∧ (olympiad < 24 ∨ century = 3) then 1 else 0 := by
  refine ⟨_, _, _, inCycle - 36524 * min (inCycle / 36524) 3 -
    1461 * ((inCycle - 36524 * min (inCycle / 36524) 3) / 1461) -
    365 * min ((inCycle - 36524 * min (inCycle / 36524) 3) % 1461 / 365) 3,
    rfl, rfl, rfl, ?_, ?_, ?_, ?_, ?_, ?_⟩
  · omega
  · omega
  · omega
  · omega
  · omega
  · split <;> omega

theorem leapDays_of_parts {cycle century olympiad year : Int}
    (centuries : 0 ≤ century ∧ century ≤ 3) (olympiads : 0 ≤ olympiad ∧ olympiad ≤ 24)
    (years : 0 ≤ year ∧ year ≤ 3) :
    leapDays (400 * cycle + 100 * century + 4 * olympiad + year + 1) =
      if year = 3 ∧ (olympiad < 24 ∨ century = 3) then 1 else 0 := by
  rw [leapDays_eq_ite]
  refine if_congr ?_ rfl rfl
  omega

/-- Every day lies in the year computed for it. -/
theorem yearFromDay_spec (day : Int) :
    dayFromYear (yearFromDay day) ≤ day ∧ day < dayFromYear (yearFromDay day + 1) := by
  have inRange : 0 ≤ (day + 719162) % 146097 ∧ (day + 719162) % 146097 < 146097 := by omega
  obtain ⟨century, olympiad, year, dayInYear, centuryEq, olympiadEq, yearEq, sum,
    centuries, olympiads, years, first, last⟩ := parts_of_inCycle inRange
  have yearFromDay_eq : yearFromDay day =
      400 * ((day + 719162) / 146097) + 100 * century + 4 * olympiad + year + 1 := by
    simp only [yearFromDay]
    rw [← centuryEq, ← olympiadEq, ← yearEq]
  have starts : dayFromYear (400 * ((day + 719162) / 146097) + 100 * century +
      4 * olympiad + year + 1) = _ := dayFromYear_of_parts centuries olympiads years
  rw [dayFromYear_succ, yearFromDay_eq, starts,
    leapDays_of_parts centuries olympiads years]
  constructor <;> omega

/-! ## Dates -/

/-- From March on, month lengths repeat with a period of five months and 153 days. -/
theorem daysBeforeMonth_eq {leap month : Int} (first : 1 ≤ month) (last : month ≤ 13) :
    daysBeforeMonth leap month =
      if month ≤ 2 then 31 * (month - 1) else (153 * month - 457) / 5 + 59 + leap := by
  interval_cases month <;> rfl

theorem monthFromDay_spec {leap dayInYear : Int} (leapBounds : 0 ≤ leap ∧ leap ≤ 1)
    (first : 0 ≤ dayInYear) (last : dayInYear < 365 + leap) :
    1 ≤ monthFromDay leap dayInYear ∧ monthFromDay leap dayInYear ≤ 12 ∧
      daysBeforeMonth leap (monthFromDay leap dayInYear) ≤ dayInYear ∧
      dayInYear < daysBeforeMonth leap (monthFromDay leap dayInYear + 1) := by
  obtain ⟨month, equal⟩ : ∃ month, monthFromDay leap dayInYear = month := ⟨_, rfl⟩
  have range : 1 ≤ month ∧ month ≤ 12 := by
    subst equal
    unfold monthFromDay
    omega
  rw [equal, daysBeforeMonth_eq range.1 (by omega), daysBeforeMonth_eq (by omega) (by omega)]
  unfold monthFromDay at equal
  refine ⟨range.1, range.2, ?_, ?_⟩
  · omega
  · omega

theorem dateOf_valid (day : Int) : (dateOf day).valid := by
  rcases yearFromDay_spec day with ⟨starts, ends⟩
  rw [dayFromYear_succ] at ends
  obtain ⟨first, last, begins, stops⟩ := @monthFromDay_spec (leapDays (yearFromDay day))
    (day - dayFromYear (yearFromDay day)) (leapDays_bounds (yearFromDay day)) (by omega) (by omega)
  refine ⟨first, last, ?_, ?_⟩
  · simp only [dateOf]
    omega
  · simp only [dateOf]
    omega

theorem Date.valid.day_le {date : Date} (valid : date.valid) : date.day ≤ 31 := by
  rcases valid with ⟨first, last, positive, fits⟩
  have bounds := leapDays_bounds date.year
  rw [daysBeforeMonth_eq first (by omega), daysBeforeMonth_eq (by omega) (by omega)] at fits
  omega

theorem yearFromDay_bounds {day low high : Int} (after : dayFromYear low ≤ day)
    (before : day < dayFromYear high) : low ≤ yearFromDay day ∧ yearFromDay day < high := by
  rcases yearFromDay_spec day with ⟨starts, ends⟩
  have notEarlier : low < yearFromDay day + 1 :=
    dayFromYear_strictMono.lt_iff_lt.mp (after.trans_lt ends)
  exact ⟨by omega, dayFromYear_strictMono.lt_iff_lt.mp (starts.trans_lt before)⟩

theorem dayOf_dateOf (day : Int) : dayOf (dateOf day) = day := by
  simp only [dayOf, dateOf]
  omega

theorem monthFromDay_unique {leap dayInYear month : Int} (leapBounds : 0 ≤ leap ∧ leap ≤ 1)
    (first : 1 ≤ month) (last : month ≤ 12)
    (begins : daysBeforeMonth leap month ≤ dayInYear)
    (stops : dayInYear < daysBeforeMonth leap (month + 1)) :
    monthFromDay leap dayInYear = month := by
  rw [daysBeforeMonth_eq first (by omega)] at begins
  rw [daysBeforeMonth_eq (by omega) (by omega)] at stops
  unfold monthFromDay
  interval_cases month <;> omega

/-- The date of a day is the only valid date that falls on it. -/
theorem dateOf_dayOf {date : Date} (valid : date.valid) : dateOf (dayOf date) = date := by
  rcases valid with ⟨first, last, positive, fits⟩
  have leapBounds := leapDays_bounds date.year
  have inYear : 0 ≤ daysBeforeMonth (leapDays date.year) date.month ∧
      daysBeforeMonth (leapDays date.year) (date.month + 1) ≤ 365 + leapDays date.year := by
    rw [daysBeforeMonth_eq first (by omega), daysBeforeMonth_eq (by omega) (by omega)]
    constructor <;> omega
  have sameYear : yearFromDay (dayOf date) = date.year := by
    rcases yearFromDay_spec (dayOf date) with ⟨starts, ends⟩
    refine year_unique starts ends ?_ ?_
    · simp only [dayOf]
      omega
    · rw [dayFromYear_succ]
      simp only [dayOf]
      omega
  have offset : dayOf date - dayFromYear date.year =
      daysBeforeMonth (leapDays date.year) date.month + date.day - 1 := by
    simp only [dayOf]
    omega
  have sameMonth : monthFromDay (leapDays date.year)
      (daysBeforeMonth (leapDays date.year) date.month + date.day - 1) = date.month :=
    monthFromDay_unique leapBounds first last (by omega) (by omega)
  have sameDay : daysBeforeMonth (leapDays date.year) date.month + date.day - 1 -
      daysBeforeMonth (leapDays date.year) date.month + 1 = date.day := by omega
  simp only [dateOf, sameYear, offset, sameMonth, sameDay]

end GptQueue.Calendar
