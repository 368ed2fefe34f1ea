import GptQueue.Foundation.Calendar
import GptQueue.Foundation.Decimal

/-! # Instants and their ISO strings

The tools stamp records with `Date.prototype.toISOString`, while the renewal
script does its own date arithmetic. Both are given here, over integer
milliseconds since 1970, and shown to agree on the years 1970 to 9999.
-/

namespace GptQueue.IsoDate

/-- The last millisecond of the year 9999. -/
def lastInstant : Int := 253402300799999

/-! ## Text -/

/-- The digit runs of `YYYY-MM-DDTHH:mm:ss.sssZ`, of any lengths. -/
structure Parts where
  year : List Char
  month : List Char
  day : List Char
  hour : List Char
  minute : List Char
  second : List Char
  millisecond : List Char

/-- `%d+` followed by the literal `mark`. -/
def readRun (mark : Char) (text : List Char) : Option (List Char × List Char) :=
  let digits := text.takeWhile Char.isDigit
  match text.dropWhile Char.isDigit with
  | next :: rest => if digits ≠ [] ∧ next = mark then some (digits, rest) else none
  | [] => none

/-- `string.match(s, '^(%d+)-(%d+)-(%d+)T(%d+):(%d+):(%d+)%.(%d+)Z$')`. -/
def readParts (text : String) : Option Parts := do
  let (year, rest) ← readRun '-' text.toList
  let (month, rest) ← readRun '-' rest
  let (day, rest) ← readRun 'T' rest
  let (hour, rest) ← readRun ':' rest
  let (minute, rest) ← readRun ':' rest
  let (second, rest) ← readRun '.' rest
  let (millisecond, rest) ← readRun 'Z' rest
  if rest = [] then some { year, month, day, hour, minute, second, millisecond } else none

def Parts.text (parts : Parts) : String :=
  String.ofList (parts.year ++ '-' :: (parts.month ++ '-' :: (parts.day ++ 'T' ::
    (parts.hour ++ ':' :: (parts.minute ++ ':' :: (parts.second ++ '.' ::
      (parts.millisecond ++ ['Z'])))))))

def IsRun (digits : List Char) : Prop := digits ≠ [] ∧ digits.all Char.isDigit = true

theorem readRun_append {digits : List Char} (isRun : IsRun digits) {mark : Char}
    (notDigit : mark.isDigit = false) (rest : List Char) :
    readRun mark (digits ++ mark :: rest) = some (digits, rest) := by
  rcases isRun with ⟨nonempty, allDigits⟩
  have digit : ∀ char ∈ digits, char.isDigit = true := List.all_eq_true.mp allDigits
  simp [readRun, List.takeWhile_append_of_pos digit, List.dropWhile_append_of_pos digit,
    notDigit, nonempty]

theorem readParts_text {parts : Parts} (year : IsRun parts.year) (month : IsRun parts.month)
    (day : IsRun parts.day) (hour : IsRun parts.hour) (minute : IsRun parts.minute)
    (second : IsRun parts.second) (millisecond : IsRun parts.millisecond) :
    readParts parts.text = some parts := by
  simp [readParts, Parts.text, readRun_append, year, month, day, hour, minute, second,
    millisecond]

/-! ## `Date` -/

/-- The year as `toISOString` writes it: four digits, or a sign and six. -/
def yearText (year : Int) : List Char :=
  if 0 ≤ year ∧ year ≤ 9999 then Decimal.padded 4 year.toNat
  else (if year < 0 then '-' else '+') :: Decimal.padded 6 year.natAbs

def toISOParts (ms : Int) : Parts :=
  let date := Calendar.dateOf (ms / 86400000)
  let inDay := (ms % 86400000).toNat
  { year := yearText date.year
    month := Decimal.padded 2 date.month.toNat
    day := Decimal.padded 2 date.day.toNat
    hour := Decimal.padded 2 (inDay / 3600000)
    minute := Decimal.padded 2 (inDay / 60000 % 60)
    second := Decimal.padded 2 (inDay / 1000 % 60)
    millisecond := Decimal.padded 3 (inDay % 1000) }

/-- `new Date(ms).toISOString()`. -/
def toISOString (ms : Int) : String := (toISOParts ms).text

/-- `Date.parse` on the form that `toISOString` writes for a year of four digits;
any other text is `NaN` here. -/
def dateParse (text : String) : Option Int := do
  let parts ← readParts text
  let date : Calendar.Date :=
    { year := Decimal.value parts.year
      month := Decimal.value parts.month
      day := Decimal.value parts.day }
  let hour := Decimal.value parts.hour
  let minute := Decimal.value parts.minute
  let second := Decimal.value parts.second
  if parts.year.length = 4 ∧ parts.month.length = 2 ∧ parts.day.length = 2 ∧
      parts.hour.length = 2 ∧ parts.minute.length = 2 ∧ parts.second.length = 2 ∧
      parts.millisecond.length = 3 ∧ date.valid ∧ hour < 24 ∧ minute < 60 ∧ second < 60 then
    some (Calendar.dayOf date * 86400000 + hour * 3600000 + minute * 60000 +
      second * 1000 + Decimal.value parts.millisecond)
  else none

/-! ## The renewal script's arithmetic -/

def daysFromCivil (y m d : Int) : Int :=
  let yy := if m ≤ 2 then y - 1 else y
  let era := yy / 400
  let yoe := yy - era * 400
  let mp := m + if m > 2 then -3 else 9
  let doy := (153 * mp + 2) / 5 + d - 1
  let doe := yoe * 365 + yoe / 4 - yoe / 100 + doy
  era * 146097 + doe - 719468

def msFromIso (text : String) : Option Int := do
  let parts ← readParts text
  let days := daysFromCivil (Decimal.value parts.year) (Decimal.value parts.month)
    (Decimal.value parts.day)
  let secs := days * 86400 + Decimal.value parts.hour * 3600 +
    Decimal.value parts.minute * 60 + Decimal.value parts.second
  let msv := Decimal.value parts.millisecond * 10 ^ (3 - parts.millisecond.length)
  some (secs * 1000 + msv)

/-- `string.format` with `%0<width>d`. -/
def formatD (width : Nat) (number : Int) : List Char :=
  if number < 0 then '-' :: Decimal.padded (width - 1) number.natAbs
  else Decimal.padded width number.toNat

/-- The year, month and day computed by `iso_from_ms`. -/
def civilFromDays (days : Int) : Calendar.Date :=
  let z := days + 719468
  let era := z / 146097
  let doe := z - era * 146097
  let yoe := (doe - doe / 1460 + doe / 36524 - doe / 146096) / 365
  let y := yoe + era * 400
  let doy := doe - (365 * yoe + yoe / 4 - yoe / 100)
  let mp := (5 * doy + 2) / 153
  let d := doy - (153 * mp + 2) / 5 + 1
  let m := mp + if mp < 10 then 3 else -9
  { year := if m ≤ 2 then y + 1 else y, month := m, day := d }

def isoParts (ms : Int) : Parts :=
  let totalSecs := ms / 1000
  let msec := ms - totalSecs * 1000
  let days := totalSecs / 86400
  let rem := totalSecs % 86400
  let date := civilFromDays days
  { year := formatD 4 date.year
    month := formatD 2 date.month
    day := formatD 2 date.day
    hour := formatD 2 (rem / 3600)
    minute := formatD 2 (rem % 3600 / 60)
    second := formatD 2 (rem % 60)
    millisecond := formatD 3 msec }

def isoFromMs (ms : Int) : String := (isoParts ms).text

/-! ## Agreement -/

theorem daysFromCivil_eq_dayOf {date : Calendar.Date} (first : 1 ≤ date.month)
    (last : date.month ≤ 12) :
    daysFromCivil date.year date.month date.day = Calendar.dayOf date := by
  simp only [daysFromCivil, Calendar.dayOf, Calendar.dayFromYear,
    Calendar.leapDays_eq_ite, Calendar.daysBeforeMonth_eq first (by omega : date.month ≤ 13)]
  split <;> split <;> omega

/-- A day of a 400-year era that begins in March, split into centuries,
olympiads and years. The leap day ends its year here. -/
theorem parts_of_doe {doe : Int} (inRange : 0 ≤ doe ∧ doe < 146097) :
    ∃ century olympiad year doy : Int,
      doe = 36524 * century + 1461 * olympiad + 365 * year + doy ∧
      (0 ≤ century ∧ century ≤ 3) ∧ (0 ≤ olympiad ∧ olympiad ≤ 24) ∧
      (0 ≤ year ∧ year ≤ 3) ∧ (0 ≤ doy ∧ doy ≤ 365) ∧
      (doy = 365 → year = 3 ∧ (olympiad < 24 ∨ century = 3)) := by
  obtain ⟨century, olympiad, year, doy, -, -, -, sum, centuries, olympiads, years,
    first, last⟩ := Calendar.parts_of_inCycle inRange
  refine ⟨century, olympiad, year, doy, sum, centuries, olympiads, years, ?_, ?_⟩
  · constructor <;> omega
  · omega

theorem yoe_of_parts {century olympiad year doy doe : Int}
    (sum : doe = 36524 * century + 1461 * olympiad + 365 * year + doy)
    (centuries : 0 ≤ century ∧ century ≤ 3) (olympiads : 0 ≤ olympiad ∧ olympiad ≤ 24)
    (years : 0 ≤ year ∧ year ≤ 3) (doys : 0 ≤ doy ∧ doy ≤ 365)
    (leap : doy = 365 → year = 3 ∧ (olympiad < 24 ∨ century = 3)) :
    (doe - doe / 1460 + doe / 36524 - doe / 146096) / 365 =
      100 * century + 4 * olympiad + year := by
  by_cases last : doe = 146096
  · -- the last day of an era, the only one that the third correction moves
    have : century = 3 := by omega
    have : olympiad = 24 := by omega
    subst last
    omega
  · have eras : doe / 146096 = 0 := by omega
    have hundreds : doe / 36524 = century := by omega
    have fours : doe / 1460 = 25 * century + olympiad +
        (24 * century + olympiad + 365 * year + doy) / 1460 := by omega
    rw [eras, hundreds, fours]
    omega

/-- The date of the day `doy` of the year that begins on the first of March of
`marchYear`. -/
def marchDate (marchYear doy : Int) : Calendar.Date :=
  let mp := (5 * doy + 2) / 153
  let m := mp + if mp < 10 then 3 else -9
  { year := if m ≤ 2 then marchYear + 1 else marchYear
    month := m
    day := doy - (153 * mp + 2) / 5 + 1 }

theorem marchDate_valid {marchYear doy : Int} (doys : 0 ≤ doy ∧ doy ≤ 365)
    (leap : doy = 365 → Calendar.leapDays (marchYear + 1) = 1) :
    (marchDate marchYear doy).valid := by
  obtain ⟨mp, mpEq⟩ : ∃ mp, (5 * doy + 2) / 153 = mp := ⟨_, rfl⟩
  have bounds := Calendar.leapDays_bounds (marchYear + 1)
  simp only [marchDate, Calendar.Date.valid, mpEq]
  by_cases spring : mp < 10
  · rw [if_pos spring, if_neg (by omega), Calendar.daysBeforeMonth_eq (by omega) (by omega),
      Calendar.daysBeforeMonth_eq (by omega) (by omega), if_neg (by omega), if_neg (by omega)]
    refine ⟨by omega, by omega, by omega, by omega⟩
  · rw [if_neg spring, if_pos (by omega), Calendar.daysBeforeMonth_eq (by omega) (by omega),
      Calendar.daysBeforeMonth_eq (by omega) (by omega), if_pos (by omega)]
    obtain january | february : mp = 10 ∨ mp = 11 := by omega
    · rw [if_pos (by omega)]
      refine ⟨by omega, by omega, by omega, by omega⟩
    · rw [if_neg (by omega)]
      refine ⟨by omega, by omega, by omega, by omega⟩

theorem dayOf_marchDate {era yoe doy : Int} (yoes : 0 ≤ yoe ∧ yoe < 400)
    (doys : 0 ≤ doy ∧ doy ≤ 365) :
    Calendar.dayOf (marchDate (400 * era + yoe) doy) =
      era * 146097 + (yoe * 365 + yoe / 4 - yoe / 100 + doy) - 719468 := by
  have range : 1 ≤ (marchDate (400 * era + yoe) doy).month ∧
      (marchDate (400 * era + yoe) doy).month ≤ 12 := by
    simp only [marchDate]
    constructor <;> omega
  rw [← daysFromCivil_eq_dayOf range.1 range.2]
  simp only [marchDate, daysFromCivil]
  omega

theorem days_of_yoe {century olympiad year : Int} (olympiads : 0 ≤ olympiad ∧ olympiad ≤ 24)
    (years : 0 ≤ year ∧ year ≤ 3) :
    365 * (100 * century + 4 * olympiad + year) + (100 * century + 4 * olympiad + year) / 4 -
        (100 * century + 4 * olympiad + year) / 100 =
      36524 * century + 1461 * olympiad + 365 * year := by
  have fours : (100 * century + 4 * olympiad + year) / 4 = 25 * century + olympiad := by omega
  have hundreds : (100 * century + 4 * olympiad + year) / 100 = century := by omega
  rw [fours, hundreds]
  omega

theorem civilFromDays_eq_dateOf (days : Int) :
    civilFromDays days = Calendar.dateOf days := by
  obtain ⟨era, doe, zEq, inRange⟩ : ∃ era doe, days + 719468 = era * 146097 + doe ∧
      (0 ≤ doe ∧ doe < 146097) :=
    ⟨(days + 719468) / 146097, (days + 719468) % 146097, by omega, by omega⟩
  obtain ⟨century, olympiad, year, doy, sum, centuries, olympiads, years, doys, leap⟩ :=
    parts_of_doe inRange
  have eraEq : (days + 719468) / 146097 = era := by omega
  have doeEq : days + 719468 - era * 146097 = doe := by omega
  have yoeEq := yoe_of_parts sum centuries olympiads years doys leap
  have yoeDays := @days_of_yoe century _ _ olympiads years
  obtain ⟨yoe, yoeDef⟩ : ∃ yoe, yoe = 100 * century + 4 * olympiad + year := ⟨_, rfl⟩
  rw [← yoeDef] at yoeDays
  have doyEq : doe - (365 * yoe + yoe / 4 - yoe / 100) = doy := by
    rw [yoeDays, sum]
    ring
  have civil : civilFromDays days = marchDate (400 * era + yoe) doy := by
    rw [show 400 * era + yoe = yoe + era * 400 by ring]
    simp only [civilFromDays, marchDate, eraEq, doeEq, yoeEq, ← yoeDef, doyEq]
  have valid : (marchDate (400 * era + yoe) doy).valid := by
    refine marchDate_valid doys fun lastDay => ?_
    have leapYear := leap lastDay
    rw [yoeDef, ← add_assoc, ← add_assoc,
      Calendar.leapDays_of_parts centuries olympiads years, if_pos leapYear]
  have sameDay : Calendar.dayOf (marchDate (400 * era + yoe) doy) = days := by
    rw [dayOf_marchDate ⟨by omega, by omega⟩ doys, mul_comm yoe, yoeDays, ← sum, ← zEq]
    ring
  rw [civil, ← Calendar.dateOf_dayOf valid, sameDay]

/-- The instants with a year of four digits from 1970 on. -/
def InRange (ms : Int) : Prop := 0 ≤ ms ∧ ms ≤ lastInstant

instance (ms : Int) : Decidable (InRange ms) := inferInstanceAs (Decidable (_ ∧ _))

theorem year_of_inRange {ms : Int} (inRange : InRange ms) :
    1970 ≤ (Calendar.dateOf (ms / 86400000)).year ∧
      (Calendar.dateOf (ms / 86400000)).year ≤ 9999 := by
  rcases inRange with ⟨first, last⟩
  have bounds := @Calendar.yearFromDay_bounds (ms / 86400000) 1970 10000
    (by simp only [Calendar.dayFromYear]; omega)
    (by simp only [Calendar.dayFromYear]; unfold lastInstant at last; omega)
  exact ⟨bounds.1, Int.lt_add_one_iff.mp bounds.2⟩

theorem isRun_padded (width number : Nat) : IsRun (Decimal.padded width number) :=
  ⟨Decimal.padded_ne_nil width number, Decimal.all_isDigit_padded width number⟩

theorem formatD_of_nonneg {width : Nat} {number : Int} (nonneg : 0 ≤ number) :
    formatD width number = Decimal.padded width number.toNat := by
  rw [formatD, if_neg (by omega)]

theorem yearText_of_range {year : Int} (first : 0 ≤ year) (last : year ≤ 9999) :
    yearText year = Decimal.padded 4 year.toNat := by
  rw [yearText, if_pos ⟨first, last⟩]

theorem isoParts_eq {ms : Int} (inRange : InRange ms) : isoParts ms = toISOParts ms := by
  have years := year_of_inRange inRange
  rcases inRange with ⟨first, last⟩
  have days : ms / 1000 / 86400 = ms / 86400000 := by omega
  rcases Calendar.dateOf_valid (ms / 86400000) with ⟨month, -, day, -⟩
  simp only [isoParts, toISOParts, days, civilFromDays_eq_dateOf, Parts.mk.injEq]
  refine ⟨?_, ?_, ?_, ?_, ?_, ?_, ?_⟩
  · rw [formatD_of_nonneg (by omega), yearText_of_range (by omega) years.2]
  · rw [formatD_of_nonneg (by omega)]
  · rw [formatD_of_nonneg (by omega)]
  · rw [formatD_of_nonneg (by omega)]
    congr 1
    omega
  · rw [formatD_of_nonneg (by omega)]
    congr 1
    omega
  · rw [formatD_of_nonneg (by omega)]
    congr 1
    omega
  · rw [formatD_of_nonneg (by omega)]
    congr 1
    omega

/-- The script writes an instant as `toISOString` does. -/
theorem isoFromMs_eq_toISOString {ms : Int} (inRange : InRange ms) :
    isoFromMs ms = toISOString ms := by
  rw [isoFromMs, toISOString, isoParts_eq inRange]

theorem readParts_toISOString {ms : Int} (inRange : InRange ms) :
    readParts (toISOString ms) = some (toISOParts ms) := by
  have years := year_of_inRange inRange
  apply readParts_text <;> try exact isRun_padded _ _
  simp only [toISOParts]
  rw [yearText_of_range (by omega) years.2]
  exact isRun_padded _ _

theorem value_yearText {year : Int} (first : 0 ≤ year) (last : year ≤ 9999) :
    (Decimal.value (yearText year) : Int) = year := by
  rw [yearText_of_range first last, Decimal.value_padded]
  omega

/-- The script reads a string written by `toISOString` back to its instant. -/
theorem msFromIso_toISOString {ms : Int} (inRange : InRange ms) :
    msFromIso (toISOString ms) = some ms := by
  have years := year_of_inRange inRange
  rcases Calendar.dateOf_valid (ms / 86400000) with ⟨month, lastMonth, day, -⟩
  have sameDay := Calendar.dayOf_dateOf (ms / 86400000)
  rw [← daysFromCivil_eq_dayOf month lastMonth] at sameDay
  rw [msFromIso, readParts_toISOString inRange]
  have wide : (Decimal.padded 3 ((ms % 86400000).toNat % 1000)).length = 3 :=
    Decimal.length_padded (by omega) (by omega)
  simp only [Option.bind_eq_bind, Option.bind_some, toISOParts, wide, Decimal.value_padded,
    value_yearText (by omega : 0 ≤ (Calendar.dateOf (ms / 86400000)).year) years.2,
    Option.some.injEq]
  rw [Int.toNat_of_nonneg (by omega), Int.toNat_of_nonneg (by omega), sameDay]
  push_cast
  omega

theorem dateParse_toISOString {ms : Int} (inRange : InRange ms) :
    dateParse (toISOString ms) = some ms := by
  have years := year_of_inRange inRange
  have valid := Calendar.dateOf_valid (ms / 86400000)
  have day := valid.day_le
  rcases valid with ⟨month, lastMonth, firstDay, -⟩
  have sameDay := Calendar.dayOf_dateOf (ms / 86400000)
  rw [dateParse, readParts_toISOString inRange]
  simp only [Option.bind_eq_bind, Option.bind_some, toISOParts, Decimal.value_padded,
    value_yearText (by omega : 0 ≤ (Calendar.dateOf (ms / 86400000)).year) years.2]
  rw [Int.toNat_of_nonneg (by omega), Int.toNat_of_nonneg (by omega), if_pos, Option.some.injEq]
  · rw [sameDay]
    omega
  · rw [yearText_of_range (by omega) years.2]
    refine ⟨Decimal.length_padded (by omega) (by omega), Decimal.length_padded (by omega) (by omega),
      Decimal.length_padded (by omega) (by omega), Decimal.length_padded (by omega) (by omega),
      Decimal.length_padded (by omega) (by omega), Decimal.length_padded (by omega) (by omega),
      Decimal.length_padded (by omega) (by omega), Calendar.dateOf_valid _,
      by omega, by omega, by omega⟩

end GptQueue.IsoDate
