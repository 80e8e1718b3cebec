import Mathlib.Tactic.IntervalCases
import Colloquy.Calendar.Date

/-!
# Dates and numbers of days

Every day since any day has one date, and every date of the calendar has one day. Between the two
stand years that start in March: a date is a day of such a year, and days of such years are counted
without looking at months. The count goes up by one from each date to the next.
-/

namespace Colloquy.Date

theorem isLeapYear_iff {year : Int} :
    isLeapYear year = true ↔ year % 4 = 0 ∧ (year % 100 ≠ 0 ∨ year % 400 = 0) := by
  simp [isLeapYear]

theorem isValid_iff {date : Date} :
    date.isValid = true ↔ 1 ≤ date.month ∧ date.month ≤ 12 ∧ 1 ≤ date.day ∧
      date.day ≤ daysInMonth date.year date.month := by
  simp [isValid, and_assoc]

/-! ## Days of years that start in March -/

/-- A year that starts in March has a day so many days after its first. It has a leap day, then its
last, if the calendar year that it ends in is a leap year. -/
structure HasDay (year dayOfYear : Int) : Prop where
  nonneg : 0 ≤ dayOfYear
  le : dayOfYear ≤ 365
  leap : dayOfYear = 365 → isLeapYear (year + 1) = true

/-- The days from the start of 1970 to a day of a year that starts in March. -/
def dayNumber (year dayOfYear : Int) : Int :=
  365 * year + year / 4 - year / 100 + year / 400 + dayOfYear - 719468

/-- The date of a day of a year that starts in March. -/
def ofMarch (year dayOfYear : Int) : Date :=
  let monthFromMarch := (5 * dayOfYear + 2) / 153
  let day := dayOfYear - (153 * monthFromMarch + 2) / 5 + 1
  let month := if monthFromMarch < 10 then monthFromMarch + 3 else monthFromMarch - 9
  ⟨if month ≤ 2 then year + 1 else year, month.toNat, day.toNat⟩

/-- The year of a date if years start in March. -/
def marchYear (date : Date) : Int :=
  if date.month ≤ 2 then date.year - 1 else date.year

/-- The days from the first of March before a date. -/
def daysSinceMarch (date : Date) : Int :=
  (153 * ((date.month + 9) % 12) + 2) / 5 + date.day - 1

/-- Whole eras need not be told apart to number days. -/
theorem dayNumber_eq (year dayOfYear : Int) :
    dayNumber year dayOfYear = year / 400 * 146097 +
      (year % 400 * 365 + year % 400 / 4 - year % 400 / 100 + dayOfYear) - 719468 := by
  unfold dayNumber
  omega

theorem toDays_eq (date : Date) : date.toDays = dayNumber date.marchYear date.daysSinceMarch :=
  (dayNumber_eq _ _).symm

/-- After the last day of a year comes the first day of the next one. -/
theorem dayNumber_add_one (year : Int) :
    dayNumber (year + 1) 0 = dayNumber year (if isLeapYear (year + 1) then 365 else 364) + 1 := by
  unfold dayNumber
  split
  next leap =>
    rw [isLeapYear_iff] at leap
    omega
  next plain =>
    rw [isLeapYear_iff] at plain
    omega

/-! ## Dates as days of such years -/

/-- The months of a year from March on start on these of its days. -/
theorem exists_month {dayOfYear : Int} (low : 0 ≤ dayOfYear) (high : dayOfYear ≤ 365) :
    ∃ month : Nat, month < 12 ∧ (5 * dayOfYear + 2) / 153 = month :=
  ⟨((5 * dayOfYear + 2) / 153).toNat, by omega, by omega⟩

section

variable {year dayOfYear : Int}

theorem isValid_ofMarch (has : HasDay year dayOfYear) :
    (ofMarch year dayOfYear).isValid = true := by
  obtain ⟨low, high, leap⟩ := has
  obtain ⟨month, small, same⟩ := exists_month low high
  simp only [isValid_iff, ofMarch, same]
  cases leaps : isLeapYear (year + 1) with
  | true => interval_cases month <;> simp [daysInMonth, leaps] <;> omega
  | false =>
      have short : dayOfYear ≤ 364 := by
        have := mt leap (by simp [leaps])
        omega
      interval_cases month <;> simp [daysInMonth, leaps] <;> omega

theorem marchYear_ofMarch (has : HasDay year dayOfYear) :
    (ofMarch year dayOfYear).marchYear = year := by
  obtain ⟨month, small, same⟩ := exists_month has.nonneg has.le
  simp only [marchYear, ofMarch, same]
  interval_cases month <;> simp

theorem daysSinceMarch_ofMarch (has : HasDay year dayOfYear) :
    (ofMarch year dayOfYear).daysSinceMarch = dayOfYear := by
  obtain ⟨low, high, -⟩ := has
  obtain ⟨month, small, same⟩ := exists_month low high
  simp only [daysSinceMarch, ofMarch, same]
  interval_cases month <;> simp <;> omega

theorem toDays_ofMarch (has : HasDay year dayOfYear) :
    (ofMarch year dayOfYear).toDays = dayNumber year dayOfYear := by
  rw [toDays_eq, marchYear_ofMarch has, daysSinceMarch_ofMarch has]

end

/-- Every date is a day of the year that starts in March. The length of the year matters only up to
February, where it is the year that the March year ends in. -/
theorem hasDay_of_isValid {date : Date} (valid : date.isValid = true) :
    HasDay date.marchYear date.daysSinceMarch := by
  obtain ⟨year, month, day⟩ := date
  obtain ⟨low, high, first, last⟩ := isValid_iff.mp valid
  cases leaps : isLeapYear year
  all_goals
    constructor <;> interval_cases month <;>
      simp [daysInMonth, daysSinceMarch, marchYear, leaps] at last ⊢ <;> omega

/-- The days of a year are told apart by the months that they are in. -/
theorem month_of_isValid {date : Date} (valid : date.isValid = true) :
    (5 * date.daysSinceMarch + 2) / 153 = (date.month + 9) % 12 := by
  obtain ⟨year, month, day⟩ := date
  obtain ⟨low, high, first, last⟩ : 1 ≤ month ∧ month ≤ 12 ∧ 1 ≤ day ∧
      day ≤ daysInMonth year month := isValid_iff.mp valid
  have short : month = 2 → day ≤ 29 := by
    rintro rfl
    exact last.trans (by simp only [daysInMonth]; split <;> decide)
  interval_cases month <;> simp [daysInMonth, daysSinceMarch] at last short ⊢ <;> omega

theorem ofMarch_of_isValid {date : Date} (valid : date.isValid = true) :
    ofMarch date.marchYear date.daysSinceMarch = date := by
  simp only [ofMarch, month_of_isValid valid]
  obtain ⟨year, month, day⟩ := date
  obtain ⟨low, high, -⟩ : 1 ≤ month ∧ month ≤ 12 ∧ _ := isValid_iff.mp valid
  interval_cases month <;> simp [daysSinceMarch, marchYear] <;> omega

/-! ## Days of an era -/

/-- A day of an era is a day of one of its 400 years. -/
structure InEra (dayOfEra yearOfEra dayOfYear : Int) : Prop
    extends HasDay yearOfEra dayOfYear where
  year_nonneg : 0 ≤ yearOfEra
  year_lt : yearOfEra < 400
  split : dayOfEra = yearOfEra * 365 + yearOfEra / 4 - yearOfEra / 100 + dayOfYear

/-- Centuries, spans of four years and years are cut off one after the other. The last century of an
era and the last year of four are a day longer than the others. -/
theorem exists_inEra {dayOfEra : Int} (low : 0 ≤ dayOfEra) (high : dayOfEra < 146097) :
    ∃ yearOfEra dayOfYear, InEra dayOfEra yearOfEra dayOfYear := by
  obtain ⟨century, centuryEq⟩ : ∃ century, century = min 3 (dayOfEra / 36524) := ⟨_, rfl⟩
  obtain ⟨rest, restEq⟩ : ∃ rest, rest = dayOfEra - 36524 * century := ⟨_, rfl⟩
  obtain ⟨fourth, fourthEq⟩ : ∃ fourth, fourth = rest / 1461 := ⟨_, rfl⟩
  obtain ⟨day, dayEq⟩ : ∃ day, day = rest % 1461 := ⟨_, rfl⟩
  obtain ⟨year, yearEq⟩ : ∃ year, year = min 3 (day / 365) := ⟨_, rfl⟩
  have centuries : 0 ≤ century ∧ century ≤ 3 := by omega
  have rests : 0 ≤ rest ∧ rest ≤ 36524 ∧ (rest = 36524 → century = 3) := by omega
  have fourths : 0 ≤ fourth ∧ fourth ≤ 24 := by omega
  have years : 0 ≤ year ∧ year ≤ 3 := by omega
  have quarter : (100 * century + 4 * fourth + year) / 4 = 25 * century + fourth := by omega
  have hundredth : (100 * century + 4 * fourth + year) / 100 = century := by omega
  refine ⟨100 * century + 4 * fourth + year, day - 365 * year,
    ⟨by omega, by omega, fun last => ?_⟩, by omega, by omega, ?_⟩
  · rw [isLeapYear_iff]
    omega
  · rw [quarter, hundredth]
    omega

/-- The year is found by dividing once the leap days are taken out, which may take one out too many
late in a year. -/
theorem InEra.year_eq {dayOfEra yearOfEra dayOfYear : Int}
    (inEra : InEra dayOfEra yearOfEra dayOfYear) :
    (dayOfEra - dayOfEra / 1460 + dayOfEra / 36524 - dayOfEra / 146096) / 365 = yearOfEra := by
  obtain ⟨⟨day_nonneg, day_le, leap⟩, year_nonneg, year_lt, split⟩ := inEra
  rw [isLeapYear_iff] at leap
  obtain ⟨century, centuryEq⟩ : ∃ century, century = yearOfEra / 100 := ⟨_, rfl⟩
  obtain ⟨fourth, fourthEq⟩ : ∃ fourth, fourth = yearOfEra % 100 / 4 := ⟨_, rfl⟩
  obtain ⟨year, yearEq⟩ : ∃ year, year = yearOfEra % 4 := ⟨_, rfl⟩
  have quarter : yearOfEra / 4 = 25 * century + fourth := by omega
  have whole : yearOfEra = 100 * century + 4 * fourth + year := by omega
  have bounds : 0 ≤ century ∧ century ≤ 3 ∧ 0 ≤ fourth ∧ fourth ≤ 24 ∧ 0 ≤ year ∧ year ≤ 3 := by
    omega
  have last : dayOfYear = 365 → year = 3 ∧ (fourth = 24 → century = 3) := by omega
  have days : dayOfEra = 36524 * century + 1461 * fourth + 365 * year + dayOfYear := by omega
  have inCentury : 1461 * fourth + 365 * year + dayOfYear ≤ 36524 ∧
      (1461 * fourth + 365 * year + dayOfYear = 36524 → century = 3) := by omega
  have centuries : dayOfEra / 36524 - dayOfEra / 146096 = century := by
    rcases Int.lt_or_eq_of_le inCentury.1 with within | final
    · have first : dayOfEra / 36524 = century := by omega
      have second : dayOfEra / 146096 = 0 := by omega
      omega
    · have final : dayOfEra = 146096 := by omega
      rw [final]
      omega
  have leapDays : 25 * century + fourth ≤ dayOfEra / 1460 ∧
      dayOfEra / 1460 ≤ 25 * century + fourth + 1 := by omega
  have late : dayOfEra / 1460 = 25 * century + fourth + 1 → 269 ≤ dayOfYear := by omega
  have latest : dayOfYear = 365 → dayOfEra / 1460 = 25 * century + fourth + 1 := by omega
  omega

/-! ## Dates and their numbers -/

theorem ofDays_eq {days yearOfEra dayOfYear : Int}
    (inEra : InEra ((days + 719468) % 146097) yearOfEra dayOfYear) :
    ofDays days = ofMarch (yearOfEra + (days + 719468) / 146097 * 400) dayOfYear := by
  have rest : (days + 719468) % 146097 - (365 * yearOfEra + yearOfEra / 4 - yearOfEra / 100) =
      dayOfYear := by
    have split := inEra.split
    omega
  simp only [ofDays, inEra.year_eq, rest]
  rfl

theorem hasDay_add_eras {year dayOfYear eras : Int} :
    HasDay (year + eras * 400) dayOfYear ↔ HasDay year dayOfYear := by
  have same : isLeapYear (year + eras * 400 + 1) = true ↔ isLeapYear (year + 1) = true := by
    rw [isLeapYear_iff, isLeapYear_iff]
    omega
  constructor
  · rintro ⟨low, high, leap⟩
    exact ⟨low, high, fun last => same.mp (leap last)⟩
  · rintro ⟨low, high, leap⟩
    exact ⟨low, high, fun last => same.mpr (leap last)⟩

/-- Every day is a day of a year that starts in March, and has the date of that. -/
theorem exists_ofDays (days : Int) : ∃ year dayOfYear, HasDay year dayOfYear ∧
    days = dayNumber year dayOfYear ∧ ofDays days = ofMarch year dayOfYear := by
  obtain ⟨yearOfEra, dayOfYear, inEra⟩ := exists_inEra
    (Int.emod_nonneg (days + 719468) (by decide : (146097 : Int) ≠ 0))
    (Int.emod_lt_of_pos (days + 719468) (by decide))
  refine ⟨_, dayOfYear, hasDay_add_eras.mpr inEra.toHasDay, ?_, ofDays_eq inEra⟩
  obtain ⟨-, low, high, split⟩ := inEra
  unfold dayNumber
  omega

/-- Every day has a date. -/
theorem isValid_ofDays (days : Int) : (ofDays days).isValid = true := by
  obtain ⟨year, dayOfYear, has, -, found⟩ := exists_ofDays days
  rw [found]
  exact isValid_ofMarch has

theorem toDays_ofDays (days : Int) : (ofDays days).toDays = days := by
  obtain ⟨year, dayOfYear, has, same, found⟩ := exists_ofDays days
  rw [found, toDays_ofMarch has, same]

theorem ofDays_dayNumber {year dayOfYear : Int} (has : HasDay year dayOfYear) :
    ofDays (dayNumber year dayOfYear) = ofMarch year dayOfYear := by
  have eras : year % 400 + year / 400 * 400 = year := by omega
  have low := Int.emod_nonneg year (by decide : (400 : Int) ≠ 0)
  have high := Int.emod_lt_of_pos year (by decide : (0 : Int) < 400)
  have days := dayNumber_eq year dayOfYear
  have bounds := And.intro has.nonneg has.le
  have era : (dayNumber year dayOfYear + 719468) / 146097 = year / 400 := by omega
  have inEra : InEra ((dayNumber year dayOfYear + 719468) % 146097) (year % 400) dayOfYear := by
    refine ⟨?_, low, high, by omega⟩
    rwa [← eras, hasDay_add_eras] at has
  rw [ofDays_eq inEra, era, eras]

/-- Every date is that of a day. -/
theorem ofDays_toDays {date : Date} (valid : date.isValid = true) : ofDays date.toDays = date := by
  rw [toDays_eq, ofDays_dayNumber (hasDay_of_isValid valid), ofMarch_of_isValid valid]

/-- The date of the following day. -/
def next (date : Date) : Date :=
  if date.day < daysInMonth date.year date.month then { date with day := date.day + 1 }
  else if date.month < 12 then ⟨date.year, date.month + 1, 1⟩
  else ⟨date.year + 1, 1, 1⟩

/-- Days are numbered one after the other, the first day of 1970 being number zero. -/
theorem toDays_next {date : Date} (valid : date.isValid = true) :
    date.next.toDays = date.toDays + 1 := by
  obtain ⟨year, month, day⟩ := date
  obtain ⟨low, high, first, last⟩ : 1 ≤ month ∧ month ≤ 12 ∧ 1 ≤ day ∧
      day ≤ daysInMonth year month := isValid_iff.mp valid
  rcases Nat.lt_or_eq_of_le last with inside | rfl
  · simp only [next, inside, if_true, toDays_eq, marchYear, daysSinceMarch, dayNumber]
    omega
  · simp only [next, Nat.lt_irrefl, if_false, toDays_eq]
    rcases eq_or_ne month 2 with rfl | apart
    · have march := dayNumber_add_one (year - 1)
      rw [Int.sub_add_cancel] at march
      simp only [marchYear, daysSinceMarch, daysInMonth]
      cases leap : isLeapYear year <;> simpa [leap] using march
    · interval_cases month <;>
        simp [marchYear, daysSinceMarch, daysInMonth, dayNumber] at apart ⊢ <;> omega

example : (⟨1970, 1, 1⟩ : Date).toDays = 0 := by decide

/-- An instant lies in the day of a date. -/
def Covers (date : Date) (instant : Instant) : Prop :=
  date.isValid = true ∧ date.toDays * Instant.secondsPerDay ≤ instant.seconds ∧
    instant.seconds < (date.toDays + 1) * Instant.secondsPerDay

/-- Every instant lies in the day of one date. -/
theorem covers_iff {date : Date} {instant : Instant} :
    date.Covers instant ↔ date = ofInstant instant := by
  have day : date.toDays * Instant.secondsPerDay ≤ instant.seconds ∧
      instant.seconds < (date.toDays + 1) * Instant.secondsPerDay ↔
        date.toDays = instant.seconds / Instant.secondsPerDay := by
    unfold Instant.secondsPerDay
    omega
  rw [Covers, day, ofInstant]
  constructor
  · rintro ⟨valid, same⟩
    rw [← same, ofDays_toDays valid]
  · rintro rfl
    exact ⟨isValid_ofDays _, toDays_ofDays _⟩

end Colloquy.Date
