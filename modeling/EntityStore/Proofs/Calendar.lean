import EntityStore.Timestamp
import Mathlib.Tactic.IntervalCases

/-!
# The calendar

Every number of days is that of one day, and `Day.ofNumber` finds it.  The years are
counted from March in eras of four hundred, each as long as any other.  The year of a
day within its era is guessed by a division that corrects for leap days; the guess
grows with the day and is right on the first and on the last day of each year, so it
is right on all of them.  The months of a year from March on follow a fixed pattern,
and only its last day depends on the year.
-/

set_option autoImplicit false

namespace EntityStore.Timestamp

/-! ## Years of an era -/

/-- The first day of a year of an era. -/
def eraDay (year : Nat) : Nat := 365 * year + year / 4 - year / 100 + year / 400

/-- The days of an era without those that are leap days at least, by which the year is guessed. -/
def yearEstimate (dayOfEra : Nat) : Nat :=
  dayOfEra - dayOfEra / 1460 + dayOfEra / 36524 - dayOfEra / 146096

theorem yearEstimate_mono {first second : Nat} (ordered : first ≤ second) :
    yearEstimate first ≤ yearEstimate second := by
  simp only [yearEstimate]
  omega

/-- The guess is right on the first and on the last day of each year. -/
theorem yearEstimate_bounds : ∀ year < 400, 365 * year ≤ yearEstimate (eraDay year) ∧
    yearEstimate (eraDay (year + 1) - 1) < 365 * (year + 1) := by
  decide +kernel

/-- Every day of an era lies in one of its years. -/
theorem exists_year {dayOfEra : Nat} {years : Nat} (below : dayOfEra < eraDay years) :
    ∃ year < years, eraDay year ≤ dayOfEra ∧ dayOfEra < eraDay (year + 1) := by
  induction years with
  | zero => exact absurd below (Nat.not_lt_zero dayOfEra)
  | succ years ih =>
      by_cases earlier : dayOfEra < eraDay years
      · obtain ⟨year, within, found⟩ := ih earlier
        exact ⟨year, Nat.lt_succ_of_lt within, found⟩
      · exact ⟨years, Nat.lt_succ_self years, Nat.le_of_not_lt earlier, below⟩

/-- The year of a day within its era. -/
theorem year_of_dayOfEra {dayOfEra : Nat} (below : dayOfEra < 146097) :
    ∃ year < 400, yearEstimate dayOfEra / 365 = year ∧ eraDay year ≤ dayOfEra ∧
      dayOfEra < eraDay (year + 1) := by
  have era : eraDay 400 = 146097 := rfl
  obtain ⟨year, within, starts, ends⟩ := exists_year (era ▸ below)
  refine ⟨year, within, ?_, starts, ends⟩
  obtain ⟨lower, upper⟩ := yearEstimate_bounds year within
  have notBefore := yearEstimate_mono starts
  have notAfter := yearEstimate_mono (Nat.le_sub_one_of_lt ends)
  omega

/-- A year that ends in a leap year of the calendar ends in a leap day. -/
theorem eraDay_succ : ∀ year < 400,
    eraDay (year + 1) = eraDay year + if isLeapYear (year + 1) then 366 else 365 := by
  decide +kernel

theorem dayOfYear_le {year dayOfYear : Nat} (yearBelow : year < 400)
    (dayBelow : eraDay year + dayOfYear < eraDay (year + 1)) : dayOfYear ≤ 365 := by
  rw [eraDay_succ year yearBelow] at dayBelow
  split at dayBelow
  · omega
  · omega

theorem isLeapYear_add_era (year era : Int) :
    isLeapYear (year + era * 400) = isLeapYear year := by
  have four : (year + era * 400) % 4 = year % 4 := by omega
  have hundred : (year + era * 400) % 100 = year % 100 := by omega
  have fourHundred : (year + era * 400) % 400 = year % 400 := by omega
  rw [isLeapYear, isLeapYear, four, hundred, fourHundred]

/-! ## Days of a year -/

namespace Day

/-- The number of days in a year before one of its months. -/
def daysBefore (monthFromMarch : Nat) : Nat := (153 * monthFromMarch + 2) / 5

/-- The month of the calendar that is so many months after March. -/
def monthFrom (monthFromMarch : Nat) : Nat :=
  if monthFromMarch < 10 then monthFromMarch + 3 else monthFromMarch - 9

/-- The day of a year of an era that is so many days after its first. -/
def ofEra (era : Int) (year dayOfYear : Nat) : Day :=
  let monthFromMarch := (5 * dayOfYear + 2) / 153
  { year := year + era * 400 + (if monthFrom monthFromMarch ≤ 2 then 1 else 0)
    month := monthFrom monthFromMarch
    day := dayOfYear - daysBefore monthFromMarch + 1 }

/-- The month of a day of a year. -/
theorem month_of_dayOfYear {dayOfYear : Nat} (below : dayOfYear ≤ 365) :
    ∃ month ≤ 11, (5 * dayOfYear + 2) / 153 = month ∧ daysBefore month ≤ dayOfYear ∧
      dayOfYear < daysBefore (month + 1) := by
  simp only [daysBefore]
  exact ⟨(5 * dayOfYear + 2) / 153, by omega, rfl, by omega, by omega⟩

theorem monthFrom_bounds {month : Nat} (below : month ≤ 11) :
    1 ≤ monthFrom month ∧ monthFrom month ≤ 12 := by
  rw [monthFrom]
  split
  · omega
  · omega

/-- The months from March on are as long in every year; the last of them is February. -/
theorem monthLength_monthFrom (year : Int) {month : Nat} (below : month < 11) :
    monthLength year (monthFrom month) = daysBefore (month + 1) - daysBefore month := by
  interval_cases month <;> rfl

/-- Whether there is such a day in the calendar. -/
structure IsProper (day : Day) : Prop where
  month_pos : 1 ≤ day.month
  month_le : day.month ≤ 12
  day_pos : 1 ≤ day.day
  day_le : day.day ≤ monthLength day.year day.month

theorem ofNumber_eq_ofEra (number : Int) :
    ∃ (era : Int) (year dayOfYear : Nat), year < 400 ∧
      eraDay year + dayOfYear < eraDay (year + 1) ∧
      number = era * 146097 + eraDay year + dayOfYear - 719468 ∧
      ofNumber number = ofEra era year dayOfYear := by
  obtain ⟨dayOfEra, within⟩ := Int.eq_ofNat_of_zero_le
    (Int.emod_nonneg (number + 719468) (by decide : (146097 : Int) ≠ 0))
  have below : dayOfEra < 146097 := by omega
  obtain ⟨year, yearBelow, estimate, starts, ends⟩ := year_of_dayOfEra below
  have guessed : ((dayOfEra : Int) - dayOfEra / 1460 + dayOfEra / 36524 - dayOfEra / 146096) / 365 =
      year := by
    rw [yearEstimate] at estimate
    omega
  obtain ⟨dayOfYear, rfl⟩ := Nat.exists_eq_add_of_le starts
  have short := dayOfYear_le yearBelow ends
  have days : ((eraDay year + dayOfYear : Nat) : Int) - (365 * year + year / 4 - year / 100) =
      dayOfYear := by
    rw [eraDay]
    omega
  obtain ⟨month, monthBelow, found, monthStarts, -⟩ := month_of_dayOfYear short
  have foundInt : (5 * (dayOfYear : Int) + 2) / 153 = month := by omega
  have calendar : (if (month : Int) < 10 then (month : Int) + 3 else month - 9) =
      monthFrom month := by
    rw [monthFrom]
    split <;> split <;> omega
  refine ⟨(number + 719468) / 146097, year, dayOfYear, yearBelow, ends, by omega, ?_⟩
  rw [daysBefore] at monthStarts
  simp only [ofNumber, within, guessed, days, foundInt, calendar, ofEra, found, daysBefore,
    Day.mk.injEq, Int.toNat_natCast]
  refine ⟨?_, trivial, by omega⟩
  split <;> split <;> omega

theorem number_ofEra (era : Int) {year dayOfYear : Nat} (yearBelow : year < 400)
    (dayBelow : dayOfYear ≤ 365) :
    (ofEra era year dayOfYear).number = era * 146097 + eraDay year + dayOfYear - 719468 := by
  obtain ⟨month, monthBelow, found, monthStarts, -⟩ := month_of_dayOfYear dayBelow
  have march : (monthFrom month + 9) % 12 = month := by
    rw [monthFrom]
    split <;> omega
  have fromMarch : (if monthFrom month ≤ 2
      then (year : Int) + era * 400 + (if monthFrom month ≤ 2 then 1 else 0) - 1
      else year + era * 400 + (if monthFrom month ≤ 2 then 1 else 0)) = year + era * 400 := by
    split <;> omega
  have eras : ((year : Int) + era * 400) / 400 = era := by omega
  have yearOfEra : ((year : Int) + era * 400) % 400 = year := by omega
  rw [daysBefore] at monthStarts
  simp only [number, ofEra, found, march, fromMarch, eras, yearOfEra, daysBefore, eraDay]
  omega

theorem isProper_ofEra (era : Int) {year dayOfYear : Nat} (yearBelow : year < 400)
    (dayBelow : eraDay year + dayOfYear < eraDay (year + 1)) :
    (ofEra era year dayOfYear).IsProper := by
  have leap : isLeapYear (year + era * 400 + 1) = isLeapYear (year + 1) := by
    rw [add_right_comm, isLeapYear_add_era]
  have short := dayOfYear_le yearBelow dayBelow
  rw [eraDay_succ year yearBelow, ← leap] at dayBelow
  obtain ⟨month, monthBelow, found, starts, ends⟩ := month_of_dayOfYear short
  have bounds := monthFrom_bounds monthBelow
  simp only [ofEra, found]
  refine ⟨bounds.1, bounds.2, Nat.le_add_left 1 _, ?_⟩
  by_cases last : month = 11
  · subst last
    change dayOfYear - 337 + 1 ≤ if isLeapYear (year + era * 400 + 1) then 29 else 28
    by_cases isLeap : isLeapYear (year + era * 400 + 1)
    · rw [if_pos isLeap] at dayBelow ⊢
      omega
    · rw [if_neg isLeap] at dayBelow ⊢
      omega
  · rw [monthLength_monthFrom _ (by omega)]
    dsimp only
    omega

/-- **Every number of days is that of a day in the calendar.** -/
theorem number_ofNumber (days : Int) :
    (ofNumber days).number = days ∧ (ofNumber days).IsProper := by
  obtain ⟨era, year, dayOfYear, yearBelow, dayBelow, rfl, found⟩ := ofNumber_eq_ofEra days
  have short := dayOfYear_le yearBelow dayBelow
  rw [found]
  exact ⟨number_ofEra era yearBelow short, isProper_ofEra era yearBelow dayBelow⟩

end Day

end EntityStore.Timestamp
