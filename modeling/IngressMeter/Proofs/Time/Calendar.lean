import IngressMeter.Time.Calendar

/-!
Days and dates: the date of a day is a date of the calendar, and the day of that date is the day
again. An era is 400 years, which always have the same number of days.
-/

namespace IngressMeter.Calendar

def yearOfEra (dayOfEra : Int) : Int :=
  (dayOfEra - dayOfEra / 1460 + dayOfEra / 36524 - dayOfEra / 146096) / 365

def daysBefore (year : Int) : Int := 365 * year + year / 4 - year / 100

theorem yearOfEra_mono {day later : Int} (ordered : day ≤ later) :
    yearOfEra day ≤ yearOfEra later := by
  have days : day - day / 1460 + day / 36524 - day / 146096 ≤
      later - later / 1460 + later / 36524 - later / 146096 := by
    omega
  rw [yearOfEra, yearOfEra]
  omega

theorem yearOfEra_nonneg {day : Int} (first : 0 ≤ day) : 0 ≤ yearOfEra day := yearOfEra_mono first

theorem yearOfEra_lt {day : Int} (last : day < 146097) : yearOfEra day < 400 := by
  have ends : yearOfEra 146096 = 399 := by decide
  have le : yearOfEra day ≤ yearOfEra 146096 := yearOfEra_mono (by omega)
  omega

/-- The formula for the year changes its value at the first day of each year. -/
theorem yearOfEra_daysBefore : ∀ year < 400, yearOfEra (daysBefore (year : Nat)) = year ∧
    (0 < year → yearOfEra (daysBefore (year : Nat) - 1) < year) := by
  decide +kernel

theorem daysBefore_yearOfEra {day : Int} (first : 0 ≤ day) (last : day < 146097) :
    daysBefore (yearOfEra day) ≤ day ∧
      (yearOfEra day < 399 → day < daysBefore (yearOfEra day + 1)) := by
  obtain ⟨year, isYear⟩ := Int.eq_ofNat_of_zero_le (yearOfEra_nonneg first)
  have below := yearOfEra_lt last
  rw [isYear] at below ⊢
  -- The formula is monotone, so a day on the wrong side of a first day would be of another year.
  refine ⟨Int.not_lt.mp fun early => ?_, fun notLast => Int.not_le.mp fun late => ?_⟩
  · have before : yearOfEra day ≤ yearOfEra (daysBefore year - 1) := yearOfEra_mono (by omega)
    have positive : 0 < year := by
      rw [daysBefore] at early
      omega
    have changes := (yearOfEra_daysBefore year (by omega)).2 positive
    omega
  · have next : yearOfEra (daysBefore ((year + 1 : Nat) : Int)) = (year + 1 : Nat) :=
      (yearOfEra_daysBefore (year + 1) (by omega)).1
    have after := yearOfEra_mono late
    rw [← Int.natCast_succ, next] at after
    omega

def monthOfYear (dayOfYear : Int) : Int := (5 * dayOfYear + 2) / 153

def daysBeforeMonth (month : Int) : Int := (153 * month + 2) / 5

theorem monthOfYear_bounds {day : Int} (first : 0 ≤ day) (last : day < 366) :
    0 ≤ monthOfYear day ∧ monthOfYear day < 12 ∧ daysBeforeMonth (monthOfYear day) ≤ day ∧
      day < daysBeforeMonth (monthOfYear day + 1) := by
  rw [monthOfYear, daysBeforeMonth, daysBeforeMonth]
  omega

/-- A date by its era, the year of the era, and the month from March on. -/
structure Shifted where
  era : Int
  year : Int
  month : Int
  day : Int
  isYear : 0 ≤ year ∧ year < 400
  isMonth : 0 ≤ month ∧ month < 12
  isDay : 1 ≤ day ∧ daysBeforeMonth month + day ≤ daysBeforeMonth (month + 1)
  isLong : daysBeforeMonth month + day ≤ 366
  isShort : year < 399 → daysBefore year + daysBeforeMonth month + day ≤ daysBefore (year + 1)

namespace Shifted

variable (shifted : Shifted)

def number : Int :=
  shifted.era * 146097 + daysBefore shifted.year + daysBeforeMonth shifted.month + shifted.day - 719469

def calendarMonth : Int := if shifted.month < 10 then shifted.month + 3 else shifted.month - 9

def calendarYear : Int :=
  let year := shifted.year + shifted.era * 400
  if shifted.calendarMonth ≤ 2 then year + 1 else year

def date : Date := ⟨shifted.calendarYear, shifted.calendarMonth.toNat, shifted.day.toNat⟩

theorem toDays_date : toDays shifted.date = shifted.number := by
  obtain ⟨firstYear, lastYear⟩ := shifted.isYear
  obtain ⟨firstMonth, lastMonth⟩ := shifted.isMonth
  obtain ⟨firstDay, _⟩ := shifted.isDay
  simp only [toDays, date, number, calendarYear, calendarMonth, daysBefore, daysBeforeMonth]
  split <;> omega

theorem isValid_date : isValid shifted.date = true := by
  obtain ⟨era, year, month, day, isYear, isMonth, ⟨firstDay, lastDay⟩, isLong, isShort⟩ := shifted
  by_cases february : month = 11
  · subst february
    simp only [daysBeforeMonth, daysBefore] at isLong isShort
    have length : isLeap (year + era * 400 + 1) = true ∨ day ≤ 28 := by
      simp only [isLeap, Bool.and_eq_true, Bool.or_eq_true, decide_eq_true_eq]
      omega
    rcases length with leap | short
    · simp [isValid, date, calendarYear, calendarMonth, daysIn, leap]
      omega
    · simp [isValid, date, calendarYear, calendarMonth, daysIn]
      split <;> omega
  · have months : month = 0 ∨ month = 1 ∨ month = 2 ∨ month = 3 ∨ month = 4 ∨ month = 5 ∨
        month = 6 ∨ month = 7 ∨ month = 8 ∨ month = 9 ∨ month = 10 := by
      omega
    rcases months with rfl | rfl | rfl | rfl | rfl | rfl | rfl | rfl | rfl | rfl | rfl
    all_goals
      simp [daysBeforeMonth] at lastDay
      simp [isValid, date, calendarYear, calendarMonth, daysIn]
      omega

end Shifted

theorem exists_shifted (days : Int) :
    ∃ shifted : Shifted, shifted.number = days ∧ ofDays days = shifted.date := by
  have era : (days + 719468) % 146097 + (days + 719468) / 146097 * 146097 = days + 719468 := by omega
  obtain ⟨dayOfEra, isDayOfEra⟩ : ∃ day, day = (days + 719468) % 146097 := ⟨_, rfl⟩
  have first : 0 ≤ dayOfEra := by omega
  have last : dayOfEra < 146097 := by omega
  have firstYear := yearOfEra_nonneg first
  have lastYear := yearOfEra_lt last
  obtain ⟨begins, ends⟩ := daysBefore_yearOfEra first last
  obtain ⟨dayOfYear, isDayOfYear⟩ : ∃ day, day = dayOfEra - daysBefore (yearOfEra dayOfEra) := ⟨_, rfl⟩
  have yearLength : dayOfYear < 366 := by
    simp only [daysBefore] at *
    omega
  obtain ⟨firstMonth, lastMonth, monthBegins, monthEnds⟩ :=
    @monthOfYear_bounds dayOfYear (by omega) yearLength
  refine ⟨{
    era := (days + 719468) / 146097
    year := yearOfEra dayOfEra
    month := monthOfYear dayOfYear
    day := dayOfYear - daysBeforeMonth (monthOfYear dayOfYear) + 1
    isYear := ⟨firstYear, lastYear⟩
    isMonth := ⟨firstMonth, lastMonth⟩
    isDay := by omega
    isLong := by omega
    isShort := by omega }, ?_, ?_⟩
  · dsimp only [Shifted.number]
    omega
  · subst isDayOfYear isDayOfEra
    rfl

theorem toDays_ofDays (days : Int) : toDays (ofDays days) = days := by
  obtain ⟨shifted, isNumber, isDate⟩ := exists_shifted days
  rw [isDate, shifted.toDays_date, isNumber]

theorem daysIn_le (year : Int) (month : Nat) : daysIn year month ≤ 31 := by
  unfold daysIn
  split
  · split <;> decide
  all_goals decide

theorem isValid_ofDays (days : Int) : isValid (ofDays days) = true := by
  obtain ⟨shifted, _, isDate⟩ := exists_shifted days
  rw [isDate, shifted.isValid_date]

end IngressMeter.Calendar
