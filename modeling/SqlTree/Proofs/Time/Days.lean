import SqlTree.Time.Calendar

/-!
# Dates of days

A date tells which day it is, so no two days have the same date.  Years are counted from March, as in
the conversion: a year that is divisible by four ends with a leap day, except for the centuries that
are not divisible by four hundred.
-/

namespace SqlTree.Time

/-- The distance of the date from 1970-01-01 in days. -/
def CalendarDate.dayNumber (date : CalendarDate) : Int :=
  let year := if date.month < 3 then date.year - 1 else date.year
  let month := if date.month < 3 then date.month + 9 else date.month - 3
  365 * year + year / 4 - year / 100 + year / 400 + daysBeforeMonth month + date.day - 1
    - daysBeforeEpoch

/-! ## Years and months -/

/-- Before the last day of an era, the centuries that are over are those of whole 36524 days. -/
theorem yearOfEra_century {dayOfEra century : Nat} (beforeLast : dayOfEra < 146096)
    (centuryEq : dayOfEra / 36524 = century) :
    yearOfEra dayOfEra = (dayOfEra - dayOfEra / 1460 + century) / 365 ∧
      yearOfEra dayOfEra / 100 = century := by
  have noLastDay : dayOfEra / 146096 = 0 := by omega
  unfold yearOfEra
  rw [noLastDay, centuryEq]
  omega

/-- A day of an era lies in the year found for it, which is one of its four hundred years. -/
theorem yearOfEra_bounds {dayOfEra : Nat} (inEra : dayOfEra < daysPerEra) :
    yearOfEra dayOfEra < 400 ∧ daysBeforeYear (yearOfEra dayOfEra) ≤ dayOfEra ∧
      dayOfEra ≤ daysBeforeYear (yearOfEra dayOfEra) + 365 := by
  unfold daysPerEra at inEra
  by_cases last : dayOfEra = 146096
  · subst last
    decide
  · have beforeLast : dayOfEra < 146096 := by omega
    obtain ⟨yearEq, centuryEq⟩ := yearOfEra_century beforeLast rfl
    have leapDays : (dayOfEra - dayOfEra / 1460 + dayOfEra / 36524) / 365 / 4 =
        (dayOfEra - dayOfEra / 1460 + dayOfEra / 36524) / 1460 := Nat.div_div_eq_div_mul _ 365 4
    unfold daysBeforeYear
    rw [centuryEq, yearEq, leapDays]
    omega

/-- A day of a year lies in the month found for it, which is one of its twelve months. -/
theorem monthOfYear_bounds {dayOfYear : Nat} (inYear : dayOfYear ≤ 365) :
    monthOfYear dayOfYear < 12 ∧ daysBeforeMonth (monthOfYear dayOfYear) ≤ dayOfYear ∧
      dayOfYear ≤ daysBeforeMonth (monthOfYear dayOfYear) + 30 := by
  unfold monthOfYear daysBeforeMonth
  omega

/-! ## Dates -/

/-- The years of whole eras that are over, the years, months and days after them, and the day that
they make up. -/
theorem exists_dateOfDay (day : Int) :
    ∃ (era : Int) (year month dayOfMonth : Nat), year < 400 ∧ month < 12 ∧ dayOfMonth ≤ 30 ∧
      day + daysBeforeEpoch =
        era * daysPerEra + daysBeforeYear year + daysBeforeMonth month + dayOfMonth ∧
      dateOfDay day =
        { year := era * 400 + (year : Int) + if month < 10 then 0 else 1
          month := if month < 10 then month + 3 else month - 9
          day := dayOfMonth + 1 } := by
  have inEra : ((day + daysBeforeEpoch) % daysPerEra).toNat < daysPerEra := by
    unfold daysPerEra
    omega
  obtain ⟨yearBound, yearStarted, yearGoesOn⟩ := yearOfEra_bounds inEra
  have inYear : ((day + daysBeforeEpoch) % daysPerEra).toNat -
      daysBeforeYear (yearOfEra ((day + daysBeforeEpoch) % daysPerEra).toNat) ≤ 365 := by
    omega
  obtain ⟨monthBound, monthStarted, monthGoesOn⟩ := monthOfYear_bounds inYear
  refine ⟨_, _, _, _, yearBound, monthBound, ?_, ?_, rfl⟩
  · omega
  · have wholeEras := Int.ediv_mul_add_emod (day + daysBeforeEpoch) daysPerEra
    have notNegative : 0 ≤ (day + daysBeforeEpoch) % daysPerEra := Int.emod_nonneg _ (by decide)
    omega

/-- The months and the days of a month are counted by numbers of two digits. -/
theorem dateOfDay_bounds (day : Int) : (dateOfDay day).month < 100 ∧ (dateOfDay day).day < 100 := by
  obtain ⟨era, year, month, dayOfMonth, -, monthBound, dayBound, -, dateEq⟩ := exists_dateOfDay day
  rw [dateEq]
  simp only
  split <;> omega

/-- The date of a day tells the day. -/
theorem dayNumber_dateOfDay (day : Int) : (dateOfDay day).dayNumber = day := by
  obtain ⟨era, year, month, dayOfMonth, yearBound, monthBound, -, dayEq, dateEq⟩ :=
    exists_dateOfDay day
  rw [dateEq]
  unfold CalendarDate.dayNumber
  unfold daysBeforeYear daysPerEra at dayEq
  by_cases beforeJanuary : month < 10
  · simp only [beforeJanuary, if_true]
    rw [if_neg (by omega), if_neg (by omega), Nat.add_sub_cancel]
    omega
  · simp only [beforeJanuary, if_false]
    have marchMonth : month - 9 + 9 = month := by omega
    rw [if_pos (by omega), if_pos (by omega), marchMonth]
    omega

theorem dateOfDay_injective : Function.Injective dateOfDay := by
  intro first second sameDate
  rw [← dayNumber_dateOfDay first, sameDate, dayNumber_dateOfDay]

end SqlTree.Time
