/-!
# The proleptic Gregorian calendar

A day is given by its distance from 1970-01-01.  For the conversion a year starts in March, so
that the leap day is its last day, and years are grouped into eras of four hundred years, all of
one length.
-/

namespace SqlTree.Time

/-- A date with an astronomical year: the year before year 1 is year 0. -/
structure CalendarDate where
  year : Int
  month : Nat
  day : Nat
  deriving DecidableEq, Repr

/-- The number of days in four hundred years. -/
def daysPerEra : Nat := 146097

/-- The distance of 0000-03-01, the start of the first era, from 1970-01-01. -/
def daysBeforeEpoch : Int := 719468

/-- The years of an era that are over before the given day of the era. -/
def yearOfEra (dayOfEra : Nat) : Nat :=
  (dayOfEra - dayOfEra / 1460 + dayOfEra / 36524 - dayOfEra / 146096) / 365

/-- The days of an era that are over before the given year of the era starts. -/
def daysBeforeYear (year : Nat) : Nat :=
  365 * year + year / 4 - year / 100

/-- The months of a year, counted from March, that are over before the given day of the year. -/
def monthOfYear (dayOfYear : Nat) : Nat :=
  (5 * dayOfYear + 2) / 153

/-- The days of a year that are over before the given month, counted from March, starts. -/
def daysBeforeMonth (month : Nat) : Nat :=
  (153 * month + 2) / 5

def dateOfDay (day : Int) : CalendarDate :=
  let shifted := day + daysBeforeEpoch
  let era := shifted / daysPerEra
  let dayOfEra := (shifted % daysPerEra).toNat
  let year := yearOfEra dayOfEra
  let dayOfYear := dayOfEra - daysBeforeYear year
  let month := monthOfYear dayOfYear
  { year := era * 400 + (year : Int) + if month < 10 then 0 else 1
    month := if month < 10 then month + 3 else month - 9
    day := dayOfYear - daysBeforeMonth month + 1 }

end SqlTree.Time
