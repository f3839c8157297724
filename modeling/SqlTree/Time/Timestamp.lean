import SqlTree.Decimal.Shortest
import SqlTree.Text.JsonString
import SqlTree.Time.Calendar

/-!
# Timestamps

A timestamp is an instant together with the offset from UTC at which it was recorded.  Two texts
of a timestamp exist: the text inside a statement, always in UTC and exact to the microsecond, and
the JSON text, in local time and exact to the nanosecond.  A leap second is the sixty-first second
of its minute.
-/

namespace SqlTree.Time

open Decimal (digitsOf padded)

/-- An instant, given by the seconds since 1970-01-01T00:00:00Z without leap seconds and the
nanoseconds within the second, and an offset from UTC in seconds.  From `10 ^ 9` on the nanoseconds
are those of the leap second that follows the given second. -/
structure Timestamp where
  seconds : Int
  nanoseconds : Nat
  offset : Int
  deriving DecidableEq, Repr

def nanosecondsPerSecond : Nat := 1000000000

/-- A date and a time of day; during a leap second the second is one more than usual. -/
structure ClockReading where
  date : CalendarDate
  hour : Nat
  minute : Nat
  second : Nat
  deriving DecidableEq, Repr

/-- What a clock shows at the given second, which is or is not followed by a leap second. -/
def ClockReading.ofSeconds (seconds : Int) (leap : Bool) : ClockReading :=
  let secondOfDay := (seconds % 86400).toNat
  { date := dateOfDay (seconds / 86400)
    hour := secondOfDay / 3600
    minute := secondOfDay / 60 % 60
    second := secondOfDay % 60 + if leap then 1 else 0 }

def twoDigits (number : Nat) : List Char :=
  padded 2 (digitsOf number)

/-- A year has four digits; outside the years 0 to 9999 it has a sign and at least four digits. -/
def yearText (year : Int) : List Char :=
  let digits := padded 4 (digitsOf year.natAbs)
  if year < 0 then '-' :: digits else if 9999 < year then '+' :: digits else digits

def CalendarDate.text (date : CalendarDate) : List Char :=
  yearText date.year ++ '-' :: twoDigits date.month ++ '-' :: twoDigits date.day

def ClockReading.timeText (reading : ClockReading) : List Char :=
  twoDigits reading.hour ++ ':' :: twoDigits reading.minute ++ ':' :: twoDigits reading.second

namespace Timestamp

/-- The timestamp lies in a leap second. -/
def isLeap (time : Timestamp) : Bool :=
  nanosecondsPerSecond ≤ time.nanoseconds

/-- The nanoseconds since the start of the second, or of the leap second. -/
def fraction (time : Timestamp) : Nat :=
  time.nanoseconds % nanosecondsPerSecond

/-- The same instant, whatever the offsets. -/
def sameInstant (first second : Timestamp) : Bool :=
  first.seconds == second.seconds && first.nanoseconds == second.nanoseconds

def universalReading (time : Timestamp) : ClockReading :=
  ClockReading.ofSeconds time.seconds time.isLeap

def localReading (time : Timestamp) : ClockReading :=
  ClockReading.ofSeconds (time.seconds + time.offset) time.isLeap

def microseconds (time : Timestamp) : Nat :=
  time.fraction / 1000

/-- A point and the microseconds without the zeros at their end; nothing for none. -/
def microsecondText (microseconds : Nat) : List Char :=
  if microseconds = 0 then []
  else '.' :: ((padded 6 (digitsOf microseconds)).reverse.dropWhile (· == '0')).reverse

/-- The text inside a statement, without quotes: `YYYY-MM-DD HH:MM:SS[.ffffff]+00`. -/
def inlineText (time : Timestamp) : List Char :=
  let reading := time.universalReading
  reading.date.text ++ ' ' :: reading.timeText ++ microsecondText time.microseconds ++ "+00".toList

/-- A point and the nanoseconds in the fewest groups of three digits that are exact. -/
def nanosecondText (nanoseconds : Nat) : List Char :=
  if nanoseconds = 0 then []
  else if nanoseconds % 1000000 = 0 then '.' :: padded 3 (digitsOf (nanoseconds / 1000000))
  else if nanoseconds % 1000 = 0 then '.' :: padded 6 (digitsOf (nanoseconds / 1000))
  else '.' :: padded 9 (digitsOf nanoseconds)

/-- The offset in hours and minutes, rounded to the nearest minute; `Z` for UTC. -/
def offsetText (offset : Int) : List Char :=
  if offset = 0 then ['Z']
  else
    let minutes := (offset.natAbs + 30) / 60
    (if offset < 0 then '-' else '+') :: twoDigits (minutes / 60) ++ ':' :: twoDigits (minutes % 60)

/-- The JSON text: local date and time joined by `T`, fraction and offset, as a JSON string. -/
def json (time : Timestamp) : String :=
  let reading := time.localReading
  Text.jsonString (String.ofList
    (reading.date.text ++ 'T' :: reading.timeText ++ nanosecondText time.fraction
      ++ offsetText time.offset))

end Timestamp

end SqlTree.Time
