/-!
# Days of the calendar

The proleptic Gregorian calendar: the days of its months, and the number of each day counted from
1 January 1970. Years start in March here, so that the leap day is the last day of its year; an era is
the 400 years after which the calendar repeats. Day numbers are exact integers for every year.
-/

namespace Songbook.Calendar

/-- Whether February of a year has 29 days. -/
def isLeapYear (year : Int) : Bool :=
  (year % 4 = 0 && year % 100 != 0) || year % 400 = 0

/-- The number of days of a month. -/
def daysInMonth (year month : Int) : Int :=
  if month = 2 then (if isLeapYear year then 29 else 28)
  else if month = 4 ∨ month = 6 ∨ month = 9 ∨ month = 11 then 30
  else 31

/-- Whether a year, month and day name a day. -/
def isDate (year month day : Int) : Bool :=
  1 ≤ month && month ≤ 12 && 1 ≤ day && day ≤ daysInMonth year month

/-- The number of a day, with 1 January 1970 as day zero. -/
def dayNumber (year month day : Int) : Int :=
  let year := if month ≤ 2 then year - 1 else year
  let era := year / 400
  let yearOfEra := year - era * 400
  let monthFromMarch := (month + 9) % 12
  let dayOfYear := (153 * monthFromMarch + 2) / 5 + day - 1
  let dayOfEra := yearOfEra * 365 + yearOfEra / 4 - yearOfEra / 100 + dayOfYear
  era * 146097 + dayOfEra - 719468

end Songbook.Calendar
