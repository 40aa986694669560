/-!
The Gregorian calendar, extended to all years. Days are counted from the first of January 1970. The
count goes through years that begin in March, so that a leap day is the last day of its year: four
hundred of them have 146097 days, a hundred of them 36524, and four of them 1461, not counting the
day that a leap year at the very end adds.
-/

namespace FilterBook

structure CivilDate where
  year : Int
  month : Nat
  day : Nat
deriving DecidableEq, Repr

namespace CivilDate

def isLeapYear (year : Int) : Bool :=
  year % 4 == 0 && (year % 100 != 0 || year % 400 == 0)

def daysInMonth (year : Int) (month : Nat) : Nat :=
  match month with
  | 2 => if isLeapYear year then 29 else 28
  | 4 | 6 | 9 | 11 => 30
  | _ => 31

/-- The first and the last year of the calendar. -/
def leastYear : Int := -262143

def greatestYear : Int := 262142

/-- Whether the date exists. -/
def isValid (d : CivilDate) : Bool :=
  leastYear ≤ d.year && d.year ≤ greatestYear && 1 ≤ d.month && d.month ≤ 12 && 1 ≤ d.day &&
    d.day ≤ daysInMonth d.year d.month

/-- The days from the first of March of the year 0 to the first of January 1970. -/
def epochDay : Int := 719468

/-- The number of the day, counted from the first of January 1970. -/
def toDay (d : CivilDate) : Int :=
  let year := if d.month ≤ 2 then d.year - 1 else d.year
  let month : Int := if d.month ≤ 2 then d.month + 9 else d.month - 3
  365 * year + year / 4 - year / 100 + year / 400 + (153 * month + 2) / 5 + d.day - 1 - epochDay

/-- The date of a day. -/
def ofDay (day : Int) : CivilDate :=
  let day := day + epochDay
  let eras := day / 146097
  let inEra := day % 146097
  let centuries := min (inEra / 36524) 3
  let inCentury := inEra - 36524 * centuries
  let spans := inCentury / 1461
  let inSpan := inCentury % 1461
  let years := min (inSpan / 365) 3
  let inYear := inSpan - 365 * years
  let year := 400 * eras + 100 * centuries + 4 * spans + years
  let month := (5 * inYear + 2) / 153
  let dayOfMonth := inYear - (153 * month + 2) / 5 + 1
  if month < 10 then ⟨year, (month + 3).toNat, dayOfMonth.toNat⟩
  else ⟨year + 1, (month - 9).toNat, dayOfMonth.toNat⟩

end CivilDate

end FilterBook
