import FilterBook.Date.Calendar
import FilterBook.Number

/-!
Moments in universal time: a day, a second of it, and nanoseconds. The nanoseconds of a leap second
go on from those of the second before it, so they may reach two thousand million. A moment is
written to the millisecond; a year that does not have four digits is written with its sign.
-/

namespace FilterBook

structure Moment where
  day : Int
  second : Nat
  nanosecond : Nat
deriving DecidableEq, Repr

namespace Moment

/-- The moment that many milliseconds after the start of 1970, if the calendar has it. -/
def ofMillis? (millis : Int) : Option Moment :=
  let day := millis / 86400000
  let inDay := (millis % 86400000).toNat
  let year := (CivilDate.ofDay day).year
  if CivilDate.leastYear ≤ year ∧ year ≤ CivilDate.greatestYear then
    some ⟨day, inDay / 1000, inDay % 1000 * 1000000⟩
  else none

/-- The moment at a date and time of day. The sixtieth second is a leap second. -/
def ofClock? (date : CivilDate) (hour minute second nanosecond : Nat) : Option Moment :=
  if date.isValid ∧ hour ≤ 23 ∧ minute ≤ 59 ∧ second ≤ 60 then
    let start := (hour * 60 + minute) * 60
    if second = 60 then some ⟨date.toDay, start + 59, nanosecond + 1000000000⟩
    else some ⟨date.toDay, start + second, nanosecond⟩
  else none

/-- The moment that many seconds before. -/
def minusSeconds (m : Moment) (seconds : Int) : Moment :=
  let total := m.second - seconds
  ⟨m.day + total / 86400, (total % 86400).toNat, m.nanosecond⟩

/-- A number in at least that many digits. -/
def padded (width n : Nat) : List Char :=
  let digits := Number.writeNat n
  List.replicate (width - digits.length) '0' ++ digits

def writeYear (year : Int) : List Char :=
  if 0 ≤ year ∧ year ≤ 9999 then padded 4 year.toNat
  else (if year < 0 then '-' else '+') :: padded 4 year.natAbs

def write (m : Moment) : List Char :=
  let date := CivilDate.ofDay m.day
  let leap := m.nanosecond / 1000000000
  let second := m.second % 60 + leap
  let millis := m.nanosecond % 1000000000 / 1000000
  writeYear date.year ++ '-' :: padded 2 date.month ++ '-' :: padded 2 date.day ++ 'T' ::
    padded 2 (m.second / 3600) ++ ':' :: padded 2 (m.second / 60 % 60) ++ ':' :: padded 2 second ++
    '.' :: padded 3 millis ++ ['Z']

end Moment

end FilterBook
