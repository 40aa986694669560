import FilterBook.Date.Calendar
import Mathlib.Tactic.IntervalCases

/-!
The calendar by counting: years of 365 or 366 days, and in each of them twelve months. The number of
a day, which is computed by division, is what is counted; every day has exactly one date, and the
date of a day has that day's number.
-/

namespace FilterBook.CivilDate

def yearLength (year : Int) : Nat :=
  if isLeapYear year then 366 else 365

/-- The days of some years in a row. -/
def daysOfYears (first : Int) : Nat → Int
  | 0 => 0
  | count + 1 => daysOfYears first count + yearLength (first + count)

/-- The days of the first months of a year. -/
def daysOfMonths (year : Int) : Nat → Nat
  | 0 => 0
  | count + 1 => daysOfMonths year count + daysInMonth year (count + 1)

/-- The days from the first of January 1970 to the start of a year, or less than nothing if that
comes first. -/
def daysToYear (year : Int) : Int :=
  if 1970 ≤ year then daysOfYears 1970 (year - 1970).toNat
  else -daysOfYears year (1970 - year).toNat

/-- The days from the first of January 1970 to a date, counted year by year and month by month. -/
def dayCount (d : CivilDate) : Int :=
  daysToYear d.year + daysOfMonths d.year (d.month - 1) + (d.day - 1 : Nat)

/-- A date that the calendar has, whatever its year. -/
structure Real (d : CivilDate) : Prop where
  month_pos : 1 ≤ d.month
  month_le : d.month ≤ 12
  day_pos : 1 ≤ d.day
  day_le : d.day ≤ daysInMonth d.year d.month

theorem isValid_iff {d : CivilDate} :
    d.isValid = true ↔ d.Real ∧ leastYear ≤ d.year ∧ d.year ≤ greatestYear := by
  simp only [isValid, Bool.and_eq_true, decide_eq_true_eq]
  constructor
  · rintro ⟨⟨⟨⟨⟨hleast, hgreatest⟩, hmonth⟩, hmonth'⟩, hday⟩, hday'⟩
    exact ⟨⟨hmonth, hmonth', hday, hday'⟩, hleast, hgreatest⟩
  · rintro ⟨⟨hmonth, hmonth', hday, hday'⟩, hleast, hgreatest⟩
    exact ⟨⟨⟨⟨⟨hleast, hgreatest⟩, hmonth⟩, hmonth'⟩, hday⟩, hday'⟩

theorem isLeapYear_iff {year : Int} :
    isLeapYear year = true ↔ year % 4 = 0 ∧ (year % 100 ≠ 0 ∨ year % 400 = 0) := by
  simp [isLeapYear]

/-- The number of the first day of a year. -/
def yearStart (year : Int) : Int :=
  toDay ⟨year, 1, 1⟩

theorem yearStart_eq (year : Int) :
    yearStart year =
      365 * (year - 1) + (year - 1) / 4 - (year - 1) / 100 + (year - 1) / 400 - 719162 := by
  simp only [yearStart, toDay, epochDay]
  norm_num
  omega

theorem yearStart_succ (year : Int) : yearStart (year + 1) = yearStart year + yearLength year := by
  rw [yearStart_eq, yearStart_eq, yearLength]
  split
  · rename_i hleap
    rw [isLeapYear_iff] at hleap
    omega
  · rename_i hleap
    rw [isLeapYear_iff] at hleap
    omega

theorem daysOfYears_eq (first : Int) (count : Nat) :
    daysOfYears first count = yearStart (first + count) - yearStart first := by
  induction count with
  | zero => simp [daysOfYears]
  | succ count ih =>
      have hnext : first + (count + 1 : Nat) = first + count + 1 := by omega
      rw [daysOfYears, ih, hnext, yearStart_succ]
      omega

theorem daysToYear_eq (year : Int) : daysToYear year = yearStart year := by
  have hepoch : yearStart 1970 = 0 := rfl
  unfold daysToYear
  split
  · have hyear : (1970 : Int) + (year - 1970).toNat = year := by omega
    rw [daysOfYears_eq, hyear, hepoch, Int.sub_zero]
  · have hyear : year + (1970 - year).toNat = 1970 := by omega
    rw [daysOfYears_eq, hyear, hepoch]
    omega

/-- From March on the months are long and short by turns, five of them in 153 days. -/
theorem daysOfMonths_eq (year : Int) {month : Nat} (hmonth : 1 ≤ month) (hmonth' : month ≤ 12) :
    (daysOfMonths year (month - 1) : Int) =
      if month ≤ 2 then 31 * ((month : Int) - 1)
      else (153 * ((month : Int) - 3) + 2) / 5 + yearLength year - 306 := by
  have hlast : yearLength year = daysInMonth year 2 + 337 := by
    simp only [yearLength, daysInMonth]
    split <;> rfl
  rw [hlast]
  interval_cases month
  case «1» => rfl
  case «2» => rfl
  all_goals
    simp only [daysOfMonths, daysInMonth]
    omega

/-- Within a year the days are counted month by month. -/
theorem toDay_eq {d : CivilDate} (hd : d.Real) :
    d.toDay = yearStart d.year + daysOfMonths d.year (d.month - 1) + (d.day - 1 : Nat) := by
  have hday := hd.day_pos
  rw [daysOfMonths_eq d.year hd.month_pos hd.month_le]
  by_cases hmonth : d.month ≤ 2
  · simp only [toDay, epochDay, yearStart_eq, if_pos hmonth]
    omega
  · -- The year that began in March ends with the leap day.
    have hstart := yearStart_succ d.year
    have hnext : d.year + 1 - 1 = d.year := by omega
    rw [yearStart_eq (d.year + 1), hnext] at hstart
    simp only [toDay, epochDay, if_neg hmonth]
    omega

/-- The number of a day is the count of the days before it. -/
theorem toDay_eq_dayCount {d : CivilDate} (hd : d.Real) : d.toDay = d.dayCount := by
  rw [toDay_eq hd, dayCount, daysToYear_eq]

/-- The date of a day of a year that begins in March. -/
def ofMarch (year inYear : Int) : CivilDate :=
  let month := (5 * inYear + 2) / 153
  let dayOfMonth := inYear - (153 * month + 2) / 5 + 1
  if month < 10 then ⟨year, (month + 3).toNat, dayOfMonth.toNat⟩
  else ⟨year + 1, (month - 9).toNat, dayOfMonth.toNat⟩

/-- A day of a year that begins in March: the last of the 366 days is there only if the February
at its end is that of a leap year. -/
structure MarchDay (year inYear : Int) : Prop where
  nonneg : 0 ≤ inYear
  le : inYear ≤ 365
  leap : inYear = 365 → isLeapYear (year + 1) = true

theorem MarchDay.real {year inYear : Int} (h : MarchDay year inYear) :
    (ofMarch year inYear).Real := by
  obtain ⟨hnonneg, hle, hleap⟩ := h
  obtain ⟨month, hmonth⟩ : ∃ month, (5 * inYear + 2) / 153 = month := ⟨_, rfl⟩
  have hfirst : 0 ≤ month := by omega
  have hlast : month ≤ 11 := by omega
  simp only [ofMarch, hmonth]
  by_cases hfebruary : month = 11
  · subst hfebruary
    rw [if_neg (by decide)]
    constructor
    · show 1 ≤ 2
      decide
    · show 2 ≤ 12
      decide
    · show 1 ≤ (inYear - (153 * 11 + 2) / 5 + 1).toNat
      omega
    · show (inYear - (153 * 11 + 2) / 5 + 1).toNat ≤ if isLeapYear (year + 1) then 29 else 28
      split
      · omega
      · rename_i hcommon
        have hshort : inYear ≠ 365 := fun hlong => hcommon (hleap hlong)
        omega
  · have hother : month ≤ 10 := by omega
    interval_cases month <;> constructor <;> simp [daysInMonth] <;> omega

theorem MarchDay.toDay_ofMarch {year inYear : Int} (h : MarchDay year inYear) :
    (ofMarch year inYear).toDay =
      365 * year + year / 4 - year / 100 + year / 400 + inYear - epochDay := by
  obtain ⟨hnonneg, hle, -⟩ := h
  obtain ⟨month, hmonth⟩ : ∃ month, (5 * inYear + 2) / 153 = month := ⟨_, rfl⟩
  have hfirst : 0 ≤ month := by omega
  have hlast : month ≤ 11 := by omega
  simp only [ofMarch, hmonth, toDay]
  by_cases hlate : month < 10
  · have hmarch : ¬ (month + 3).toNat ≤ 2 := by omega
    simp only [if_pos hlate, if_neg hmarch]
    omega
  · have hjanuary : (month - 9).toNat ≤ 2 := by omega
    simp only [if_neg hlate, if_pos hjanuary]
    omega

/-- Four hundred years, a hundred, four and one, each with its leap days. -/
theorem days_of_spans (eras : Int) {centuries spans years : Int} (hcenturies : 0 ≤ centuries)
    (hcenturies' : centuries ≤ 3) (hspans : 0 ≤ spans) (hspans' : spans ≤ 24) (hyears : 0 ≤ years)
    (hyears' : years ≤ 3) {year : Int}
    (hyear : year = 400 * eras + 100 * centuries + 4 * spans + years) :
    365 * year + year / 4 - year / 100 + year / 400 =
      146097 * eras + 36524 * centuries + 1461 * spans + 365 * years := by
  have hfour : year / 4 = 100 * eras + 25 * centuries + spans := by omega
  have hcentury : year / 100 = 4 * eras + centuries := by omega
  have hera : year / 400 = eras := by omega
  omega

/-- A day stands in an era of four hundred years, there in a century, a span of four years and a
year; the century and the year at the end may be a day longer. -/
theorem exists_march (day : Int) :
    ∃ year inYear, MarchDay year inYear ∧ ofDay day = ofMarch year inYear ∧
      day = 365 * year + year / 4 - year / 100 + year / 400 + inYear - epochDay := by
  obtain ⟨eras, heras⟩ : ∃ eras, (day + epochDay) / 146097 = eras := ⟨_, rfl⟩
  obtain ⟨inEra, hinEra⟩ : ∃ inEra, (day + epochDay) % 146097 = inEra := ⟨_, rfl⟩
  obtain ⟨centuries, hcenturies⟩ : ∃ centuries, min (inEra / 36524) 3 = centuries := ⟨_, rfl⟩
  obtain ⟨spans, hspans⟩ : ∃ spans, (inEra - 36524 * centuries) / 1461 = spans := ⟨_, rfl⟩
  obtain ⟨inSpan, hinSpan⟩ : ∃ inSpan, (inEra - 36524 * centuries) % 1461 = inSpan := ⟨_, rfl⟩
  obtain ⟨years, hyears⟩ : ∃ years, min (inSpan / 365) 3 = years := ⟨_, rfl⟩
  have hday : day + epochDay = 146097 * eras + inEra := by omega
  have hera : 0 ≤ inEra ∧ inEra < 146097 := by omega
  have hcentury : 0 ≤ centuries ∧ centuries ≤ 3 ∧ 0 ≤ inEra - 36524 * centuries ∧
      inEra - 36524 * centuries ≤ 36524 ∧
      (inEra - 36524 * centuries = 36524 → centuries = 3) := by omega
  have hspan : 0 ≤ spans ∧ spans ≤ 24 ∧ 0 ≤ inSpan ∧ inSpan ≤ 1460 ∧
      inEra - 36524 * centuries = 1461 * spans + inSpan := by omega
  have hyear : 0 ≤ years ∧ years ≤ 3 ∧ 0 ≤ inSpan - 365 * years ∧ inSpan - 365 * years ≤ 365 ∧
      (inSpan - 365 * years = 365 → years = 3) := by omega
  have hdays := days_of_spans eras hcentury.1 hcentury.2.1 hspan.1 hspan.2.1 hyear.1
    hyear.2.1 rfl
  refine ⟨400 * eras + 100 * centuries + 4 * spans + years, inSpan - 365 * years,
    ⟨hyear.2.2.1, hyear.2.2.2.1, ?_⟩, ?_, by omega⟩
  · -- The last day of a span, which is no last day of a century but where that ends an era.
    intro hlong
    rw [isLeapYear_iff]
    omega
  · subst hyears hinSpan hspans hcenturies hinEra heras
    rfl

/-- Every day has a date. -/
theorem real_ofDay (day : Int) : (ofDay day).Real := by
  obtain ⟨year, inYear, hmarch, hdate, -⟩ := exists_march day
  rw [hdate]
  exact hmarch.real

@[simp]
theorem toDay_ofDay (day : Int) : (ofDay day).toDay = day := by
  obtain ⟨year, inYear, hmarch, hdate, hday⟩ := exists_march day
  rw [hdate, hmarch.toDay_ofMarch, ← hday]

@[simp]
theorem dayCount_ofDay (day : Int) : (ofDay day).dayCount = day := by
  rw [← toDay_eq_dayCount (real_ofDay day), toDay_ofDay]

theorem daysOfMonths_mono (year : Int) {count more : Nat} (h : count ≤ more) :
    daysOfMonths year count ≤ daysOfMonths year more := by
  induction h with
  | refl => exact Nat.le_refl _
  | step _ ih => exact Nat.le_trans ih (Nat.le_add_right _ _)

theorem daysOfMonths_twelve (year : Int) : daysOfMonths year 12 = yearLength year := by
  simp only [daysOfMonths, daysInMonth, yearLength]
  split <;> rfl

/-- The days of a month are among those of its year. -/
theorem Real.daysOfMonths_lt {d : CivilDate} (hd : d.Real) :
    daysOfMonths d.year (d.month - 1) + (d.day - 1) < daysOfMonths d.year d.month := by
  obtain ⟨hmonth, -, hday, hday'⟩ := hd
  have hsucc : d.month - 1 + 1 = d.month := by omega
  have hlength : daysOfMonths d.year (d.month - 1 + 1) =
      daysOfMonths d.year (d.month - 1) + daysInMonth d.year (d.month - 1 + 1) := rfl
  rw [hsucc] at hlength
  omega

theorem Real.yearStart_le {d : CivilDate} (hd : d.Real) : yearStart d.year ≤ d.toDay := by
  rw [toDay_eq hd]
  omega

theorem Real.lt_yearStart {d : CivilDate} (hd : d.Real) : d.toDay < yearStart (d.year + 1) := by
  have hmonth := hd.daysOfMonths_lt
  have hyear := daysOfMonths_mono d.year hd.month_le
  rw [daysOfMonths_twelve] at hyear
  rw [toDay_eq hd, yearStart_succ]
  omega

theorem yearStart_mono {year later : Int} (h : year ≤ later) :
    yearStart year ≤ yearStart later := by
  rw [yearStart_eq, yearStart_eq]
  omega

/-- The days from the start of a year on are those of that year and the years after it. -/
theorem Real.le_year_iff {d : CivilDate} (hd : d.Real) (year : Int) :
    year ≤ d.year ↔ yearStart year ≤ d.toDay := by
  constructor
  · intro hyear
    exact (yearStart_mono hyear).trans hd.yearStart_le
  · intro hstart
    by_contra hyear
    have hnext : yearStart (d.year + 1) ≤ yearStart year := yearStart_mono (by omega)
    have hlast := hd.lt_yearStart
    omega

/-- Later days are in no earlier years. -/
theorem year_le_of_toDay_le {d later : CivilDate} (hd : d.Real) (hlater : later.Real)
    (h : d.toDay ≤ later.toDay) : d.year ≤ later.year :=
  (hlater.le_year_iff d.year).mpr (hd.yearStart_le.trans h)

/-- Later days of one year are in no earlier months. -/
theorem month_le_of_toDay_le {d later : CivilDate} (hd : d.Real) (hlater : later.Real)
    (hyear : d.year = later.year) (h : d.toDay ≤ later.toDay) : d.month ≤ later.month := by
  by_contra hmonth
  have hstart : daysOfMonths later.year later.month ≤ daysOfMonths later.year (d.month - 1) :=
    daysOfMonths_mono _ (by omega)
  have hlast := hlater.daysOfMonths_lt
  rw [toDay_eq hd, toDay_eq hlater, hyear] at h
  omega

/-- Different dates are different days. -/
theorem toDay_inj {d other : CivilDate} (hd : d.Real) (hother : other.Real)
    (h : d.toDay = other.toDay) : d = other := by
  have hyear : d.year = other.year := Int.le_antisymm
    (year_le_of_toDay_le hd hother h.le) (year_le_of_toDay_le hother hd h.ge)
  have hmonth : d.month = other.month := Nat.le_antisymm
    (month_le_of_toDay_le hd hother hyear h.le) (month_le_of_toDay_le hother hd hyear.symm h.ge)
  have hday : d.day = other.day := by
    have hpos := hd.day_pos
    have hpos' := hother.day_pos
    rw [toDay_eq hd, toDay_eq hother, hyear, hmonth] at h
    omega
  cases d
  cases other
  simp_all

theorem ofDay_toDay {d : CivilDate} (hd : d.Real) : ofDay d.toDay = d :=
  toDay_inj (real_ofDay _) hd (toDay_ofDay _)

end FilterBook.CivilDate
