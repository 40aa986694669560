import FilterBook.Proofs.Timestamp

/-!
One instant in many spellings: with an offset from universal time, without one, or as the number of
its milliseconds. An offset is taken off the time of day and may carry into another day, month or
year; the number is split into days and a time of day. Both ways lead to one date in the query.
-/

namespace FilterBook

/-- A date and a time of day in a year of four digits, with the digits of the second's fraction. -/
structure Clock where
  date : CivilDate
  hour : Nat
  minute : Nat
  second : Nat
  fraction : List Char
deriving DecidableEq, Repr

/-- Universal time, or a distance from it in hours and minutes. -/
inductive Offset where
  | none
  | shift (west : Bool) (hours minutes : Nat)
deriving DecidableEq, Repr

namespace Clock

structure Real (c : Clock) : Prop where
  date : c.date.Real
  year_nonneg : 0 ≤ c.date.year
  year_le : c.date.year ≤ 9999
  hour : c.hour ≤ 23
  minute : c.minute ≤ 59
  second : c.second ≤ 59
  fraction : ∀ digit ∈ c.fraction, digit.isDigit = true

/-- The text, with some character between date and time of day. -/
def text (c : Clock) (mark : Char) : List Char :=
  Date.figuresOfDate c.date ++ mark ::
    (Date.figuresOfTime c.hour c.minute c.second ++ Date.figuresOfFraction c.fraction)

/-- The start of the day. -/
def midnight (c : Clock) : Clock :=
  { c with hour := 0, minute := 0, second := 0, fraction := [] }

/-- The milliseconds from the start of 1970, for a clock at universal time: the days before the date
are counted, and of the fraction's digits those after the third are dropped. -/
def millis (c : Clock) : Int :=
  c.date.dayCount * 86400000 + (((c.hour * 60 + c.minute) * 60 + c.second) * 1000 +
    Nat.ofDigitChars 10 ((c.fraction ++ ['0', '0', '0']).take 3) 0 : Nat)

end Clock

namespace Offset

def Real : Offset → Prop
  | none => True
  | shift _ hours minutes => hours ≤ 23 ∧ minutes ≤ 59

def text : Offset → List Char
  | none => ['Z']
  | shift west hours minutes =>
      (if west then '-' else '+') :: (figures 2 hours ++ ':' :: figures 2 minutes)

/-- How far the clocks there are ahead of universal time. -/
def seconds : Offset → Int
  | none => 0
  | shift west hours minutes =>
      let distance : Int := ((hours * 60 + minutes) * 60 : Nat)
      if west then -distance else distance

end Offset

section Blanks

variable {row rest : List Char}

/-- A text that does not end with a blank. -/
def EndsBare (text : List Char) : Prop :=
  ∃ c, text.getLast? = some c ∧ isSpace c = false

theorem EndsBare.append (h : EndsBare rest) (front : List Char) : EndsBare (front ++ rest) := by
  obtain ⟨c, hlast, hc⟩ := h
  refine ⟨c, ?_, hc⟩
  rw [List.getLast?_append, hlast]
  rfl

theorem EndsBare.cons (h : EndsBare rest) (c : Char) : EndsBare (c :: rest) :=
  h.append [c]

theorem endsBare_of_digits (hne : row ≠ []) (hdigits : ∀ c ∈ row, c.isDigit = true) :
    EndsBare row :=
  ⟨row.getLast hne, List.getLast?_eq_some_getLast hne,
    isSpace_of_isDigit (hdigits _ (List.getLast_mem hne))⟩

theorem endsBare_figures (n : Nat) : EndsBare (figures 2 n) :=
  endsBare_of_digits (figures_ne_nil (by decide)) fun _ => isDigit_of_mem_figures

theorem trimEnd_append (hrow : EndsBare row) {blanks : List Char}
    (hblanks : ∀ c ∈ blanks, isSpace c = true) : trimEnd (row ++ blanks) = row := by
  obtain ⟨c, hlast, hc⟩ := hrow
  have hstart : row.reverse.dropWhile isSpace = row.reverse := by
    rw [← List.head?_reverse] at hlast
    obtain ⟨front, hfront⟩ := List.head?_eq_some_iff.mp hlast
    rw [hfront, List.dropWhile_cons, hc]
    rfl
  rw [trimEnd, trimStart, List.reverse_append,
    List.dropWhile_append_of_pos (fun c hmem => hblanks c (List.mem_reverse.mp hmem)), hstart,
    List.reverse_reverse]

/-- The blanks around a text that starts with a digit and does not end with a blank are taken off,
and nothing more. -/
theorem trim_of_digits (hne : row ≠ []) (hdigits : ∀ c ∈ row, c.isDigit = true)
    (hend : EndsBare (row ++ rest)) {before after : List Char}
    (hbefore : ∀ c ∈ before, isSpace c = true) (hafter : ∀ c ∈ after, isSpace c = true) :
    trim (before ++ (row ++ rest) ++ after) = row ++ rest := by
  have hstart : trimStart (before ++ (row ++ rest) ++ after) = row ++ rest ++ after := by
    rw [List.append_assoc, trimStart, List.dropWhile_append_of_pos hbefore, List.append_assoc]
    exact Date.trimStart_append hne hdigits
  rw [trim, hstart, trimEnd_append hend hafter]

end Blanks

namespace Offset

theorem endsBare_text (o : Offset) : EndsBare o.text := by
  cases o with
  | none => exact ⟨'Z', rfl, rfl⟩
  | shift west hours minutes => exact (((endsBare_figures minutes).cons ':').append _).cons _

theorem endsDigits_text (o : Offset) : Date.EndsDigits o.text := by
  cases o with
  | none => exact Date.endsDigits_cons rfl _
  | shift west hours minutes => cases west <;> exact Date.endsDigits_cons rfl _

theorem head?_text (o : Offset) : o.text.head? ≠ some '.' := by
  cases o with
  | none => decide
  | shift west hours minutes => cases west <;> simp [text]

theorem seconds_bounds {o : Offset} (ho : o.Real) : -86400 < o.seconds ∧ o.seconds < 86400 := by
  cases o with
  | none => decide
  | shift west hours minutes =>
      obtain ⟨hhours, hminutes⟩ := ho
      simp only [seconds]
      split <;> omega

theorem offset_text {o : Offset} (ho : o.Real) : Date.offset o.text = some (o.seconds, []) := by
  cases o with
  | none => rfl
  | shift west hours minutes =>
      obtain ⟨hhours, hminutes⟩ := ho
      have hfirst := Date.digits_figures (show hours < Nat.pow 10 2 by norm_num; omega)
        (':' :: figures 2 minutes)
      have hlast := Date.digits_figures (show minutes < Nat.pow 10 2 by norm_num; omega) []
      rw [List.append_nil] at hlast
      cases west <;>
        simp [text, seconds, Date.offset, Date.literal_cons, hfirst, hlast, hhours, hminutes]

end Offset

namespace Date

theorem dateTimeMark_bind {β : Type} {mark : Char} (hmark : mark ∈ ['T', 't', ' '])
    (rest : List Char) (next : Unit × List Char → Option β) :
    (dateTimeMark (mark :: rest) >>= next) = next ((), rest) := by
  simp only [List.mem_cons, List.not_mem_nil, or_false] at hmark
  rcases hmark with rfl | rfl | rfl <;> rfl

/-- What a separator is written as. -/
def Separator.mark : Separator → Char
  | .letter => 'T'
  | .blanks => ' '

theorem Separator.part_bind {β : Type} (separator : Separator) (n : Nat) (rest : List Char)
    (next : Unit × List Char → Option β) :
    (separator.part (separator.mark :: (figures 2 n ++ rest)) >>= next) =
      next ((), figures 2 n ++ rest) := by
  cases separator with
  | letter => exact literal_bind 'T' _ next
  | blanks =>
      have htrim : trimStart (figures 2 n ++ rest) = figures 2 n ++ rest :=
        trimStart_append (figures_ne_nil (by decide)) fun _ => isDigit_of_mem_figures
      show next ((), trimStart (figures 2 n ++ rest)) = _
      rw [htrim]

end Date

namespace Clock

variable {c : Clock}

/-- The moment of a clock at universal time. -/
def moment (c : Clock) : Moment :=
  ⟨c.date.toDay, (c.hour * 60 + c.minute) * 60 + c.second, Date.nanoseconds c.fraction⟩

theorem moment_of_no_fraction (h : c.fraction = []) :
    { c.moment with nanosecond := 0 } = c.moment := by
  rw [moment, h]
  rfl

theorem Real.isValid (hc : c.Real) : c.date.isValid = true := by
  refine CivilDate.isValid_iff.mpr ⟨hc.date, ?_, ?_⟩
  · exact Int.le_trans (by decide) hc.year_nonneg
  · exact Int.le_trans hc.year_le (by decide)

theorem Real.ofClock? (hc : c.Real) (nanosecond : Nat) :
    Moment.ofClock? c.date c.hour c.minute c.second nanosecond =
      some { c.moment with nanosecond } := by
  have hsecond := hc.second
  have hclock : c.date.isValid = true ∧ c.hour ≤ 23 ∧ c.minute ≤ 59 ∧ c.second ≤ 60 :=
    ⟨hc.isValid, hc.hour, hc.minute, by omega⟩
  rw [Moment.ofClock?, if_pos hclock, if_neg (by omega)]
  rfl

theorem Real.midnight (hc : c.Real) : c.midnight.Real where
  date := hc.date
  year_nonneg := hc.year_nonneg
  year_le := hc.year_le
  hour := Nat.zero_le _
  minute := Nat.zero_le _
  second := Nat.zero_le _
  fraction := List.forall_mem_nil _

theorem Real.year_lt (hc : c.Real) : c.date.year.toNat < Nat.pow 10 4 := by
  have hyear := hc.year_le
  show c.date.year.toNat < 10000
  omega

theorem Real.date_text (hc : c.Real) (rest : List Char) :
    Date.date (Date.figuresOfDate c.date ++ rest) = some (c.date, rest) := by
  have hday := hc.date.day_le_thirtyOne
  have hmonth := hc.date.month_le
  exact Date.date_figures hc.year_nonneg hc.year_le (by omega) (by omega) rest

/-- The fields of fixed width are read up to the offset. -/
theorem Real.withOffset_text (hc : c.Real) {mark : Char} (hmark : mark ∈ ['T', 't', ' '])
    {rest : List Char} (hrest : Date.EndsDigits rest) (hpoint : rest.head? ≠ some '.') :
    Date.withOffset (c.text mark ++ rest) =
      (Date.offset rest).map fun (seconds, after) => (c.moment.minusSeconds seconds, after) := by
  have hclock : Moment.ofClock? ⟨c.date.year.toNat, c.date.month, c.date.day⟩ c.hour c.minute
      c.second (Date.nanoseconds c.fraction) = some c.moment := by
    rw [Int.toNat_of_nonneg hc.year_nonneg]
    exact hc.ofClock? _
  have hfour := hc.year_lt
  obtain ⟨hdate, -, -, hhour, hminute, hsecond, hfraction⟩ := hc
  have hday := hdate.day_le_thirtyOne
  have hmonth := hdate.month_le
  simp (disch := omega) only [text, Date.figuresOfDate, Date.figuresOfTime, List.append_assoc,
    List.cons_append, Date.withOffset, ↓Date.bind_of_eq_some (Date.digits_figures hfour _),
    ↓Date.literal_bind, ↓Date.digits_two_bind, ↓Date.dateTimeMark_bind hmark,
    ↓Date.bind_of_eq_some (Date.optionalFraction_append hfraction hrest hpoint), hclock]
  cases Date.offset rest with
  | none => rfl
  | some found => rfl

/-- A date with nothing behind it is too short to have an offset. -/
theorem Real.withOffset_date (hc : c.Real) :
    Date.withOffset (Date.figuresOfDate c.date) = none := by
  have hday := hc.date.day_le_thirtyOne
  have hmonth := hc.date.month_le
  rw [← List.append_nil (Date.figuresOfDate c.date)]
  simp (disch := omega) only [Date.figuresOfDate, List.append_assoc, List.cons_append,
    Date.withOffset, ↓Date.bind_of_eq_some (Date.digits_figures hc.year_lt _), ↓Date.literal_bind,
    ↓Date.digits_two_bind]
  rfl

/-- The time of day behind a separator is read without its fraction or with it. -/
theorem Real.withoutOffset_text (hc : c.Real) (separator : Date.Separator) (allowsFraction : Bool) :
    Date.withoutOffset separator allowsFraction (c.text separator.mark) =
      if allowsFraction then some (c.moment, [])
      else some ({ c.moment with nanosecond := 0 }, Date.figuresOfFraction c.fraction) := by
  have hclock := hc.ofClock?
  have hread := Date.optionalFraction_append hc.fraction Date.endsDigits_nil (by decide)
  rw [List.append_nil] at hread
  rw [text, Date.withoutOffset, Date.bind_of_eq_some (hc.date_text _)]
  obtain ⟨-, -, -, hhour, hminute, hsecond, -⟩ := hc
  cases allowsFraction with
  | true =>
      simp (disch := omega) only [Date.figuresOfTime, List.append_assoc, List.cons_append,
        ↓Date.Separator.part_bind, ↓Date.literal_bind, ↓Date.lenient_bind, ↓reduceIte,
        ↓Date.bind_of_eq_some hread, hclock]
      rfl
  | false =>
      simp (disch := omega) only [Date.figuresOfTime, List.append_assoc, List.cons_append,
        ↓Date.Separator.part_bind, ↓Date.literal_bind, ↓Date.lenient_bind, Bool.false_eq_true,
        ↓reduceIte, hclock]
      rfl

/-- A blank is not the letter. -/
theorem Real.withoutOffset_blank (hc : c.Real) (allowsFraction : Bool) :
    Date.withoutOffset .letter allowsFraction (c.text ' ') = none := by
  rw [text, Date.withoutOffset, Date.bind_of_eq_some (hc.date_text _)]
  rfl

theorem Real.read?_withOffset (hc : c.Real) {mark : Char} (hmark : mark ∈ ['T', 't', ' '])
    {o : Offset} (ho : o.Real) :
    Date.read? (c.text mark ++ o.text) = some (c.moment.minusSeconds o.seconds) := by
  have hwhole : Date.whole Date.withOffset (c.text mark ++ o.text) =
      some (c.moment.minusSeconds o.seconds) := by
    rw [Date.whole, hc.withOffset_text hmark o.endsDigits_text o.head?_text, o.offset_text ho]
    rfl
  rw [Date.read?, Date.readers, List.findSome?_cons, hwhole]

/-- Without room for a fraction a text is read to its end if it has none, and is not read if it has
one. -/
theorem Real.whole_withoutFraction (hc : c.Real) (separator : Date.Separator) :
    Date.whole (Date.withoutOffset separator false) (c.text separator.mark) = some c.moment ∨
      Date.whole (Date.withoutOffset separator false) (c.text separator.mark) = none := by
  rw [Date.whole, hc.withoutOffset_text]
  by_cases hnil : c.fraction = []
  · left
    rw [Date.figuresOfFraction, if_pos hnil, moment_of_no_fraction hnil]
    rfl
  · right
    rw [Date.figuresOfFraction, if_neg hnil]
    rfl

theorem Real.whole_withFraction (hc : c.Real) (separator : Date.Separator) :
    Date.whole (Date.withoutOffset separator true) (c.text separator.mark) = some c.moment := by
  rw [Date.whole, hc.withoutOffset_text]
  rfl

/-- Without an offset the clock is at universal time. -/
theorem Real.read?_withoutOffset (hc : c.Real) (separator : Date.Separator) :
    Date.read? (c.text separator.mark) = some c.moment := by
  have hoffset : Date.whole Date.withOffset (c.text separator.mark) = none := by
    have hmark : separator.mark ∈ ['T', 't', ' '] := by cases separator <;> decide
    have hread := hc.withOffset_text hmark Date.endsDigits_nil (by decide)
    rw [List.append_nil] at hread
    rw [Date.whole, hread]
    rfl
  have hplain := hc.whole_withoutFraction separator
  have hfraction := hc.whole_withFraction separator
  cases separator with
  | letter =>
      rcases hplain with hplain | hplain <;>
        simp only [Date.read?, Date.readers, List.findSome?_cons, hoffset, hplain, hfraction]
  | blanks =>
      -- The readers that want the letter come before those that pass over blanks.
      have hletter : ∀ allowsFraction, Date.whole (Date.withoutOffset .letter allowsFraction)
          (c.text Date.Separator.blanks.mark) = none := by
        intro allowsFraction
        show Date.whole _ (c.text ' ') = none
        rw [Date.whole, hc.withoutOffset_blank]
      rcases hplain with hplain | hplain <;>
        simp only [Date.read?, Date.readers, List.findSome?_cons, hoffset, hletter, hplain,
          hfraction]

/-- A date alone is read by the last of the readers only. -/
theorem Real.read?_date (hc : c.Real) :
    Date.read? (Date.figuresOfDate c.date) = some c.midnight.moment := by
  have hmoment : { c.midnight.moment with nanosecond := 0 } = c.midnight.moment :=
    moment_of_no_fraction rfl
  have hclock : Moment.ofClock? c.date 0 0 0 0 = some c.midnight.moment := by
    rw [← hmoment]
    exact hc.midnight.ofClock? 0
  have hread := hc.date_text []
  rw [List.append_nil] at hread
  have hoffset : Date.whole Date.withOffset (Date.figuresOfDate c.date) = none := by
    rw [Date.whole, hc.withOffset_date]
  have hseparated : ∀ separator allowsFraction,
      Date.whole (Date.withoutOffset separator allowsFraction) (Date.figuresOfDate c.date) =
        none := by
    intro separator allowsFraction
    rw [Date.whole, Date.withoutOffset, Date.bind_of_eq_some hread]
    cases separator <;> rfl
  have hmidnight : Date.whole Date.midnight (Date.figuresOfDate c.date) =
      some c.midnight.moment := by
    rw [Date.whole, Date.midnight, Date.bind_of_eq_some hread]
    simp only [hclock]
    rfl
  simp only [Date.read?, Date.readers, List.findSome?_cons, hoffset, hseparated, hmidnight]

theorem endsBare_figuresOfDate (d : CivilDate) : EndsBare (Date.figuresOfDate d) :=
  (((endsBare_figures d.day).cons '-').append _).cons '-' |>.append _

theorem Real.endsBare_text (hc : c.Real) (mark : Char) : EndsBare (c.text mark) := by
  have htime : EndsBare (Date.figuresOfTime c.hour c.minute c.second ++
      Date.figuresOfFraction c.fraction) := by
    by_cases hnil : c.fraction = []
    · rw [Date.figuresOfFraction, if_pos hnil, List.append_nil]
      exact (((endsBare_figures c.second).cons ':').append _).cons ':' |>.append _
    · rw [Date.figuresOfFraction, if_neg hnil]
      exact ((endsBare_of_digits hnil hc.fraction).cons '.').append _
  exact (htime.cons mark).append _

end Clock

/-- What is written of a moment are its day, its second and its milliseconds. -/
theorem Moment.write_congr {m other : Moment} (hday : m.day = other.day)
    (hsecond : m.second = other.second)
    (hmillis : m.nanosecond / 1000000 = other.nanosecond / 1000000) : m.write = other.write := by
  have hleap : m.nanosecond / 1000000000 = other.nanosecond / 1000000000 := by omega
  have hrest : m.nanosecond % 1000000000 / 1000000 = other.nanosecond % 1000000000 / 1000000 := by
    omega
  simp only [write, hday, hsecond, hleap, hrest]

theorem Moment.minusSeconds_zero {m : Moment} (h : m.second < 86400) : m.minusSeconds 0 = m := by
  have hday : m.day + ((m.second : Int) - 0) / 86400 = m.day := by omega
  have hsecond : (((m.second : Int) - 0) % 86400).toNat = m.second := by omega
  rw [minusSeconds, hday, hsecond]

namespace ConditionValue

/-- A text as the value of a condition. -/
def ofText (text : List Char) : ConditionValue :=
  .scalar (.string (String.ofList text))

/-- Two values that stand in a query as one date. -/
def Coincide (v w : ConditionValue) : Prop :=
  ∃ text, v.toDate = .ok (dateJson text) ∧ w.toDate = .ok (dateJson text)

theorem toDate_ofText {text : List Char} {m : Moment} (h : Date.read? (trim text) = some m) :
    (ofText text).toDate = .ok (dateJson m.write) := by
  have hmoment : Scalar.moment (.string (String.ofList text)) = .ok m := by
    rw [Scalar.moment_string, String.toList_ofList, h]
  exact Scalar.toDate_eq_ok_iff.mpr ⟨m, hmoment, rfl⟩

/-- A text that starts with a date may have blanks around it. -/
theorem toDate_between {before row after : List Char} {d : CivilDate} {m : Moment}
    (hbefore : ∀ blank ∈ before, isSpace blank = true)
    (hafter : ∀ blank ∈ after, isSpace blank = true)
    (hrow : ∃ rest, row = Date.figuresOfDate d ++ rest) (hend : EndsBare row)
    (hread : Date.read? row = some m) :
    (ofText (before ++ row ++ after)).toDate = .ok (dateJson m.write) := by
  obtain ⟨rest, hrest⟩ : ∃ rest, row = figures 4 d.year.toNat ++ rest := by
    obtain ⟨rest, rfl⟩ := hrow
    exact ⟨_, List.append_assoc _ _ _⟩
  apply toDate_ofText
  rw [hrest] at hend hread ⊢
  rw [trim_of_digits (figures_ne_nil (by decide)) (fun _ => isDigit_of_mem_figures) hend hbefore
    hafter]
  exact hread

end ConditionValue

namespace Clock

variable {c : Clock} {before after : List Char}

/-- The second of the day. -/
theorem Real.second_lt (hc : c.Real) : (c.hour * 60 + c.minute) * 60 + c.second < 86400 := by
  have hhour := hc.hour
  have hminute := hc.minute
  have hsecond := hc.second
  omega

theorem Real.millis_eq (hc : c.Real) :
    c.millis = c.moment.day * 86400000 + c.moment.second * 1000 +
      (c.moment.nanosecond / 1000000 : Nat) := by
  simp only [millis, moment, Date.nanoseconds_div hc.fraction, CivilDate.toDay_eq_dayCount hc.date]
  omega

/-- The days of the years that have four digits. -/
theorem Real.day_bounds (hc : c.Real) : -719528 ≤ c.moment.day ∧ c.moment.day < 2932897 := by
  have hfirst : CivilDate.yearStart 0 = -719528 := rfl
  have hlast : CivilDate.yearStart 10000 = 2932897 := rfl
  constructor
  · rw [← hfirst]
    exact (hc.date.le_year_iff 0).mp hc.year_nonneg
  · have hyear : ¬ 10000 ≤ c.date.year := Int.not_le.mpr (Int.lt_add_one_of_le hc.year_le)
    rw [← hlast, ← Int.not_le]
    exact fun hstart => hyear ((hc.date.le_year_iff 10000).mpr hstart)

/-- No offset leads out of the calendar. -/
theorem Real.inCalendar (hc : c.Real) {o : Offset} (ho : o.Real) :
    InCalendar (c.millis - 1000 * o.seconds) := by
  have hday := hc.day_bounds
  have hoffset := o.seconds_bounds ho
  have hsecond : c.moment.second < 86400 := hc.second_lt
  have hnanosecond : c.moment.nanosecond < 1000000000 := Date.nanoseconds_lt hc.fraction
  rw [inCalendar_iff_millis, hc.millis_eq]
  omega

/-- The number of the milliseconds and the clock with its offset are written alike. -/
theorem Real.write_eq (hc : c.Real) {o : Offset} {m : Moment}
    (hm : Moment.ofMillis? (c.millis - 1000 * o.seconds) = some m) :
    m.write = (c.moment.minusSeconds o.seconds).write := by
  have hsecond : c.moment.second < 86400 := hc.second_lt
  have hnanosecond : c.moment.nanosecond < 1000000000 := Date.nanoseconds_lt hc.fraction
  rw [hc.millis_eq] at hm
  obtain rfl := Moment.eq_of_ofMillis? hm
  apply Moment.write_congr
  -- Day, second and milliseconds: the offset carries from the second to the day alike.
  all_goals
    simp only [Moment.minusSeconds]
    omega

/-- The whole number of the milliseconds of a clock becomes the date of its moment. -/
theorem Real.toDate_number (hc : c.Real) {o : Offset} (ho : o.Real) :
    ∃ number, Number.ofInt? (c.millis - 1000 * o.seconds) = some number ∧
      (ConditionValue.scalar (.number number)).toDate =
        .ok (dateJson (c.moment.minusSeconds o.seconds).write) := by
  have hin := hc.inCalendar ho
  have fits : leastInteger ≤ c.millis - 1000 * o.seconds ∧
      c.millis - 1000 * o.seconds ≤ greatestInteger := by
    rw [inCalendar_iff_millis] at hin
    simp only [leastInteger, greatestInteger]
    omega
  obtain ⟨m, hm⟩ := Moment.exists_ofMillis? hin
  refine ⟨.integer _ fits, dif_pos fits, ?_⟩
  rw [← hc.write_eq hm]
  rw [← Moment.ofMillis?_millis_integer fits] at hm
  exact Scalar.toDate_number_of_some hm

theorem Real.toDate_withOffset (hc : c.Real) {mark : Char} (hmark : mark ∈ ['T', 't', ' '])
    {o : Offset} (ho : o.Real) (hbefore : ∀ blank ∈ before, isSpace blank = true)
    (hafter : ∀ blank ∈ after, isSpace blank = true) :
    (ConditionValue.ofText (before ++ (c.text mark ++ o.text) ++ after)).toDate =
      .ok (dateJson (c.moment.minusSeconds o.seconds).write) :=
  ConditionValue.toDate_between hbefore hafter ⟨_, List.append_assoc _ _ _⟩
    (o.endsBare_text.append _) (hc.read?_withOffset hmark ho)

theorem Real.toDate_withoutOffset (hc : c.Real) (separator : Date.Separator)
    (hbefore : ∀ blank ∈ before, isSpace blank = true)
    (hafter : ∀ blank ∈ after, isSpace blank = true) :
    (ConditionValue.ofText (before ++ c.text separator.mark ++ after)).toDate =
      .ok (dateJson c.moment.write) :=
  ConditionValue.toDate_between hbefore hafter ⟨_, rfl⟩ (hc.endsBare_text separator.mark)
    (hc.read?_withoutOffset separator)

theorem Real.toDate_date (hc : c.Real) (hbefore : ∀ blank ∈ before, isSpace blank = true)
    (hafter : ∀ blank ∈ after, isSpace blank = true) :
    (ConditionValue.ofText (before ++ Date.figuresOfDate c.date ++ after)).toDate =
      .ok (dateJson c.midnight.moment.write) :=
  ConditionValue.toDate_between hbefore hafter ⟨[], (List.append_nil _).symm⟩
    (endsBare_figuresOfDate c.date) hc.read?_date

theorem Real.toDate_utc (hc : c.Real) :
    (ConditionValue.ofText (c.text 'T' ++ Offset.none.text)).toDate =
      .ok (dateJson c.moment.write) := by
  have hdate := hc.toDate_withOffset (show 'T' ∈ ['T', 't', ' '] by decide)
    (show Offset.none.Real from trivial) (List.forall_mem_nil _) (List.forall_mem_nil _)
  rw [Offset.seconds, Moment.minusSeconds_zero hc.second_lt, List.append_nil] at hdate
  exact hdate

/-- A date and time of day is one date in a query, in whatever way it is said: with an offset, as
the number of its milliseconds, and if it is at universal time also without an offset, and without
the time of day if that is midnight. Blanks around it do not matter. -/
theorem spellings_agree (hc : c.Real) (hbefore : ∀ blank ∈ before, isSpace blank = true)
    (hafter : ∀ blank ∈ after, isSpace blank = true) :
    (∀ mark ∈ ['T', 't', ' '], ∀ o : Offset, o.Real →
      ∃ number, Number.ofInt? (c.millis - 1000 * o.seconds) = some number ∧
        (ConditionValue.scalar (.number number)).Coincide
          (.ofText (before ++ (c.text mark ++ o.text) ++ after))) ∧
      (∀ mark ∈ ['T', ' '], (ConditionValue.ofText (before ++ c.text mark ++ after)).Coincide
        (.ofText (c.text 'T' ++ Offset.none.text))) ∧
      (ConditionValue.ofText (before ++ Date.figuresOfDate c.date ++ after)).Coincide
        (.ofText (c.midnight.text 'T' ++ Offset.none.text)) := by
  refine ⟨?_, ?_, ?_⟩
  · intro mark hmark o ho
    obtain ⟨number, hnumber, hdate⟩ := hc.toDate_number ho
    exact ⟨number, hnumber, _, hdate, hc.toDate_withOffset hmark ho hbefore hafter⟩
  · intro mark hmark
    obtain ⟨separator, rfl⟩ : ∃ separator, mark = Date.Separator.mark separator := by
      simp only [List.mem_cons, List.not_mem_nil, or_false] at hmark
      rcases hmark with rfl | rfl
      · exact ⟨.letter, rfl⟩
      · exact ⟨.blanks, rfl⟩
    exact ⟨_, hc.toDate_withoutOffset separator hbefore hafter, hc.toDate_utc⟩
  · exact ⟨_, hc.toDate_date hbefore hafter, hc.midnight.toDate_utc⟩

/-- The last second of a leap day, with more digits than are kept. -/
def endOfLeapDay : Clock where
  date := ⟨2000, 2, 29⟩
  hour := 23
  minute := 59
  second := 59
  fraction := ['9', '9', '9', '5']

/-- As far to the west as offsets go, that is late on the first of March. -/
theorem spellings_agree_endOfLeapDay :
    endOfLeapDay.Real ∧
      (∃ number, Number.ofInt? 951955139999 = some number ∧
        (ConditionValue.scalar (.number number)).Coincide
          (.ofText "\t 2000-02-29t23:59:59.9995-23:59 ".toList)) ∧
      (ConditionValue.ofText "\t 2000-02-29 23:59:59.9995 ".toList).Coincide
        (.ofText "2000-02-29T23:59:59.9995Z".toList) ∧
      (ConditionValue.ofText "\t 2000-02-29 ".toList).Coincide
        (.ofText "2000-02-29T00:00:00Z".toList) := by
  have hreal : endOfLeapDay.Real :=
    { date := ⟨by decide, by decide, by decide, by decide⟩
      year_nonneg := by decide
      year_le := by decide
      hour := by decide
      minute := by decide
      second := by decide
      fraction := List.all_eq_true.mp rfl }
  have hbefore : ∀ blank ∈ ['\t', ' '], isSpace blank = true := List.all_eq_true.mp rfl
  have hafter : ∀ blank ∈ [' '], isSpace blank = true := List.all_eq_true.mp rfl
  obtain ⟨hoffset, hseparated, hdate⟩ := spellings_agree hreal hbefore hafter
  exact ⟨hreal, hoffset 't' (by decide) (.shift true 23 59) ⟨by decide, by decide⟩,
    hseparated ' ' (by decide), hdate⟩

end Clock

end FilterBook
