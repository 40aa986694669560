import FilterBook.Proofs.Spelling

/-!
Dates of a query that are read again as values. A date with a year of four digits is one of the ways
to write a date, and it is read as a moment that is written the same; all that is lost of a moment
is lost the first time. A year with a sign is refused, since no reader takes both a sign and the
mark of universal time.
-/

namespace FilterBook

namespace Stamp

variable {s : Stamp}

/-- The first moment that is written so. -/
def moment (s : Stamp) : Moment :=
  let start := (s.hour * 60 + s.minute) * 60
  if s.second = 60 then ⟨s.date.toDay, start + 59, s.millisecond * 1000000 + 1000000000⟩
  else ⟨s.date.toDay, start + s.second, s.millisecond * 1000000⟩

theorem Real.regular_moment (hs : s.Real) : s.moment.Regular := by
  obtain ⟨-, hhour, hminute, hsecond, hmillisecond⟩ := hs
  unfold moment
  split
  · constructor
    · show (s.hour * 60 + s.minute) * 60 + 59 < 86400
      omega
    · show s.millisecond * 1000000 + 1000000000 < 2000000000
      omega
  · constructor
    · show (s.hour * 60 + s.minute) * 60 + s.second < 86400
      omega
    · show s.millisecond * 1000000 < 2000000000
      omega

theorem Real.stamp_moment (hs : s.Real) : s.moment.stamp = s := by
  obtain ⟨date, hour, minute, second, millisecond⟩ := s
  obtain ⟨hdate, hhour, hminute, hsecond, hmillisecond⟩ := hs
  dsimp only at hdate hhour hminute hsecond hmillisecond
  unfold moment
  split
  · simp only [Moment.stamp, CivilDate.ofDay_toDay hdate, mk.injEq, true_and]
    dsimp only at *
    omega
  · simp only [Moment.stamp, CivilDate.ofDay_toDay hdate, mk.injEq, true_and]
    dsimp only at *
    omega

/-- The clock of a stamp is a clock of its moment: the last second of the sixty-one is the leap
second. -/
theorem Real.ofClock? (hs : s.Real) (hyear : 0 ≤ s.date.year) (hyear' : s.date.year ≤ 9999) :
    Moment.ofClock? s.date s.hour s.minute s.second (s.millisecond * 1000000) = some s.moment := by
  have hvalid : s.date.isValid = true := by
    refine CivilDate.isValid_iff.mpr ⟨hs.date, ?_, ?_⟩
    · exact Int.le_trans (by decide) hyear
    · exact Int.le_trans hyear' (by decide)
  rw [Moment.ofClock?, if_pos ⟨hvalid, hs.hour, hs.minute, hs.second⟩, moment]
  split <;> rfl

end Stamp

namespace Date

/-- Three figures after a point are milliseconds. -/
theorem optionalFraction_figures {n : Nat} (h : n < 1000) :
    optionalFraction ('.' :: (figures 3 n ++ ['Z'])) = some (n * 1000000, ['Z']) := by
  have hlength := length_figures 3 n
  have hall : (figures 3 n).take 9 = figures 3 n := List.take_of_length_le (by omega)
  have hvalue : nanoseconds (figures 3 n) = n * 1000000 := by
    rw [nanoseconds, hall, ofDigitChars_figures h, hlength]
  rw [← hvalue]
  exact fraction_append (figures_ne_nil (by decide)) (fun _ => isDigit_of_mem_figures)
    (endsDigits_cons rfl [])

/-- Where no digit comes next there is no number. -/
theorem digits_of_endsDigits {least most : Nat} {text : List Char} (hleast : 0 < least)
    (h : EndsDigits text) : digits least most text = none := by
  rw [digits, takeWhile_take_of_endsDigits h]
  exact if_pos hleast

/-- A part that leaves something behind is not the whole text. -/
theorem whole_eq_none {part : Part Moment} {text rest : List Char} {found : Option Moment}
    (h : part text = found.map fun m => (m, rest)) (hrest : rest ≠ []) :
    whole part text = none := by
  rw [whole, h]
  cases found with
  | none => rfl
  | some m =>
      obtain ⟨c, rest, rfl⟩ := List.exists_cons_of_ne_nil hrest
      rfl

end Date

namespace Stamp

variable {s : Stamp}

/-- The time of day with the mark of universal time, as it stands behind the date. -/
def timeText (s : Stamp) : List Char :=
  figures 2 s.hour ++ ':' :: (figures 2 s.minute ++ ':' :: (figures 2 s.second ++ '.' ::
    (figures 3 s.millisecond ++ ['Z'])))

/-- The reader that is tried first takes a year of four digits. -/
theorem Real.withOffset_text (hs : s.Real) (hyear : 0 ≤ s.date.year) (hyear' : s.date.year ≤ 9999) :
    Date.withOffset s.text = some (s.moment, []) := by
  have hclock : Moment.ofClock? ⟨s.date.year.toNat, s.date.month, s.date.day⟩ s.hour s.minute
      s.second (s.millisecond * 1000000) = some s.moment := by
    rw [Int.toNat_of_nonneg hyear]
    exact hs.ofClock? hyear hyear'
  have hlast := Moment.minusSeconds_zero hs.regular_moment.second
  have hfour : s.date.year.toNat < Nat.pow 10 4 := by
    show s.date.year.toNat < 10000
    omega
  obtain ⟨hdate, hhour, hminute, hsecond, hmillisecond⟩ := hs
  have hday := hdate.day_le_thirtyOne
  have hmonth := hdate.month_le
  have hfraction := Date.optionalFraction_figures (Nat.lt_succ_of_le hmillisecond)
  have hoffset : Date.offset ['Z'] = some (0, []) := rfl
  have hmark : 'T' ∈ ['T', 't', ' '] := by decide
  rw [text_of_four_digits hyear hyear', afterYear]
  simp (disch := omega) only [Date.withOffset, ↓Date.bind_of_eq_some (Date.digits_figures hfour _),
    ↓Date.literal_bind, ↓Date.digits_two_bind, ↓Date.dateTimeMark_bind hmark,
    ↓Date.bind_of_eq_some hfraction, ↓Date.bind_of_eq_some hoffset, hclock]
  show some (s.moment.minusSeconds 0, []) = _
  rw [hlast]

theorem Real.read?_text (hs : s.Real) (hyear : 0 ≤ s.date.year) (hyear' : s.date.year ≤ 9999) :
    Date.read? s.text = some s.moment := by
  have hwhole : Date.whole Date.withOffset s.text = some s.moment := by
    rw [Date.whole, hs.withOffset_text hyear hyear']
  rw [Date.read?, Date.readers, List.findSome?_cons, hwhole]

/-- The date in front is read leniently, with a sign at its year or without. -/
theorem Real.date_text (hs : s.Real) : Date.date s.text = some (s.date, 'T' :: s.timeText) := by
  have hyear : Date.EndsDigits s.afterYear := Date.endsDigits_cons rfl _
  have hday := hs.date.day_le_thirtyOne
  have hmonth := hs.date.month_le
  rw [Date.date, text, Date.bind_of_eq_some (Date.year_writeYear s.date.year hyear)]
  simp (disch := omega) only [afterYear, ↓Date.literal_bind, ↓Date.lenient_bind]
  rfl

/-- Without an offset the mark of universal time is left behind. -/
theorem Real.whole_letter (hs : s.Real) (allowsFraction : Bool) :
    Date.whole (Date.withoutOffset .letter allowsFraction) s.text = none := by
  have hdate := hs.date_text
  obtain ⟨-, hhour, hminute, hsecond, hmillisecond⟩ := hs
  have hfraction := Date.optionalFraction_figures (Nat.lt_succ_of_le hmillisecond)
  cases allowsFraction with
  | true =>
      apply Date.whole_eq_none
      · rw [Date.withoutOffset, Date.bind_of_eq_some hdate]
        simp (disch := omega) only [Date.Separator.part, timeText, ↓Date.literal_bind,
          ↓Date.lenient_bind, ↓reduceIte, ↓Date.bind_of_eq_some hfraction]
        exact Option.map_eq_bind.symm
      · exact List.cons_ne_nil _ _
  | false =>
      apply Date.whole_eq_none
      · rw [Date.withoutOffset, Date.bind_of_eq_some hdate]
        simp (disch := omega) only [Date.Separator.part, timeText, ↓Date.literal_bind,
          ↓Date.lenient_bind, Bool.false_eq_true, ↓reduceIte]
        exact Option.map_eq_bind.symm
      · exact List.cons_ne_nil _ _

/-- Blanks are passed over, but the letter is not. -/
theorem Real.whole_blanks (hs : s.Real) (allowsFraction : Bool) :
    Date.whole (Date.withoutOffset .blanks allowsFraction) s.text = none := by
  have hletter : Date.lenient ('T' :: s.timeText) = none :=
    Date.digits_of_endsDigits Nat.one_pos (Date.endsDigits_cons rfl _)
  have hbare : trimStart ('T' :: s.timeText) = 'T' :: s.timeText := rfl
  have hnone : Date.withoutOffset .blanks allowsFraction s.text = none := by
    rw [Date.withoutOffset, Date.bind_of_eq_some hs.date_text]
    simp only [Date.Separator.part, Option.bind_eq_bind, Option.bind_some, hbare, hletter]
    rfl
  rw [Date.whole, hnone]

theorem Real.whole_midnight (hs : s.Real) : Date.whole Date.midnight s.text = none := by
  apply Date.whole_eq_none
  · rw [Date.midnight, Date.bind_of_eq_some hs.date_text]
    exact Option.map_eq_bind.symm
  · exact List.cons_ne_nil _ _

/-- A year with a sign is not one of four digits, and without an offset there is no mark of
universal time. -/
theorem Real.read?_signed (hs : s.Real) (hyear : ¬ (0 ≤ s.date.year ∧ s.date.year ≤ 9999)) :
    Date.read? s.text = none := by
  have hsign : Date.EndsDigits s.text := by
    rw [text, Moment.writeYear, if_neg hyear]
    split
    · exact Date.endsDigits_cons rfl _
    · exact Date.endsDigits_cons rfl _
  have hoffset : Date.whole Date.withOffset s.text = none := by
    rw [Date.whole, Date.withOffset, Date.digits_of_endsDigits (by decide) hsign]
    rfl
  simp only [Date.read?, Date.readers, List.findSome?_cons, hoffset, hs.whole_letter,
    hs.whole_blanks, hs.whole_midnight, List.findSome?_nil]

/-- There are no blanks at the ends. -/
theorem trim_text (s : Stamp) : trim s.text = s.text := by
  have hend : EndsBare s.text := by
    have hmark : EndsBare (figures 3 s.millisecond ++ ['Z']) :=
      EndsBare.append ⟨'Z', rfl, rfl⟩ _
    have htime : EndsBare s.timeText := (((hmark.cons '.').append _).cons ':' |>.append _).cons ':'
      |>.append _
    have hdate : EndsBare s.afterYear := (((htime.cons 'T').append _).cons '-' |>.append _).cons '-'
    exact hdate.append _
  have hstart : trimStart s.text = s.text := by
    rw [text, Moment.writeYear]
    split
    · exact Date.trimStart_append (padded_ne_nil _ _) fun _ => isDigit_of_mem_padded
    · split <;> rfl
  have hblanks := trimEnd_append hend (List.forall_mem_nil fun c => isSpace c = true)
  rw [List.append_nil] at hblanks
  rw [trim, hstart, hblanks]

end Stamp

namespace Moment.Regular

variable {m : Moment}

/-- A moment that is written is read again, to the millisecond, if its year has four digits. -/
theorem read?_write (hm : m.Regular) :
    Date.read? (trim m.write) =
      if 0 ≤ m.stamp.date.year ∧ m.stamp.date.year ≤ 9999 then some m.stamp.moment else none := by
  rw [hm.write_eq, m.stamp.trim_text]
  split
  · rename_i hyear
    exact hm.real_stamp.read?_text hyear.1 hyear.2
  · rename_i hyear
    exact hm.real_stamp.read?_signed hyear

/-- What is lost by the first writing is all that is lost. -/
theorem write_moment_stamp (hm : m.Regular) : m.stamp.moment.write = m.write := by
  have hreal := hm.real_stamp
  calc m.stamp.moment.write
      = m.stamp.moment.stamp.text := hreal.regular_moment.write_eq
    _ = m.stamp.text := by rw [hreal.stamp_moment]
    _ = m.write := hm.write_eq.symm

end Moment.Regular

namespace ConditionValue

/-- The date of a scalar, taken as a text, becomes that date again where its year has four digits.
The date of any other year is refused when it is read. -/
theorem reread_date {s : Scalar} {json : Json} (h : (scalar s).toDate = .ok json) :
    ∃ m, s.moment = .ok m ∧ json = dateJson m.write ∧
      (ofText m.write).toDate =
        if 0 ≤ m.stamp.date.year ∧ m.stamp.date.year ≤ 9999 then .ok json
        else .error (.invalidDate (.string (String.ofList m.write)) .unrecognized) := by
  obtain ⟨m, hmoment, hjson⟩ := Scalar.toDate_eq_ok_iff.mp h
  obtain rfl : json = dateJson m.write := hjson
  have hm := Scalar.regular_moment hmoment
  have hread := hm.read?_write
  refine ⟨m, hmoment, rfl, ?_⟩
  split
  · rename_i hyear
    rw [if_pos hyear] at hread
    rw [toDate_ofText hread, hm.write_moment_stamp]
  · rename_i hyear
    rw [if_neg hyear] at hread
    show (Scalar.string (String.ofList m.write)).toDate = _
    rw [Scalar.toDate, Scalar.moment_string, String.toList_ofList, hread]
    rfl

/-- A leap second with an offset, and more digits than are kept. -/
def leapSecond : Scalar :=
  .string " 2016-12-31 18:59:60.99999-05:00"

theorem reread_date_leapSecond :
    (scalar leapSecond).toDate = .ok (dateJson "2016-12-31T23:59:60.999Z".toList) ∧
      (ofText "2016-12-31T23:59:60.999Z".toList).toDate =
        .ok (dateJson "2016-12-31T23:59:60.999Z".toList) := by
  have hdate : (scalar leapSecond).toDate = .ok (dateJson "2016-12-31T23:59:60.999Z".toList) := by
    rfl
  obtain ⟨m, hmoment, hjson, hagain⟩ := reread_date hdate
  have hm : leapSecond.moment = .ok ⟨17166, 86399, 1999990000⟩ := by
    rfl
  obtain rfl := Except.ok.inj (hmoment.symm.trans hm)
  rw [← dateJson_inj hjson, if_pos (by decide)] at hagain
  exact ⟨hdate, hagain⟩

end ConditionValue

end FilterBook
