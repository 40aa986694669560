import FilterBook.Proofs.Figures
import FilterBook.Proofs.Inversion

/-!
Dates as they stand in a query: the date and the time of day of a moment, to the millisecond, in
universal time. The fields are those of a real date and time, and they can be read back from the
text. The text has the form of RFC 3339 where the year has four digits, and nowhere else: a moment
before the year 0 or after the year 9999 is written all the same, with the sign of its year.
-/

namespace FilterBook

/-- The fields of a date as it is written. -/
structure Stamp where
  date : CivilDate
  hour : Nat
  minute : Nat
  second : Nat
  millisecond : Nat
deriving DecidableEq, Repr

namespace Stamp

/-- A date of the calendar, and a time of day whose last second may be a leap second. -/
structure Real (s : Stamp) : Prop where
  date : s.date.Real
  hour : s.hour ≤ 23
  minute : s.minute ≤ 59
  second : s.second ≤ 60
  millisecond : s.millisecond ≤ 999

/-- The text behind the year. -/
def afterYear (s : Stamp) : List Char :=
  '-' :: (figures 2 s.date.month ++ '-' :: (figures 2 s.date.day ++ 'T' ::
    (figures 2 s.hour ++ ':' :: (figures 2 s.minute ++ ':' :: (figures 2 s.second ++ '.' ::
      (figures 3 s.millisecond ++ ['Z']))))))

def text (s : Stamp) : List Char :=
  Moment.writeYear s.date.year ++ s.afterYear

/-- Reads the fields, each in its place and of its width. -/
def part : Date.Part Stamp := fun text => do
  let (year, rest) ← Date.year text
  let ((), rest) ← Date.literal '-' rest
  let (month, rest) ← Date.digits 2 2 rest
  let ((), rest) ← Date.literal '-' rest
  let (day, rest) ← Date.digits 2 2 rest
  let ((), rest) ← Date.literal 'T' rest
  let (hour, rest) ← Date.digits 2 2 rest
  let ((), rest) ← Date.literal ':' rest
  let (minute, rest) ← Date.digits 2 2 rest
  let ((), rest) ← Date.literal ':' rest
  let (second, rest) ← Date.digits 2 2 rest
  let ((), rest) ← Date.literal '.' rest
  let (millisecond, rest) ← Date.digits 3 3 rest
  let ((), rest) ← Date.literal 'Z' rest
  some (⟨⟨year, month, day⟩, hour, minute, second, millisecond⟩, rest)

def ofText? (text : List Char) : Option Stamp :=
  Date.whole part text

/-- The milliseconds from the start of 1970, by the count of the days. -/
def millis (s : Stamp) : Int :=
  s.date.dayCount * 86400000 +
    (((s.hour * 60 + s.minute) * 60 + s.second) * 1000 + s.millisecond : Nat)

end Stamp

/-- The form `YYYY-MM-DDThh:mm:ss.mmmZ`, with a real date and a real time of day in it. -/
def IsRfc3339 (text : List Char) : Prop :=
  ∃ s : Stamp, s.Real ∧ 0 ≤ s.date.year ∧ s.date.year ≤ 9999 ∧
    text = figures 4 s.date.year.toNat ++ s.afterYear

/-- The date of a query with that text. -/
def dateJson (text : List Char) : Json :=
  .object [("$date", .string (String.ofList text))]

theorem CivilDate.Real.day_le_thirtyOne {d : CivilDate} (hd : d.Real) : d.day ≤ 31 := by
  have hlength : daysInMonth d.year d.month ≤ 31 := by
    unfold daysInMonth
    split
    · split <;> decide
    all_goals decide
  exact hd.day_le.trans hlength

namespace Stamp

theorem ofText?_text {s : Stamp} (hs : s.Real) : ofText? s.text = some s := by
  obtain ⟨hdate, hhour, hminute, hsecond, hmillisecond⟩ := hs
  have hday := hdate.day_le_thirtyOne
  have hmonth := hdate.month_le
  have hyear : Date.EndsDigits s.afterYear := Date.endsDigits_cons rfl _
  have hpart : part s.text = some (s, []) := by
    rw [part, text, Date.bind_of_eq_some (Date.year_writeYear s.date.year hyear)]
    simp (disch := omega) only [afterYear, ↓Date.literal_bind, ↓Date.digits_two_bind,
      ↓Date.digits_three_bind]
  rw [ofText?, Date.whole, hpart]

/-- Different dates and times have different texts. -/
theorem text_inj {s other : Stamp} (hs : s.Real) (hother : other.Real)
    (h : s.text = other.text) : s = other := by
  have hread := ofText?_text hs
  rw [h, ofText?_text hother] at hread
  exact (Option.some.inj hread).symm

theorem text_of_four_digits {s : Stamp} (hyear : 0 ≤ s.date.year) (hyear' : s.date.year ≤ 9999) :
    s.text = figures 4 s.date.year.toNat ++ s.afterYear := by
  have hfour : s.date.year.toNat < Nat.pow 10 4 := by
    show s.date.year.toNat < 10000
    omega
  rw [text, Moment.writeYear, if_pos ⟨hyear, hyear'⟩, padded_eq_figures (by decide) hfour]

/-- Only the year decides about the form. -/
theorem isRfc3339_text_iff {s : Stamp} (hs : s.Real) :
    IsRfc3339 s.text ↔ 0 ≤ s.date.year ∧ s.date.year ≤ 9999 := by
  constructor
  · rintro ⟨other, hother, hyear, hyear', htext⟩
    rw [← text_of_four_digits hyear hyear'] at htext
    rw [text_inj hs hother htext]
    exact ⟨hyear, hyear'⟩
  · rintro ⟨hyear, hyear'⟩
    exact ⟨s, hs, hyear, hyear', text_of_four_digits hyear hyear'⟩

end Stamp

namespace Moment

/-- A second of the day, and nanoseconds of it or of the leap second that follows. -/
structure Regular (m : Moment) : Prop where
  second : m.second < 86400
  nanosecond : m.nanosecond < 2000000000

/-- The fields of a moment as it is written. -/
def stamp (m : Moment) : Stamp where
  date := CivilDate.ofDay m.day
  hour := m.second / 3600
  minute := m.second / 60 % 60
  second := m.second % 60 + m.nanosecond / 1000000000
  millisecond := m.nanosecond % 1000000000 / 1000000

theorem Regular.real_stamp {m : Moment} (hm : m.Regular) : m.stamp.Real := by
  obtain ⟨hsecond, hnanosecond⟩ := hm
  constructor
  · exact CivilDate.real_ofDay m.day
  · show m.second / 3600 ≤ 23
    omega
  · show m.second / 60 % 60 ≤ 59
    omega
  · show m.second % 60 + m.nanosecond / 1000000000 ≤ 60
    omega
  · show m.nanosecond % 1000000000 / 1000000 ≤ 999
    omega

theorem Regular.write_eq {m : Moment} (hm : m.Regular) : m.write = m.stamp.text := by
  obtain ⟨hdate, hhour, hminute, hsecond, hmillisecond⟩ := hm.real_stamp
  have hday := hdate.day_le_thirtyOne
  have hmonth := hdate.month_le
  have htwo : ∀ n < 100, padded 2 n = figures 2 n := fun _ hn => padded_eq_figures Nat.two_pos hn
  have hthree : ∀ n < 1000, padded 3 n = figures 3 n := fun _ hn => padded_eq_figures (by decide) hn
  rw [Stamp.text, Stamp.afterYear, ← htwo _ (by omega), ← htwo _ (by omega), ← htwo _ (by omega),
    ← htwo _ (by omega), ← htwo _ (by omega), ← hthree _ (by omega)]
  simp only [write, stamp, List.append_assoc, List.cons_append]

theorem eq_of_ofMillis? {millis : Int} {m : Moment} (h : ofMillis? millis = some m) :
    m = ⟨millis / 86400000, (millis % 86400000).toNat / 1000,
      (millis % 86400000).toNat % 1000 * 1000000⟩ := by
  simp only [ofMillis?] at h
  split at h
  · exact (Option.some.inj h).symm
  · cases h

theorem regular_of_ofMillis? {millis : Int} {m : Moment} (h : ofMillis? millis = some m) :
    m.Regular := by
  obtain rfl := eq_of_ofMillis? h
  constructor
  · show (millis % 86400000).toNat / 1000 < 86400
    omega
  · show (millis % 86400000).toNat % 1000 * 1000000 < 2000000000
    omega

theorem regular_of_ofClock? {d : CivilDate} {hour minute second nanosecond : Nat} {m : Moment}
    (hnanosecond : nanosecond < 1000000000)
    (h : ofClock? d hour minute second nanosecond = some m) : m.Regular := by
  simp only [ofClock?] at h
  split at h
  · rename_i hclock
    obtain ⟨-, hhour, hminute, hsecond⟩ := hclock
    split at h
    · obtain rfl := Option.some.inj h
      constructor
      · show (hour * 60 + minute) * 60 + 59 < 86400
        omega
      · show nanosecond + 1000000000 < 2000000000
        omega
    · obtain rfl := Option.some.inj h
      constructor
      · show (hour * 60 + minute) * 60 + second < 86400
        omega
      · show nanosecond < 2000000000
        omega
  · cases h

theorem Regular.minusSeconds {m : Moment} (hm : m.Regular) (seconds : Int) :
    (m.minusSeconds seconds).Regular := by
  constructor
  · show ((m.second - seconds) % 86400).toNat < 86400
    omega
  · exact hm.nanosecond

end Moment

namespace Date

theorem fraction_lt {text rest : List Char} {nanosecond : Nat}
    (h : fraction text = some (nanosecond, rest)) : nanosecond < 1000000000 := by
  obtain ⟨row, hrow⟩ : ∃ row, (text.take 9).takeWhile Char.isDigit = row := ⟨_, rfl⟩
  have hdigits : ∀ c ∈ row, c.isDigit = true := by
    intro c hc
    rw [← hrow] at hc
    exact List.all_eq_true.mp List.all_takeWhile c hc
  have hlength : row.length ≤ 9 := by
    rw [← hrow]
    exact (List.takeWhile_prefix _).length_le.trans (List.length_take_le 9 text)
  rw [fraction, hrow] at h
  split at h
  · cases h
  · obtain ⟨rfl, -⟩ := Prod.ext_iff.mp (Option.some.inj h)
    have hlt := nanoseconds_lt hdigits
    rwa [nanoseconds, List.take_of_length_le hlength] at hlt

theorem optionalFraction_lt {text rest : List Char} {nanosecond : Nat}
    (h : optionalFraction text = some (nanosecond, rest)) : nanosecond < 1000000000 := by
  unfold optionalFraction at h
  split at h
  · exact fraction_lt h
  · obtain ⟨hzero, -⟩ := Prod.mk.inj (Option.some.inj h)
    rw [← hzero]
    decide

/-- A moment that a scanner has found, if any, is regular. -/
def FindsRegular (found : Option (Moment × List Char)) : Prop :=
  ∀ m rest, found = some (m, rest) → m.Regular

theorem FindsRegular.bind {α : Type} {found : Option α} {next : α → Option (Moment × List Char)}
    (h : ∀ a, found = some a → FindsRegular (next a)) : FindsRegular (found >>= next) := by
  intro m rest hm
  obtain ⟨a, ha, hnext⟩ := Option.bind_eq_some_iff.mp hm
  exact h a ha m rest hnext

theorem FindsRegular.some {m : Moment} (hm : m.Regular) (rest : List Char) :
    FindsRegular (some (m, rest)) := by
  intro other rest' h
  obtain ⟨rfl, -⟩ := Prod.mk.inj (Option.some.inj h)
  exact hm

/-- The fields before the fraction decide nothing here, since the clock checks them. -/
theorem findsRegular_withOffset (text : List Char) : FindsRegular (withOffset text) := by
  unfold withOffset
  iterate 11 refine .bind fun ⟨_, _⟩ _ => ?_
  refine .bind fun ⟨nanosecond, _⟩ hfraction => ?_
  refine .bind fun ⟨seconds, _⟩ _ => ?_
  refine .bind fun moment hclock => ?_
  have hmoment := Moment.regular_of_ofClock? (optionalFraction_lt hfraction) hclock
  exact .some (hmoment.minusSeconds seconds) _

theorem findsRegular_withoutOffset (separator : Separator) (allowsFraction : Bool)
    (text : List Char) : FindsRegular (withoutOffset separator allowsFraction text) := by
  unfold withoutOffset
  iterate 7 refine .bind fun ⟨_, _⟩ _ => ?_
  cases allowsFraction with
  | true =>
      simp only [↓reduceIte]
      refine .bind fun ⟨nanosecond, _⟩ hfraction => ?_
      refine .bind fun moment hclock => ?_
      exact .some (Moment.regular_of_ofClock? (optionalFraction_lt hfraction) hclock) _
  | false =>
      simp only [Bool.false_eq_true, ↓reduceIte, Option.bind_eq_bind, Option.bind_some]
      refine .bind fun moment hclock => ?_
      exact .some (Moment.regular_of_ofClock? (by decide) hclock) _

theorem findsRegular_midnight (text : List Char) : FindsRegular (midnight text) := by
  unfold midnight
  refine .bind fun ⟨_, _⟩ _ => ?_
  refine .bind fun moment hclock => ?_
  exact .some (Moment.regular_of_ofClock? (by decide) hclock) _

theorem regular_of_whole {part : Part Moment} (hpart : ∀ text, FindsRegular (part text))
    {text : List Char} {m : Moment} (h : whole part text = some m) : m.Regular := by
  unfold whole at h
  split at h
  · rename_i heq
    obtain rfl := Option.some.inj h
    exact hpart text _ _ heq
  · cases h

theorem regular_of_read? {text : List Char} {m : Moment} (h : read? text = some m) :
    m.Regular := by
  obtain ⟨reader, hreader, hm⟩ := List.exists_of_findSome?_eq_some h
  simp only [readers, List.mem_cons, List.not_mem_nil, or_false] at hreader
  rcases hreader with rfl | rfl | rfl | rfl | rfl | rfl
  · exact regular_of_whole findsRegular_withOffset hm
  · exact regular_of_whole (findsRegular_withoutOffset .letter false) hm
  · exact regular_of_whole (findsRegular_withoutOffset .letter true) hm
  · exact regular_of_whole (findsRegular_withoutOffset .blanks false) hm
  · exact regular_of_whole (findsRegular_withoutOffset .blanks true) hm
  · exact regular_of_whole findsRegular_midnight hm

end Date

theorem Scalar.regular_moment {s : Scalar} {m : Moment} (h : s.moment = .ok m) : m.Regular := by
  cases s with
  | bool value => cases h
  | number value =>
      rw [moment_number] at h
      split at h
      · rename_i hmoment
        obtain rfl := Except.ok.inj h
        exact Moment.regular_of_ofMillis? hmoment
      · cases h
  | string text =>
      rw [moment_string] at h
      split at h
      · rename_i hmoment
        obtain rfl := Except.ok.inj h
        exact Date.regular_of_read? hmoment
      · cases h

/-- The moments of the scalars of a value, in order, and how they stand in a query. -/
inductive ConditionValue.Dated : ConditionValue → List Moment → Json → Prop
  | scalar {s m} (h : s.moment = .ok m) : Dated (.scalar s) [m] (dateJson m.write)
  | list {ss ms} (h : List.Forall₂ (fun s m => Scalar.moment s = .ok m) ss ms) :
      Dated (.list ss) ms (.array (ms.map fun m => dateJson m.write))

namespace ConditionValue

theorem dated_of_dates {ss : List Scalar} {dates : List Json}
    (h : List.Forall₂ (fun s date => s.toDate = .ok date) ss dates) :
    ∃ ms, List.Forall₂ (fun s m => Scalar.moment s = .ok m) ss ms ∧
      dates = ms.map fun m => dateJson m.write := by
  induction h with
  | nil => exact ⟨[], .nil, rfl⟩
  | cons hs _ ih =>
      obtain ⟨m, hm, rfl⟩ := Scalar.toDate_eq_ok_iff.mp hs
      obtain ⟨ms, hms, rfl⟩ := ih
      exact ⟨m :: ms, .cons hm hms, rfl⟩

theorem exists_dated {v : ConditionValue} {json : Json} (h : v.toDate = .ok json) :
    ∃ ms, v.Dated ms json := by
  cases v with
  | scalar s =>
      obtain ⟨m, hm, rfl⟩ := Scalar.toDate_eq_ok_iff.mp h
      exact ⟨[m], .scalar hm⟩
  | list ss =>
      obtain ⟨dates, hdates, rfl⟩ := toDate_list_eq_ok_iff.mp h
      obtain ⟨ms, hms, rfl⟩ := dated_of_dates hdates
      exact ⟨ms, .list hms⟩

theorem Dated.regular {v : ConditionValue} {ms : List Moment} {json : Json}
    (h : v.Dated ms json) : ∀ m ∈ ms, m.Regular := by
  cases h with
  | scalar hs => exact List.forall_mem_singleton.mpr (Scalar.regular_moment hs)
  | list hms =>
      induction hms with
      | nil => exact List.forall_mem_nil _
      | cons hs _ ih => exact List.forall_mem_cons.mpr ⟨Scalar.regular_moment hs, ih⟩

/-- Whatever way the scalars of a value say their dates, each date of the query has the fields of a
real date and time in their places. Its text has the form of RFC 3339 just when the year has four
digits. -/
theorem toDate_writes_stamps {v : ConditionValue} {json : Json} (h : v.toDate = .ok json) :
    ∃ ms, v.Dated ms json ∧ ∀ m ∈ ms, m.stamp.Real ∧ m.write = m.stamp.text ∧
      m.stamp.date.dayCount = m.day ∧
      (IsRfc3339 m.write ↔ 0 ≤ m.stamp.date.year ∧ m.stamp.date.year ≤ 9999) := by
  obtain ⟨ms, hms⟩ := exists_dated h
  refine ⟨ms, hms, fun m hm => ?_⟩
  have hregular : m.Regular := hms.regular m hm
  have hreal := hregular.real_stamp
  refine ⟨hreal, hregular.write_eq, CivilDate.dayCount_ofDay m.day, ?_⟩
  rw [hregular.write_eq]
  exact Stamp.isRfc3339_text_iff hreal

/-- A moment of the year 10000, and one that is written with the year 9999 but is past its end. -/
def afterTheLastYear : ConditionValue :=
  .list [.number (.integer 253402300800000 (by decide)), .string "9999-12-31T23:59:59-00:01"]

theorem toDate_writes_stamps_signed :
    ∃ json, afterTheLastYear.toDate = .ok json ∧
      ∃ ms, afterTheLastYear.Dated ms json ∧ ∀ m ∈ ms, m.stamp.Real ∧ m.write = m.stamp.text ∧
        m.stamp.date.dayCount = m.day ∧
        (IsRfc3339 m.write ↔ 0 ≤ m.stamp.date.year ∧ m.stamp.date.year ≤ 9999) := by
  have hjson : afterTheLastYear.toDate = .ok (.array [dateJson "+10000-01-01T00:00:00.000Z".toList,
      dateJson "+10000-01-01T00:00:59.000Z".toList]) := by
    rfl
  exact ⟨_, hjson, toDate_writes_stamps hjson⟩

/-- The first moment after the year 9999 is not refused, and its date has a sign. -/
theorem toDate_not_rfc3339 :
    (scalar (.number (.integer 253402300800000 (by decide)))).toDate =
        .ok (dateJson "+10000-01-01T00:00:00.000Z".toList) ∧
      ¬ IsRfc3339 "+10000-01-01T00:00:00.000Z".toList := by
  have hreal : (⟨⟨10000, 1, 1⟩, 0, 0, 0, 0⟩ : Stamp).Real :=
    ⟨⟨by decide, by decide, by decide, by decide⟩, by decide, by decide, by decide, by decide⟩
  refine ⟨rfl, fun hform => ?_⟩
  obtain ⟨-, hyear⟩ := (Stamp.isRfc3339_text_iff hreal).mp hform
  exact absurd hyear (by decide)

end ConditionValue

end FilterBook
