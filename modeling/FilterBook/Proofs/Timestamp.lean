import FilterBook.Proofs.Stamp

/-!
Milliseconds since the start of 1970 as dates. The whole numbers that the calendar has a moment for
become dates from whose fields they can be counted back, one by one; all other whole numbers are
refused. A number beyond the signed 64-bit ones, which is taken as a double, is among those.
-/

namespace FilterBook

/-- Rounding does not go below a whole number that the quotient reaches. -/
theorem le_roundHalfEven {least num den : Nat} (hden : 0 < den) (h : least * den ≤ num) :
    least ≤ roundHalfEven num den := by
  have hfloor : least ≤ num / den := (Nat.le_div_iff_mul_le hden).mpr h
  simp only [roundHalfEven]
  split
  · exact hfloor
  · exact Nat.le_succ_of_le hfloor

namespace Double

/-- A whole number of more than 52 digits in base two is rounded to a multiple of a power of two. -/
theorem exponentFor_whole {n : Nat} (hne : n ≠ 0) (hlog : 52 ≤ n.log2) :
    exponentFor n 1 = (n.log2 - 52 : Nat) := by
  have hone : Nat.log2 1 = 0 := by decide
  have hguess : (n.log2 : Int) - (0 : Nat) - 52 = (n.log2 - 52 : Nat) := by omega
  have hpower : Nat.pow 2 52 * Nat.pow 2 (n.log2 - 52) ≤ n := by
    calc Nat.pow 2 52 * Nat.pow 2 (n.log2 - 52)
        = 2 ^ (52 + (n.log2 - 52)) := (Nat.pow_add 2 52 _).symm
      _ = 2 ^ n.log2 := by rw [Nat.add_sub_cancel' hlog]
      _ ≤ n := Nat.log2_self_le hne
  have hsmall : ¬ n * Nat.pow 2 0 < Nat.pow 2 52 * (1 * Nat.pow 2 (n.log2 - 52)) := by
    show ¬ n * 1 < _
    rw [Nat.mul_one, Nat.one_mul]
    exact Nat.not_lt.mpr hpower
  simp only [exponentFor, hone, hguess, Int.toNat_natCast, Int.toNat_neg_natCast, if_neg hsmall]
  show max ((n.log2 - 52 : Nat) : Int) (-1074) = _
  omega

theorem truncate_whole (significand shift : Nat) :
    truncate ⟨false, significand, shift⟩ = (significand * 2 ^ shift : Nat) := by
  simp only [truncate, ratio, Int.toNat_natCast, Int.toNat_neg_natCast]
  show ((significand * Nat.pow 2 shift / 1 : Nat) : Int) = _
  rw [Nat.div_one, Nat.pow_eq]

/-- The double nearest to such a number keeps its leading power of two. -/
theorem le_truncate_of_ofNat? {n : Nat} (hne : n ≠ 0) (hlog : 52 ≤ n.log2) {x : Double}
    (h : ofNat? n = some x) : (2 ^ n.log2 : Nat) ≤ x.truncate := by
  obtain ⟨shift, hshift⟩ : ∃ shift, n.log2 = 52 + shift := Nat.exists_eq_add_of_le hlog
  have hexponent : exponentFor n 1 = shift := by
    rw [exponentFor_whole hne hlog, hshift, Nat.add_sub_cancel_left]
  obtain ⟨rounded, hrounded⟩ :
      ∃ rounded, roundHalfEven (n * Nat.pow 2 0) (1 * Nat.pow 2 shift) = rounded := ⟨_, rfl⟩
  have hpower : 2 ^ n.log2 = 2 ^ 52 * 2 ^ shift := by rw [hshift, Nat.pow_add]
  have hleast : 2 ^ 52 ≤ rounded := by
    rw [← hrounded]
    apply le_roundHalfEven
    · exact Nat.mul_pos Nat.one_pos (Nat.pow_pos Nat.two_pos)
    · calc 2 ^ 52 * (1 * Nat.pow 2 shift)
          = 2 ^ n.log2 := by
            rw [Nat.one_mul, hpower]
            rfl
        _ ≤ n := Nat.log2_self_le hne
        _ = n * Nat.pow 2 0 := (Nat.mul_one n).symm
  rw [ofNat?, ofRatio?, if_neg hne] at h
  simp only [hexponent, Int.toNat_natCast, Int.toNat_neg_natCast, hrounded] at h
  rw [hpower]
  by_cases hcarry : rounded = Nat.pow 2 53
  · -- The significand is one digit too long, and the power of two takes it.
    simp only [if_pos hcarry] at h
    split at h
    · cases h
    · obtain rfl := Option.some.inj h
      show _ ≤ truncate ⟨false, Nat.pow 2 52, (shift + 1 : Nat)⟩
      rw [truncate_whole]
      have hmore : 2 ^ shift ≤ 2 ^ (shift + 1) := Nat.pow_le_pow_right (by decide) (Nat.le_succ _)
      exact Int.ofNat_le.mpr (Nat.mul_le_mul_left _ hmore)
  · simp only [if_neg hcarry] at h
    split at h
    · cases h
    · obtain rfl := Option.some.inj h
      rw [truncate_whole]
      exact Int.ofNat_le.mpr (Nat.mul_le_mul_right _ hleast)

end Double

/-- A whole number counts as itself, or as the largest signed number where it is larger. -/
theorem Number.millis_integer {n : Int} (fits : leastInteger ≤ n ∧ n ≤ greatestInteger) :
    (Number.integer n fits).millis = min n greatestSigned := by
  rw [millis]
  by_cases hsigned : n ≤ greatestSigned
  · rw [if_pos hsigned, min_eq_left hsigned]
  · rw [if_neg hsigned, min_eq_right (Int.le_of_not_le hsigned)]
    simp only [greatestSigned, greatestInteger, leastInteger] at *
    cases hnearest : Double.ofNat? n.toNat with
    | none => rfl
    | some nearest =>
        have hne : n.toNat ≠ 0 := by omega
        have hlog : n.toNat.log2 = 63 := by
          rw [Nat.log2_eq_iff hne]
          omega
        have htruncate := Double.le_truncate_of_ofNat? hne (hlog ▸ by decide) hnearest
        rw [hlog] at htruncate
        show max leastInteger (min nearest.truncate greatestSigned) = greatestSigned
        simp only [greatestSigned, leastInteger]
        omega

/-- The instant that many milliseconds from the start of 1970 is on a day that the calendar has. -/
def InCalendar (n : Int) : Prop :=
  ∃ (d : CivilDate) (inDay : Nat), d.isValid = true ∧ inDay < 86400000 ∧
    n = d.dayCount * 86400000 + inDay

theorem inCalendar_iff {n : Int} :
    InCalendar n ↔ CivilDate.leastYear ≤ (CivilDate.ofDay (n / 86400000)).year ∧
      (CivilDate.ofDay (n / 86400000)).year ≤ CivilDate.greatestYear := by
  constructor
  · rintro ⟨d, inDay, hvalid, hinDay, hn⟩
    obtain ⟨hreal, hyear⟩ := CivilDate.isValid_iff.mp hvalid
    have hday : n / 86400000 = d.toDay := by
      rw [CivilDate.toDay_eq_dayCount hreal]
      omega
    rw [hday, CivilDate.ofDay_toDay hreal]
    exact hyear
  · intro hyear
    refine ⟨CivilDate.ofDay (n / 86400000), (n % 86400000).toNat, ?_, by omega, ?_⟩
    · exact CivilDate.isValid_iff.mpr ⟨CivilDate.real_ofDay _, hyear⟩
    · rw [CivilDate.dayCount_ofDay]
      omega

/-- The first and the last millisecond of the calendar. -/
theorem inCalendar_iff_millis {n : Int} :
    InCalendar n ↔ -8334601228800000 ≤ n ∧ n ≤ 8210266876799999 := by
  have hreal := CivilDate.real_ofDay (n / 86400000)
  have hfirst : CivilDate.yearStart CivilDate.leastYear = -96465292 := rfl
  have hlast : CivilDate.yearStart (CivilDate.greatestYear + 1) = 95026237 := rfl
  have hleast := hreal.le_year_iff CivilDate.leastYear
  have hgreatest := hreal.le_year_iff (CivilDate.greatestYear + 1)
  rw [hfirst, CivilDate.toDay_ofDay] at hleast
  rw [hlast, CivilDate.toDay_ofDay] at hgreatest
  rw [inCalendar_iff]
  omega

/-- The calendar ends before the signed milliseconds do. -/
theorem not_inCalendar_of_greatestSigned_le {n : Int} (h : greatestSigned ≤ n) :
    ¬ InCalendar n := by
  simp only [greatestSigned] at h
  rw [inCalendar_iff_millis]
  omega

namespace Moment

theorem ofMillis?_eq_none_iff {n : Int} : ofMillis? n = none ↔ ¬ InCalendar n := by
  rw [inCalendar_iff, ofMillis?]
  split
  · rename_i hyear
    constructor
    · intro h
      cases h
    · intro h
      exact absurd hyear h
  · rename_i hyear
    exact ⟨fun _ => hyear, fun _ => rfl⟩

theorem exists_ofMillis? {n : Int} (h : InCalendar n) : ∃ m, ofMillis? n = some m := by
  rw [← Option.ne_none_iff_exists']
  intro hnone
  exact ofMillis?_eq_none_iff.mp hnone h

/-- The fields of a moment count back to the milliseconds that it was made from. -/
theorem millis_stamp_of_ofMillis? {n : Int} {m : Moment} (h : ofMillis? n = some m) :
    m.stamp.millis = n := by
  obtain rfl := eq_of_ofMillis? h
  simp only [stamp, Stamp.millis, CivilDate.dayCount_ofDay]
  omega

end Moment

theorem dateJson_inj {text other : List Char} (h : dateJson text = dateJson other) :
    text = other := by
  have hstring : String.ofList text = String.ofList other := by
    simpa [dateJson] using h
  simpa using congrArg String.toList hstring

variable {n : Int}

/-- The numbers that are held at the largest signed one have no moment, and neither has that. -/
theorem Moment.ofMillis?_millis_integer (fits : leastInteger ≤ n ∧ n ≤ greatestInteger) :
    ofMillis? (Number.integer n fits).millis = ofMillis? n := by
  rw [Number.millis_integer]
  by_cases hsigned : n ≤ greatestSigned
  · rw [min_eq_left hsigned]
  · have hgreater : greatestSigned ≤ n := Int.le_of_not_le hsigned
    rw [min_eq_right hgreater,
      ofMillis?_eq_none_iff.mpr (not_inCalendar_of_greatestSigned_le (Int.le_refl _)),
      ofMillis?_eq_none_iff.mpr (not_inCalendar_of_greatestSigned_le hgreater)]

namespace Scalar

theorem toDate_number_of_some {value : Number} {m : Moment}
    (h : Moment.ofMillis? value.millis = some m) : (number value).toDate = .ok m.toJson := by
  rw [toDate, moment_number, h]
  rfl

theorem toDate_number_of_none {value : Number} (h : Moment.ofMillis? value.millis = none) :
    (number value).toDate = .error (.invalidDate (.number value) .outOfRange) := by
  rw [toDate, moment_number, h]
  rfl

theorem toDate_integer_of_not_inCalendar (fits : leastInteger ≤ n ∧ n ≤ greatestInteger)
    (h : ¬ InCalendar n) :
    (number (.integer n fits)).toDate =
      .error (.invalidDate (.number (.integer n fits)) .outOfRange) := by
  apply toDate_number_of_none
  rw [Moment.ofMillis?_millis_integer]
  exact Moment.ofMillis?_eq_none_iff.mpr h

theorem inCalendar_of_toDate_integer {fits : leastInteger ≤ n ∧ n ≤ greatestInteger} {json : Json}
    (h : (number (.integer n fits)).toDate = .ok json) : InCalendar n := by
  by_contra hout
  rw [toDate_integer_of_not_inCalendar fits hout] at h
  cases h

/-- The fields of the date of a whole number count back to it. -/
theorem toDate_integer_of_inCalendar (fits : leastInteger ≤ n ∧ n ≤ greatestInteger)
    (h : InCalendar n) :
    ∃ s : Stamp, (number (.integer n fits)).toDate = .ok (dateJson s.text) ∧ s.Real ∧
      s.millis = n := by
  obtain ⟨m, hm⟩ := Moment.exists_ofMillis? h
  have hregular := Moment.regular_of_ofMillis? hm
  refine ⟨m.stamp, ?_, hregular.real_stamp, Moment.millis_stamp_of_ofMillis? hm⟩
  rw [← Moment.ofMillis?_millis_integer fits] at hm
  rw [toDate_number_of_some hm, ← hregular.write_eq]
  rfl

theorem exists_stamp_of_toDate_integer {fits : leastInteger ≤ n ∧ n ≤ greatestInteger}
    {json : Json} (h : (number (.integer n fits)).toDate = .ok json) :
    ∃ s : Stamp, json = dateJson s.text ∧ s.Real ∧ s.millis = n := by
  obtain ⟨s, hs, hreal, hmillis⟩ :=
    toDate_integer_of_inCalendar fits (inCalendar_of_toDate_integer h)
  exact ⟨s, Except.ok.inj (h.symm.trans hs), hreal, hmillis⟩

theorem eq_of_toDate_integer {other : Int} {fits : leastInteger ≤ n ∧ n ≤ greatestInteger}
    {fits' : leastInteger ≤ other ∧ other ≤ greatestInteger} {json : Json}
    (h : (number (.integer n fits)).toDate = .ok json)
    (hother : (number (.integer other fits')).toDate = .ok json) : other = n := by
  obtain ⟨s, rfl, hreal, rfl⟩ := exists_stamp_of_toDate_integer h
  obtain ⟨s', hjson, hreal', rfl⟩ := exists_stamp_of_toDate_integer hother
  rw [Stamp.text_inj hreal' hreal (dateJson_inj hjson).symm]

end Scalar

namespace ConditionValue

/-- A whole number of milliseconds becomes a date if the calendar has its instant, and is refused if
not; the numbers beyond the signed ones are all refused. The fields that are read from the text of
the date count back to the number, so that no two numbers have one date. -/
theorem timestamp_exact (n : Int) (fits : leastInteger ≤ n ∧ n ≤ greatestInteger) :
    ((∃ json, (scalar (.number (.integer n fits))).toDate = .ok json) ↔ InCalendar n) ∧
      (¬ InCalendar n → (scalar (.number (.integer n fits))).toDate =
        .error (.invalidDate (.number (.integer n fits)) .outOfRange)) ∧
      (greatestSigned < n → ¬ InCalendar n) ∧
      ∀ json, (scalar (.number (.integer n fits))).toDate = .ok json →
        (∃ s : Stamp, json = dateJson s.text ∧ s.Real ∧ Stamp.ofText? s.text = some s ∧
          s.millis = n) ∧
        ∀ other fits', (scalar (.number (.integer other fits'))).toDate = .ok json → other = n := by
  refine ⟨⟨?_, ?_⟩, Scalar.toDate_integer_of_not_inCalendar fits, ?_, ?_⟩
  · rintro ⟨json, hjson⟩
    exact Scalar.inCalendar_of_toDate_integer hjson
  · intro hin
    obtain ⟨s, hs, -⟩ := Scalar.toDate_integer_of_inCalendar fits hin
    exact ⟨_, hs⟩
  · intro hlarge
    exact not_inCalendar_of_greatestSigned_le (Int.le_of_lt hlarge)
  · intro json hjson
    obtain ⟨s, hs, hreal, hmillis⟩ := Scalar.exists_stamp_of_toDate_integer hjson
    exact ⟨⟨s, hs, hreal, Stamp.ofText?_text hreal, hmillis⟩,
      fun _ _ hother => Scalar.eq_of_toDate_integer hjson hother⟩

/-- The last millisecond of the year before the year 0. -/
theorem timestamp_exact_beforeYearZero :
    (scalar (.number (.integer (-62167219200001) (by decide)))).toDate =
        .ok (dateJson "-0001-12-31T23:59:59.999Z".toList) ∧
      InCalendar (-62167219200001) ∧
      ∃ s : Stamp, dateJson "-0001-12-31T23:59:59.999Z".toList = dateJson s.text ∧ s.Real ∧
        Stamp.ofText? s.text = some s ∧ s.millis = -62167219200001 := by
  obtain ⟨hcalendar, -, -, hdate⟩ := timestamp_exact (-62167219200001) (by decide)
  exact ⟨rfl, hcalendar.mp ⟨_, rfl⟩, (hdate _ rfl).1⟩

example :
    (scalar (.number (.integer 8210266876799999 (by decide)))).toDate =
      .ok (dateJson "+262142-12-31T23:59:59.999Z".toList) := by
  rfl

end ConditionValue

end FilterBook
