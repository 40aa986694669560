import FilterBook.Proofs.Figures
import FilterBook.Proofs.Resolution
import Mathlib.Data.List.DropRight

/-!
No text says two dates. The strict reader and the lenient ones take the same fields off the front of
a text, so they can differ only in what stands behind the date: nothing, the letter and a time of
day, a time of day after any blanks, or a time of day with an offset. No text goes on in two of
these ways. A reader without room for a fraction reads nothing that the one with room for it does
not read as well. So it makes no difference in which order the readers are tried.
-/

namespace FilterBook

/-- The moment of a text, if the ways to write a date are tried in that order. -/
def Scalar.momentBy (order : List (List Char → Option Moment)) (text : String) :
    Except Error Moment :=
  match order.findSome? fun reader => reader (trim text.toList) with
  | some moment => .ok moment
  | none => .error (.invalidDate (.string text) .unrecognized)

theorem Scalar.momentBy_readers (text : String) :
    momentBy Date.readers text = (string text).moment := by
  unfold moment
  rfl

namespace Date

/-- Hour, minute and second, leniently. -/
def timeOfDay : Part (Nat × Nat × Nat) := fun text => do
  let (hour, rest) ← lenient text
  let ((), rest) ← literal ':' rest
  let (minute, rest) ← lenient rest
  let ((), rest) ← literal ':' rest
  let (second, rest) ← lenient rest
  some ((hour, minute, second), rest)

/-- What a text leaves behind a time of day with any fraction. -/
def behindTime (text : List Char) : Option (List Char) := do
  let (_, rest) ← timeOfDay text
  let (_, rest) ← optionalFraction rest
  some rest

/-- The ways in which a text may go on behind its date. -/
inductive Form where
  | offset
  | clock (separator : Separator)
  | bare
deriving DecidableEq, Repr

namespace Form

/-- The reader of that form that takes the most texts. -/
def reader : Form → List Char → Option Moment
  | offset => whole withOffset
  | clock separator => whole (withoutOffset separator true)
  | bare => whole midnight

/-- What stands behind the date of a text of that form. -/
inductive Behind : Form → List Char → Prop
  | offset {mark : Char} {after zone : List Char} (hmark : mark ∈ ['T', 't', ' '])
      (htime : behindTime after = some zone) (hzone : zone ≠ []) : Behind .offset (mark :: after)
  | letter {after : List Char} (htime : behindTime after = some []) :
      Behind (.clock .letter) ('T' :: after)
  | blanks {behind : List Char} (htime : behindTime behind = some []) :
      Behind (.clock .blanks) behind
  | bare : Behind .bare []

end Form

section Fields

variable {least most n : Nat} {text rest : List Char}

/-- A number starts with the row of its digits. -/
theorem digits_eq_some (h : digits least most text = some (n, rest)) :
    ∃ row, text = row ++ rest ∧ (∀ c ∈ row, c.isDigit = true) ∧ least ≤ row.length := by
  obtain ⟨row, hrow⟩ : ∃ row, (text.take most).takeWhile Char.isDigit = row := ⟨_, rfl⟩
  have hfront : row <+: text := by
    rw [← hrow]
    exact (List.takeWhile_prefix _).trans (List.take_prefix most text)
  have hdigits : ∀ c ∈ row, c.isDigit = true := by
    intro c hc
    rw [← hrow] at hc
    exact List.all_eq_true.mp List.all_takeWhile c hc
  simp only [digits, hrow] at h
  split at h
  · cases h
  rename_i hleast
  obtain ⟨-, rfl⟩ := Prod.mk.inj (Option.some.inj h)
  exact ⟨row, (List.prefix_iff_eq_append.mp hfront).symm, hdigits, Nat.le_of_not_lt hleast⟩

/-- Asking for fewer digits reads the same number. -/
theorem digits_of_le {fewer : Nat} (hfewer : fewer ≤ least)
    (h : digits least most text = some (n, rest)) : digits fewer most text = some (n, rest) := by
  simp only [digits] at h ⊢
  split at h
  · cases h
  rename_i hleast
  rw [if_neg (by omega)]
  exact h

theorem ne_nil_of_digits {row : List Char} (hleast : 0 < least) (hrow : least ≤ row.length) :
    row ≠ [] :=
  List.ne_nil_of_length_pos (Nat.lt_of_lt_of_le hleast hrow)

/-- Two digits are read leniently as they are read strictly. -/
theorem lenient_of_digits (h : digits 2 2 text = some (n, rest)) :
    lenient text = some (n, rest) := by
  obtain ⟨row, rfl, hdigits, hlength⟩ := digits_eq_some h
  rw [lenient, trimStart_append (ne_nil_of_digits Nat.two_pos hlength) hdigits]
  exact digits_of_le (by decide) h

/-- Four digits are read as a year without a sign. -/
theorem year_of_digits (h : digits 4 4 text = some (n, rest)) :
    year text = some ((n : Int), rest) := by
  obtain ⟨row, rfl, hdigits, hlength⟩ := digits_eq_some h
  rw [year_of_isDigit (ne_nil_of_digits (by decide) hlength) hdigits,
    digits_of_le (by decide) h]
  rfl

theorem lenient_trimStart (text : List Char) : lenient (trimStart text) = lenient text := by
  rw [lenient, lenient, trimStart, trimStart, List.dropWhile_idempotent]

theorem behindTime_trimStart (text : List Char) :
    behindTime (trimStart text) = behindTime text := by
  rw [behindTime, behindTime, timeOfDay, timeOfDay, lenient_trimStart]

theorem behindTime_blank (text : List Char) : behindTime (' ' :: text) = behindTime text := by
  rw [← behindTime_trimStart, ← behindTime_trimStart text]
  rfl

/-- A letter is no time of day. -/
theorem behindTime_letter {mark : Char} (hmark : mark ∈ ['T', 't']) (text : List Char) :
    behindTime (mark :: text) = none := by
  simp only [List.mem_cons, List.not_mem_nil, or_false] at hmark
  rcases hmark with rfl | rfl <;> rfl

theorem behindTime_nil : behindTime [] = none := rfl

theorem behindTime_eq {time : Nat × Nat × Nat} {nanosecond : Nat} {tail zone : List Char}
    (htime : timeOfDay text = some (time, tail))
    (hfraction : optionalFraction tail = some (nanosecond, zone)) :
    behindTime text = some zone := by
  simp only [behindTime, ↓bind_of_eq_some htime, ↓bind_of_eq_some hfraction]

theorem dateTimeMark_eq_some (h : dateTimeMark text = some ((), rest)) :
    ∃ mark ∈ ['T', 't', ' '], text = mark :: rest := by
  unfold dateTimeMark at h
  split at h
  · cases h
    exact ⟨'T', by decide, rfl⟩
  · cases h
    exact ⟨'t', by decide, rfl⟩
  · cases h
    exact ⟨' ', by decide, rfl⟩
  · cases h

end Fields

section Readers

variable {text : List Char} {m : Moment}

theorem whole_eq_some_iff {α : Type} {part : Part α} {value : α} :
    whole part text = some value ↔ part text = some (value, []) := by
  unfold whole
  split
  · rename_i found hfound
    rw [hfound]
    simp
  · rename_i hother
    constructor
    · exact nofun
    · exact fun h => absurd h (hother value)

/-- The fields of fixed width are read by the lenient scanners as well. -/
theorem withOffset_eq_some {rest : List Char} (h : withOffset text = some (m, rest)) :
    ∃ d mark after zone seconds, date text = some (d, mark :: after) ∧ mark ∈ ['T', 't', ' '] ∧
      behindTime after = some zone ∧ offset zone = some (seconds, rest) := by
  obtain ⟨⟨y, _⟩, hyear, h⟩ := Option.bind_eq_some_iff.mp h
  obtain ⟨⟨_, _⟩, hfirst, h⟩ := Option.bind_eq_some_iff.mp h
  obtain ⟨⟨month, _⟩, hmonth, h⟩ := Option.bind_eq_some_iff.mp h
  obtain ⟨⟨_, _⟩, hsecond, h⟩ := Option.bind_eq_some_iff.mp h
  obtain ⟨⟨day, behind⟩, hday, h⟩ := Option.bind_eq_some_iff.mp h
  obtain ⟨⟨_, after⟩, hmark, h⟩ := Option.bind_eq_some_iff.mp h
  obtain ⟨⟨hour, _⟩, hhour, h⟩ := Option.bind_eq_some_iff.mp h
  obtain ⟨⟨_, _⟩, hcolon, h⟩ := Option.bind_eq_some_iff.mp h
  obtain ⟨⟨minute, _⟩, hminute, h⟩ := Option.bind_eq_some_iff.mp h
  obtain ⟨⟨_, _⟩, hcolon', h⟩ := Option.bind_eq_some_iff.mp h
  obtain ⟨⟨second, tail⟩, hsecond', h⟩ := Option.bind_eq_some_iff.mp h
  obtain ⟨⟨nanosecond, zone⟩, hfraction, h⟩ := Option.bind_eq_some_iff.mp h
  obtain ⟨⟨seconds, _⟩, hoffset, h⟩ := Option.bind_eq_some_iff.mp h
  obtain ⟨moment, -, h⟩ := Option.bind_eq_some_iff.mp h
  obtain ⟨-, rfl⟩ := Prod.mk.inj (Option.some.inj h)
  obtain ⟨mark, hmem, rfl⟩ := dateTimeMark_eq_some hmark
  have hdate : date text = some (⟨y, month, day⟩, mark :: after) := by
    simp only [date, ↓bind_of_eq_some (year_of_digits hyear), ↓bind_of_eq_some hfirst,
      ↓bind_of_eq_some (lenient_of_digits hmonth), ↓bind_of_eq_some hsecond,
      ↓bind_of_eq_some (lenient_of_digits hday)]
  have htime : timeOfDay after = some ((hour, minute, second), tail) := by
    simp only [timeOfDay, ↓bind_of_eq_some (lenient_of_digits hhour), ↓bind_of_eq_some hcolon,
      ↓bind_of_eq_some (lenient_of_digits hminute), ↓bind_of_eq_some hcolon',
      ↓bind_of_eq_some (lenient_of_digits hsecond')]
  exact ⟨_, mark, after, zone, seconds, hdate, hmem, behindTime_eq htime hfraction, hoffset⟩

theorem literal_eq_some {c : Char} {rest : List Char} (h : literal c text = some ((), rest)) :
    text = c :: rest := by
  unfold literal at h
  split at h
  · split at h
    · rename_i hfirst
      cases h
      rw [hfirst]
    · cases h
  · cases h

/-- The lenient readers go on alike once the date and the separator are read. -/
theorem withoutOffset_eq (separator : Separator) (allowsFraction : Bool) (text : List Char) :
    withoutOffset separator allowsFraction text = (do
      let (d, rest) ← date text
      let ((), rest) ← separator.part rest
      let ((hour, minute, second), rest) ← timeOfDay rest
      let (nanosecond, rest) ← if allowsFraction then optionalFraction rest else some (0, rest)
      let moment ← Moment.ofClock? d hour minute second nanosecond
      some (moment, rest)) := by
  simp only [withoutOffset, timeOfDay, Option.bind_eq_bind, Option.bind_assoc]
  rfl

/-- At the end of a text there is no fraction, so room for one changes nothing. -/
theorem whole_withFraction {separator : Separator}
    (h : whole (withoutOffset separator false) text = some m) :
    whole (withoutOffset separator true) text = some m := by
  rw [whole_eq_some_iff, withoutOffset_eq] at h ⊢
  obtain ⟨⟨d, behind⟩, hdate, h⟩ := Option.bind_eq_some_iff.mp h
  obtain ⟨⟨_, after⟩, hpart, h⟩ := Option.bind_eq_some_iff.mp h
  obtain ⟨⟨⟨hour, minute, second⟩, tail⟩, htime, h⟩ := Option.bind_eq_some_iff.mp h
  obtain ⟨moment, hclock, h⟩ := Option.bind_eq_some_iff.mp h
  obtain ⟨rfl, rfl⟩ := Prod.mk.inj (Option.some.inj h)
  have hfraction : optionalFraction [] = some (0, []) := rfl
  simp only [↓bind_of_eq_some hdate, ↓bind_of_eq_some hpart, ↓bind_of_eq_some htime, ↓reduceIte,
    ↓bind_of_eq_some hfraction, hclock]
  rfl

theorem behind_separator {separator : Separator} {behind after : List Char}
    (hpart : separator.part behind = some ((), after)) (htime : behindTime after = some []) :
    (Form.clock separator).Behind behind := by
  cases separator with
  | letter =>
      rw [literal_eq_some hpart]
      exact .letter htime
  | blanks =>
      obtain ⟨-, rfl⟩ := Prod.mk.inj (Option.some.inj hpart)
      rw [behindTime_trimStart] at htime
      exact .blanks htime

namespace Form

/-- What a reader has taken goes on behind the date in the way of its form. -/
theorem behind_of_reader {form : Form} (h : form.reader text = some m) :
    ∃ d behind, date text = some (d, behind) ∧ form.Behind behind := by
  cases form with
  | offset =>
      obtain ⟨d, mark, after, zone, seconds, hdate, hmark, htime, hoffset⟩ :=
        withOffset_eq_some (whole_eq_some_iff.mp h)
      have hzone : zone ≠ [] := by
        rintro rfl
        cases hoffset
      exact ⟨d, _, hdate, .offset hmark htime hzone⟩
  | clock separator =>
      rw [reader, whole_eq_some_iff, withoutOffset_eq] at h
      obtain ⟨⟨d, behind⟩, hdate, h⟩ := Option.bind_eq_some_iff.mp h
      obtain ⟨⟨_, after⟩, hpart, h⟩ := Option.bind_eq_some_iff.mp h
      obtain ⟨⟨_, tail⟩, htime, h⟩ := Option.bind_eq_some_iff.mp h
      obtain ⟨⟨nanosecond, rest⟩, hfraction, h⟩ := Option.bind_eq_some_iff.mp h
      obtain ⟨moment, -, h⟩ := Option.bind_eq_some_iff.mp h
      obtain ⟨-, rfl⟩ := Prod.mk.inj (Option.some.inj h)
      exact ⟨d, behind, hdate, behind_separator hpart (behindTime_eq htime hfraction)⟩
  | bare =>
      obtain ⟨⟨d, behind⟩, hdate, h⟩ := Option.bind_eq_some_iff.mp (whole_eq_some_iff.mp h)
      obtain ⟨moment, -, h⟩ := Option.bind_eq_some_iff.mp h
      obtain ⟨-, rfl⟩ := Prod.mk.inj (Option.some.inj h)
      exact ⟨d, [], hdate, .bare⟩

/-- A time of day that ends the text is not followed by an offset. -/
theorem Behind.not_offset {behind : List Char} {separator : Separator}
    (h : (clock separator).Behind behind) : ¬ Form.offset.Behind behind := by
  intro h'
  cases h' with
  | offset hmark htime hzone =>
      cases h with
      | letter htime' => exact hzone (Option.some.inj (htime.symm.trans htime'))
      | blanks htime' =>
          simp only [List.mem_cons, List.not_mem_nil, or_false] at hmark
          rcases hmark with rfl | rfl | rfl
          · rw [behindTime_letter (by decide)] at htime'
            cases htime'
          · rw [behindTime_letter (by decide)] at htime'
            cases htime'
          · rw [behindTime_blank, htime] at htime'
            exact hzone (Option.some.inj htime')

/-- The letter is not passed over as a blank. -/
theorem Behind.separator_unique {behind : List Char} {separator other : Separator}
    (h : (clock separator).Behind behind) (h' : (clock other).Behind behind) :
    separator = other := by
  cases h with
  | letter _ =>
      cases h' with
      | letter _ => rfl
      | blanks htime =>
          rw [behindTime_letter (by decide)] at htime
          cases htime
  | blanks htime =>
      cases h' with
      | letter _ =>
          rw [behindTime_letter (by decide)] at htime
          cases htime
      | blanks _ => rfl

theorem Behind.clock_ne_nil {behind : List Char} {separator : Separator}
    (h : (clock separator).Behind behind) : behind ≠ [] := by
  rintro rfl
  cases h with
  | blanks htime =>
      rw [behindTime_nil] at htime
      cases htime

/-- A date goes on in one way only. -/
theorem Behind.unique {form other : Form} {behind : List Char} (h : form.Behind behind)
    (h' : other.Behind behind) : form = other := by
  cases form with
  | offset =>
      cases other with
      | offset => rfl
      | clock separator => exact absurd h h'.not_offset
      | bare =>
          cases h'
          cases h
  | clock separator =>
      cases other with
      | offset => exact absurd h' h.not_offset
      | clock separator' => rw [h.separator_unique h']
      | bare =>
          cases h'
          exact absurd rfl h.clock_ne_nil
  | bare =>
      cases other with
      | offset =>
          cases h
          cases h'
      | clock separator =>
          cases h
          exact absurd rfl h'.clock_ne_nil
      | bare => rfl

theorem unique {form other : Form} {n : Moment} (h : form.reader text = some m)
    (h' : other.reader text = some n) : form = other := by
  obtain ⟨d, behind, hdate, hbehind⟩ := behind_of_reader h
  obtain ⟨d', behind', hdate', hbehind'⟩ := behind_of_reader h'
  obtain ⟨-, rfl⟩ := Prod.mk.inj (Option.some.inj (hdate.symm.trans hdate'))
  exact hbehind.unique hbehind'

end Form

/-- What any of the readers takes is read alike by the one of its form. -/
theorem exists_form {reader : List Char → Option Moment} (hreader : reader ∈ readers)
    (h : reader text = some m) : ∃ form : Form, form.reader text = some m := by
  simp only [readers, List.mem_cons, List.not_mem_nil, or_false] at hreader
  rcases hreader with rfl | rfl | rfl | rfl | rfl | rfl
  · exact ⟨.offset, h⟩
  · exact ⟨.clock .letter, whole_withFraction h⟩
  · exact ⟨.clock .letter, h⟩
  · exact ⟨.clock .blanks, whole_withFraction h⟩
  · exact ⟨.clock .blanks, h⟩
  · exact ⟨.bare, h⟩

theorem eq_of_readers {reader other : List Char → Option Moment} (hreader : reader ∈ readers)
    (hother : other ∈ readers) {n : Moment} (h : reader text = some m)
    (h' : other text = some n) : m = n := by
  obtain ⟨form, hform⟩ := exists_form hreader h
  obtain ⟨form', hform'⟩ := exists_form hother h'
  obtain rfl := Form.unique hform hform'
  exact Option.some.inj (hform.symm.trans hform')

/-- Whichever reader comes first, the moment is the same. -/
theorem findSome?_of_perm {order : List (List Char → Option Moment)} (h : order.Perm readers)
    (text : List Char) : (order.findSome? fun reader => reader text) = read? text := by
  cases hread : read? text with
  | none =>
      rw [read?, List.findSome?_eq_none_iff] at hread
      rw [List.findSome?_eq_none_iff]
      exact fun reader hreader => hread reader (h.mem_iff.mp hreader)
  | some m =>
      obtain ⟨reader, hreader, hm⟩ := List.exists_of_findSome?_eq_some hread
      have hsome : (order.findSome? fun reader => reader text).isSome = true :=
        List.findSome?_isSome_iff.mpr ⟨reader, h.mem_iff.mpr hreader, by rw [hm]; rfl⟩
      obtain ⟨n, hn⟩ := Option.isSome_iff_exists.mp hsome
      obtain ⟨other, hother, hn'⟩ := List.exists_of_findSome?_eq_some hn
      rw [hn, eq_of_readers (h.mem_iff.mp hother) hreader hn' hm]

end Readers

/-- Readers that take the same text, blanks at its ends aside, read the same moment. So the date of
a text, or the error if it has none, does not hang on the order of the readers. And a text that a
reader takes without room for a fraction is taken with room for one. -/
theorem readers_unambiguous (text : String) :
    (∀ reader ∈ readers, ∀ other ∈ readers, ∀ m n,
      reader (trim text.toList) = some m → other (trim text.toList) = some n → m = n) ∧
    (∀ order : List (List Char → Option Moment), order.Perm readers →
      Scalar.momentBy order text = (Scalar.string text).moment) ∧
    ∀ separator m, whole (withoutOffset separator false) (trim text.toList) = some m →
      whole (withoutOffset separator true) (trim text.toList) = some m := by
  refine ⟨fun reader hreader other hother m n => eq_of_readers hreader hother, ?_,
    fun separator m => whole_withFraction⟩
  intro order horder
  rw [← Scalar.momentBy_readers, Scalar.momentBy, Scalar.momentBy, findSome?_of_perm horder,
    findSome?_of_perm (.refl readers)]

/-- A leap second, which two of the readers take. -/
def leapSecond : String :=
  " +2016-12-31 23:59:60 "

theorem readers_unambiguous_leapSecond :
    ∃ m, whole (withoutOffset .blanks false) (trim leapSecond.toList) = some m ∧
      whole (withoutOffset .blanks true) (trim leapSecond.toList) = some m ∧
      Scalar.momentBy readers.reverse leapSecond = (Scalar.string leapSecond).moment := by
  obtain ⟨hagree, horder, hfraction⟩ := readers_unambiguous leapSecond
  have hread : whole (withoutOffset .blanks false) (trim leapSecond.toList) =
      some ⟨17166, 86399, 1000000000⟩ := by
    rfl
  exact ⟨_, hread, hfraction _ _ hread, horder _ (List.reverse_perm readers)⟩

end Date

end FilterBook
