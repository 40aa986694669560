import FilterBook.Date.Read
import FilterBook.Proofs.Calendar

/-!
Numbers in a fixed count of figures, and dates and times of day in such numbers. The scanners of
dates read them back whatever stands behind them, the strict ones and the lenient ones alike.
-/

namespace FilterBook

/-- The last `width` figures of a number. -/
def figures : Nat → Nat → List Char
  | 0, _ => []
  | width + 1, n => figures width (n / 10) ++ [Nat.digitChar (n % 10)]

namespace Date

/-- Year, month and day in four, two and two figures. -/
def figuresOfDate (d : CivilDate) : List Char :=
  figures 4 d.year.toNat ++ '-' :: (figures 2 d.month ++ '-' :: figures 2 d.day)

/-- Hour, minute and second in two figures each. -/
def figuresOfTime (hour minute second : Nat) : List Char :=
  figures 2 hour ++ ':' :: (figures 2 minute ++ ':' :: figures 2 second)

/-- A point and the digits after it, or nothing. -/
def figuresOfFraction (digits : List Char) : List Char :=
  if digits = [] then [] else '.' :: digits

/-- A text that does not go on with a digit. -/
def EndsDigits (rest : List Char) : Prop :=
  ∀ c ∈ rest.head?, c.isDigit = false

end Date

section Figures

@[simp]
theorem length_figures (width n : Nat) : (figures width n).length = width := by
  induction width generalizing n with
  | zero => rfl
  | succ width ih => rw [figures, List.length_append, ih, List.length_singleton]

theorem figures_ne_nil {width n : Nat} (h : 0 < width) : figures width n ≠ [] :=
  List.ne_nil_of_length_pos (by rw [length_figures]; exact h)

theorem isDigit_of_mem_figures {width n : Nat} {c : Char} (h : c ∈ figures width n) :
    c.isDigit = true := by
  induction width generalizing n with
  | zero => cases h
  | succ width ih =>
      rcases List.mem_append.mp h with hfront | hlast
      · exact ih hfront
      · rw [List.mem_singleton.mp hlast, Nat.isDigit_digitChar]
        exact decide_eq_true (Nat.mod_lt _ (by decide))

/-- The figures of a number have its value, if there are enough of them. -/
theorem ofDigitChars_figures {width n : Nat} (h : n < Nat.pow 10 width) :
    Nat.ofDigitChars 10 (figures width n) 0 = n := by
  induction width generalizing n with
  | zero =>
      have hzero : n = 0 := Nat.lt_one_iff.mp h
      rw [hzero]
      rfl
  | succ width ih =>
      have hfront : n / 10 < Nat.pow 10 width := Nat.div_lt_of_lt_mul (by
        rw [Nat.mul_comm]
        exact h)
      rw [figures, Nat.ofDigitChars_append, ih hfront, Nat.ofDigitChars_cons,
        Nat.toNat_digitChar_of_lt_ten (Nat.mod_lt _ (by decide))]
      show 10 * (n / 10) + (48 + n % 10 - 48) = n
      omega

theorem figures_zero (width : Nat) : figures width 0 = List.replicate width '0' := by
  induction width with
  | zero => rfl
  | succ width ih =>
      rw [figures, Nat.zero_div, ih, List.replicate_succ']
      rfl

/-- A number that has no more digits than are asked for is written in that many figures. -/
theorem padded_eq_figures {width n : Nat} (hwidth : 0 < width) (h : n < Nat.pow 10 width) :
    Moment.padded width n = figures width n := by
  induction width generalizing n with
  | zero => exact absurd hwidth (Nat.lt_irrefl 0)
  | succ width ih =>
      rw [figures, Moment.padded, Number.writeNat]
      by_cases hn : n < 10
      · rw [Nat.toDigits_of_lt_base hn, Nat.div_eq_of_lt hn, Nat.mod_eq_of_lt hn, figures_zero]
        rfl
      · have hlead : 0 < n / 10 := Nat.div_pos (Nat.le_of_not_lt hn) (by decide)
        have hfront : n / 10 < Nat.pow 10 width := Nat.div_lt_of_lt_mul (by
          rw [Nat.mul_comm]
          exact h)
        have hwidth' : 0 < width := by
          cases width with
          | zero => exact absurd hfront (Nat.not_lt.mpr hlead)
          | succ width => exact Nat.succ_pos width
        rw [Nat.toDigits_of_base_le (by decide) (Nat.le_of_not_lt hn), ← ih hwidth' hfront,
          Moment.padded, Number.writeNat, List.length_append, List.length_singleton,
          Nat.add_sub_add_right, List.append_assoc]

theorem padded_ne_nil (width n : Nat) : Moment.padded width n ≠ [] :=
  List.append_ne_nil_of_right_ne_nil _ Nat.toDigits_ne_nil

theorem isDigit_of_mem_padded {width n : Nat} {c : Char} (h : c ∈ Moment.padded width n) :
    c.isDigit = true := by
  rcases List.mem_append.mp h with hzero | hdigit
  · rw [List.eq_of_mem_replicate hzero]
    rfl
  · exact Nat.isDigit_of_mem_toDigits (by decide) (by decide) hdigit

theorem ofDigitChars_padded (width n : Nat) :
    Nat.ofDigitChars 10 (Moment.padded width n) 0 = n := by
  rw [Moment.padded, Nat.ofDigitChars_append, Nat.ofDigitChars_replicate_zero, Nat.mul_zero]
  exact Nat.ofDigitChars_toDigits (by decide) (by decide)

end Figures

section Rows

/-- The value of a row of digits after a number. -/
theorem ofDigitChars_from (row : List Char) (n : Nat) :
    Nat.ofDigitChars 10 row n = n * Nat.pow 10 row.length + Nat.ofDigitChars 10 row 0 := by
  induction row generalizing n with
  | nil => exact (Nat.mul_one n).symm
  | cons c row ih =>
      rw [Nat.ofDigitChars_cons, Nat.ofDigitChars_cons, ih, ih (10 * 0 + _), List.length_cons]
      show _ = n * (Nat.pow 10 row.length * 10) + _
      rw [← Nat.mul_assoc, Nat.add_mul, Nat.mul_zero, Nat.zero_add, Nat.add_assoc,
        Nat.mul_comm 10 n, Nat.mul_assoc, Nat.mul_comm 10 (Nat.pow 10 row.length), Nat.mul_assoc]

/-- A row of digits has a value of no more digits. -/
theorem ofDigitChars_lt {row : List Char} (hdigits : ∀ c ∈ row, c.isDigit = true) :
    Nat.ofDigitChars 10 row 0 < Nat.pow 10 row.length := by
  induction row with
  | nil => exact Nat.one_pos
  | cons c row ih =>
      obtain ⟨hc, hrow⟩ := List.forall_mem_cons.mp hdigits
      have hdigit : c.toNat - '0'.toNat ≤ 9 := by
        have hbounds : 48 ≤ c.toNat ∧ c.toNat ≤ 57 := by
          simpa [Char.isDigit, UInt32.le_iff_toNat_le] using hc
        show c.toNat - 48 ≤ 9
        omega
      rw [Nat.ofDigitChars_cons, ofDigitChars_from, List.length_cons, Nat.mul_zero, Nat.zero_add]
      calc (c.toNat - '0'.toNat) * Nat.pow 10 row.length + Nat.ofDigitChars 10 row 0
          < (c.toNat - '0'.toNat) * Nat.pow 10 row.length + Nat.pow 10 row.length :=
            Nat.add_lt_add_left (ih hrow) _
        _ = (c.toNat - '0'.toNat + 1) * Nat.pow 10 row.length := (Nat.succ_mul _ _).symm
        _ ≤ 10 * Nat.pow 10 row.length := Nat.mul_le_mul_right _ (Nat.succ_le_succ hdigit)
        _ = Nat.pow 10 (row.length + 1) := Nat.mul_comm _ _

theorem isSpace_of_isDigit {c : Char} (h : c.isDigit = true) : isSpace c = false := by
  have hbounds : 48 ≤ c.toNat ∧ c.toNat ≤ 57 := by
    simpa [Char.isDigit, UInt32.le_iff_toNat_le] using h
  simp only [isSpace, Bool.or_eq_false_iff, Bool.and_eq_false_iff, decide_eq_false_iff_not,
    beq_eq_false_iff_ne]
  omega

end Rows

namespace Date

variable {row rest : List Char}

theorem takeWhile_take_of_endsDigits (h : EndsDigits rest) (count : Nat) :
    (rest.take count).takeWhile Char.isDigit = [] := by
  cases rest with
  | nil => rw [List.take_nil, List.takeWhile_nil]
  | cons c rest =>
      cases count with
      | zero => rfl
      | succ count => rw [List.take_succ_cons, List.takeWhile_cons, if_neg (by simp [h c rfl])]

/-- A row of digits is read as far as may be, if no digit follows where that is beyond its end. -/
theorem takeWhile_take_append {most : Nat} (hdigits : ∀ c ∈ row, c.isDigit = true)
    (hend : most ≤ row.length ∨ EndsDigits rest) :
    ((row ++ rest).take most).takeWhile Char.isDigit = row.take most := by
  have hfront : ∀ c ∈ row.take most, c.isDigit = true := fun c hc =>
    hdigits c (List.mem_of_mem_take hc)
  rw [List.take_append, List.takeWhile_append_of_pos hfront]
  rcases hend with hlength | hrest
  · rw [Nat.sub_eq_zero_of_le hlength, List.take_zero, List.takeWhile_nil, List.append_nil]
  · rw [takeWhile_take_of_endsDigits hrest, List.append_nil]

theorem digits_append {least most : Nat} (hdigits : ∀ c ∈ row, c.isDigit = true)
    (hleast : least ≤ row.length) (hmost : row.length ≤ most)
    (hend : most ≤ row.length ∨ EndsDigits rest) :
    digits least most (row ++ rest) = some (Nat.ofDigitChars 10 row 0, rest) := by
  rw [digits, takeWhile_take_append hdigits hend, List.take_of_length_le hmost,
    if_neg (Nat.not_lt.mpr hleast), List.drop_left]

theorem digits_figures {width n : Nat} (h : n < Nat.pow 10 width) (rest : List Char) :
    digits width width (figures width n ++ rest) = some (n, rest) := by
  have hlength := length_figures width n
  rw [digits_append (fun _ => isDigit_of_mem_figures) hlength.ge hlength.le (Or.inl hlength.ge),
    ofDigitChars_figures h]

theorem trimStart_append (hne : row ≠ []) (hdigits : ∀ c ∈ row, c.isDigit = true) :
    trimStart (row ++ rest) = row ++ rest := by
  cases row with
  | nil => exact absurd rfl hne
  | cons c row =>
      have hc : isSpace c = false := isSpace_of_isDigit (hdigits c List.mem_cons_self)
      rw [List.cons_append, trimStart, List.dropWhile_cons, hc]
      rfl

theorem lenient_figures {n : Nat} (h : n < 100) (rest : List Char) :
    lenient (figures 2 n ++ rest) = some (n, rest) := by
  have hdigits : ∀ c ∈ figures 2 n, c.isDigit = true := fun _ => isDigit_of_mem_figures
  have hlength := length_figures 2 n
  rw [lenient, trimStart_append (figures_ne_nil (by decide)) hdigits,
    digits_append hdigits (by rw [hlength]; decide) hlength.le (Or.inl hlength.ge),
    ofDigitChars_figures h]

/-- A year that starts with a digit has no sign. -/
theorem year_of_isDigit (hne : row ≠ []) (hdigits : ∀ c ∈ row, c.isDigit = true) :
    year (row ++ rest) = (digits 1 4 (row ++ rest)).map fun (n, rest) => ((n : Int), rest) := by
  rw [year, trimStart_append hne hdigits]
  obtain ⟨c, row, rfl⟩ := List.exists_cons_of_ne_nil hne
  have hc : c.isDigit = true := hdigits c List.mem_cons_self
  rw [List.cons_append]
  split
  · rename_i heq
    obtain ⟨rfl, -⟩ := List.cons_eq_cons.mp heq
    exact absurd hc (by decide)
  · rename_i heq
    obtain ⟨rfl, -⟩ := List.cons_eq_cons.mp heq
    exact absurd hc (by decide)
  · rfl

theorem year_figures {n : Nat} (h : n < 10000) (rest : List Char) :
    year (figures 4 n ++ rest) = some ((n : Int), rest) := by
  have hdigits : ∀ c ∈ figures 4 n, c.isDigit = true := fun _ => isDigit_of_mem_figures
  have hlength := length_figures 4 n
  rw [year_of_isDigit (figures_ne_nil (by decide)) hdigits,
    digits_append hdigits (by rw [hlength]; decide) hlength.le (Or.inl hlength.ge),
    ofDigitChars_figures h]
  rfl

/-- After a sign a year may have any number of digits. -/
theorem digits_of_signed (hne : row ≠ []) (hdigits : ∀ c ∈ row, c.isDigit = true)
    (hrest : EndsDigits rest) :
    digits 1 (row ++ rest).length (row ++ rest) = some (Nat.ofDigitChars 10 row 0, rest) := by
  have hlength : row.length ≤ (row ++ rest).length := by
    rw [List.length_append]
    exact Nat.le_add_right _ _
  exact digits_append hdigits (List.length_pos_iff.mpr hne) hlength (Or.inr hrest)

theorem year_minus (hne : row ≠ []) (hdigits : ∀ c ∈ row, c.isDigit = true)
    (hrest : EndsDigits rest) :
    year ('-' :: (row ++ rest)) = some (-(Nat.ofDigitChars 10 row 0 : Int), rest) := by
  show (digits 1 (row ++ rest).length (row ++ rest)).map _ = _
  rw [digits_of_signed hne hdigits hrest]
  rfl

theorem year_plus (hne : row ≠ []) (hdigits : ∀ c ∈ row, c.isDigit = true)
    (hrest : EndsDigits rest) :
    year ('+' :: (row ++ rest)) = some ((Nat.ofDigitChars 10 row 0 : Int), rest) := by
  show (digits 1 (row ++ rest).length (row ++ rest)).map _ = _
  rw [digits_of_signed hne hdigits hrest]
  rfl

/-- A year is read as it was written, whether it has a sign or not. -/
theorem year_writeYear (y : Int) (hrest : EndsDigits rest) :
    year (Moment.writeYear y ++ rest) = some (y, rest) := by
  have hne := padded_ne_nil 4 y.natAbs
  have hdigits : ∀ c ∈ Moment.padded 4 y.natAbs, c.isDigit = true := fun _ => isDigit_of_mem_padded
  rw [Moment.writeYear]
  by_cases hfour : 0 ≤ y ∧ y ≤ 9999
  · have hlt : y.toNat < 10000 := by omega
    rw [if_pos hfour, padded_eq_figures (by decide) hlt, year_figures hlt,
      Int.toNat_of_nonneg hfour.1]
  · rw [if_neg hfour, List.cons_append]
    by_cases hneg : y < 0
    · have hvalue : -(y.natAbs : Int) = y := by omega
      rw [if_pos hneg, year_minus hne hdigits hrest, ofDigitChars_padded, hvalue]
    · have hvalue : (y.natAbs : Int) = y := by omega
      rw [if_neg hneg, year_plus hne hdigits hrest, ofDigitChars_padded, hvalue]

theorem literal_cons (c : Char) (rest : List Char) : literal c (c :: rest) = some ((), rest) :=
  if_pos rfl

section Steps

variable {β : Type} {n : Nat}

/-- A scanner that succeeds hands its value and the rest to what follows it. In a chain of scanners
this is to be used from the front: what follows is not to be rewritten before its text is known. -/
theorem bind_of_eq_some {α : Type} {part : Part α} {text : List Char} {result : α × List Char}
    (h : part text = some result) (next : α × List Char → Option β) :
    (part text >>= next) = next result := by
  rw [h]
  rfl

theorem literal_bind (c : Char) (rest : List Char) (next : Unit × List Char → Option β) :
    (literal c (c :: rest) >>= next) = next ((), rest) :=
  bind_of_eq_some (literal_cons c rest) next

theorem digits_two_bind (h : n < 100) (rest : List Char) (next : Nat × List Char → Option β) :
    (digits 2 2 (figures 2 n ++ rest) >>= next) = next (n, rest) :=
  bind_of_eq_some (digits_figures h rest) next

theorem digits_three_bind (h : n < 1000) (rest : List Char) (next : Nat × List Char → Option β) :
    (digits 3 3 (figures 3 n ++ rest) >>= next) = next (n, rest) :=
  bind_of_eq_some (digits_figures h rest) next

theorem lenient_bind (h : n < 100) (rest : List Char) (next : Nat × List Char → Option β) :
    (lenient (figures 2 n ++ rest) >>= next) = next (n, rest) :=
  bind_of_eq_some (lenient_figures h rest) next

end Steps

/-- The nanoseconds of some digits after a point. -/
def nanoseconds (digits : List Char) : Nat :=
  Nat.ofDigitChars 10 (digits.take 9) 0 * Nat.pow 10 (9 - (digits.take 9).length)

theorem nanoseconds_lt (hdigits : ∀ c ∈ row, c.isDigit = true) : nanoseconds row < 1000000000 := by
  have htaken : ∀ c ∈ row.take 9, c.isDigit = true := fun c hc =>
    hdigits c (List.mem_of_mem_take hc)
  have hlength : (row.take 9).length ≤ 9 := List.length_take_le 9 row
  calc nanoseconds row
      < Nat.pow 10 (row.take 9).length * Nat.pow 10 (9 - (row.take 9).length) :=
        Nat.mul_lt_mul_of_pos_right (ofDigitChars_lt htaken) (Nat.pow_pos (by decide))
    _ = Nat.pow 10 ((row.take 9).length + (9 - (row.take 9).length)) := (Nat.pow_add 10 _ _).symm
    _ = Nat.pow 10 9 := by rw [Nat.add_sub_cancel' hlength]

/-- Of the nanoseconds only the first three digits stand for whole milliseconds. -/
theorem nanoseconds_div (hdigits : ∀ c ∈ row, c.isDigit = true) :
    nanoseconds row / 1000000 = Nat.ofDigitChars 10 ((row ++ ['0', '0', '0']).take 3) 0 := by
  obtain ⟨wide, hwide⟩ : ∃ wide,
      row.take 9 ++ List.replicate (9 - (row.take 9).length) '0' = wide := ⟨_, rfl⟩
  have hvalue : nanoseconds row = Nat.ofDigitChars 10 wide 0 := by
    rw [← hwide, Nat.ofDigitChars_append, Nat.ofDigitChars_replicate_zero, nanoseconds,
      Nat.mul_comm]
    rfl
  have hlength : wide.length = 9 := by
    rw [← hwide, List.length_append, List.length_replicate]
    exact Nat.add_sub_cancel' (List.length_take_le 9 row)
  have hall : ∀ c ∈ wide.drop 3, c.isDigit = true := by
    intro c hc
    rw [← hwide] at hc
    rcases List.mem_append.mp (List.mem_of_mem_drop hc) with hrow | hzero
    · exact hdigits c (List.mem_of_mem_take hrow)
    · rw [List.eq_of_mem_replicate hzero]
      rfl
  have hfirst : wide.take 3 = (row ++ ['0', '0', '0']).take 3 := by
    rw [← hwide]
    rcases row with _ | ⟨first, _ | ⟨second, _ | ⟨third, row⟩⟩⟩
    · rfl
    · rfl
    · rfl
    · rfl
  have hlast : Nat.ofDigitChars 10 (wide.drop 3) 0 < 1000000 := by
    have hlt := ofDigitChars_lt hall
    rwa [List.length_drop, hlength] at hlt
  have hpower : Nat.pow 10 (9 - 3) = 1000000 := rfl
  rw [hvalue, ← hfirst]
  conv_lhs => rw [← List.take_append_drop 3 wide]
  rw [Nat.ofDigitChars_append, ofDigitChars_from, List.length_drop, hlength, hpower]
  omega

theorem fraction_append (hne : row ≠ []) (hdigits : ∀ c ∈ row, c.isDigit = true)
    (hrest : EndsDigits rest) : fraction (row ++ rest) = some (nanoseconds row, rest) := by
  have htaken : row.take 9 ≠ [] := by
    intro hnil
    exact hne ((List.take_eq_nil_iff.mp hnil).resolve_left (by decide))
  have hsplit : row ++ rest = row.take 9 ++ (row.drop 9 ++ rest) := by
    rw [← List.append_assoc, List.take_append_drop]
  have hdrop : (row ++ rest).drop (row.take 9).length = row.drop 9 ++ rest := by
    rw [hsplit, List.drop_left]
  have hpassed : ∀ c ∈ row.drop 9, c.isDigit = true := fun c hc =>
    hdigits c (List.mem_of_mem_drop hc)
  have hstop : rest.dropWhile Char.isDigit = rest := by
    cases rest with
    | nil => rfl
    | cons c rest => rw [List.dropWhile_cons, if_neg (by simp [hrest c rfl])]
  rw [fraction, takeWhile_take_append hdigits (Or.inr hrest), if_neg htaken, hdrop,
    List.dropWhile_append_of_pos hpassed, hstop, nanoseconds]

/-- A fraction is read where there is one, and none where the text goes on without a point. -/
theorem optionalFraction_append (hdigits : ∀ c ∈ row, c.isDigit = true) (hrest : EndsDigits rest)
    (hpoint : rest.head? ≠ some '.') :
    optionalFraction (figuresOfFraction row ++ rest) = some (nanoseconds row, rest) := by
  unfold figuresOfFraction
  by_cases hnil : row = []
  · rw [if_pos hnil, hnil, List.nil_append]
    unfold optionalFraction
    split
    · exact absurd rfl hpoint
    · rfl
  · rw [if_neg hnil, List.cons_append]
    exact fraction_append hnil hdigits hrest

theorem endsDigits_nil : EndsDigits [] := by
  intro c hc
  cases hc

theorem endsDigits_cons {c : Char} (h : c.isDigit = false) (rest : List Char) :
    EndsDigits (c :: rest) := by
  intro first hfirst
  obtain rfl := Option.some.inj hfirst
  exact h

/-- A date with a year of four digits is read leniently as it is read strictly. -/
theorem date_figures {d : CivilDate} (hyear : 0 ≤ d.year) (hyear' : d.year ≤ 9999)
    (hmonth : d.month < 100) (hday : d.day < 100) (rest : List Char) :
    date (figuresOfDate d ++ rest) = some (d, rest) := by
  have hfour : d.year.toNat < 10000 := by omega
  simp only [figuresOfDate, List.append_assoc, List.cons_append, date,
    ↓bind_of_eq_some (year_figures hfour _), ↓literal_bind, ↓lenient_bind hmonth,
    ↓lenient_bind hday, Int.toNat_of_nonneg hyear]

end Date

end FilterBook
