import FilterBook.Json.Scan
import FilterBook.Proofs.Outcome

/-!
The text of a document reads back as the document. Every scanner takes from the text what the writer
of its kind put there, and leaves what follows; so a document whose numbers are whole, and which
does not nest deeper than the scanner goes, is read without a flaw.
-/

namespace FilterBook.Json

open Outcome

/-- What may come after a value: the end, or what separates it from the next or closes the whole. -/
def Follows (rest : List Char) : Prop :=
  ∀ c ∈ rest.head?, c ∈ [',', ']', '\x7d']

theorem follows_nil : Follows [] := by
  rintro c ⟨⟩

theorem follows_cons {c : Char} {rest : List Char} (h : c ∈ [',', ']', '\x7d']) :
    Follows (c :: rest) := by
  rintro x ⟨⟩
  exact h

section Strings

theorem hexValue?_hexDigit (n : Nat) : hexValue? (hexDigit n) = some (n % 16) := by
  have hdigits : ∀ m < 16, hexValue? (Nat.digitChar m) = some m := by decide
  exact hdigits (n % 16) (Nat.mod_lt n (by decide))

theorem scanString_quote (read rest : List Char) :
    scanString read ('"' :: rest) = .ok (String.ofList read.reverse, rest) := by
  rw [scanString, if_pos rfl]

theorem scanString_backslash {text after : List Char} {c : Char}
    (h : scanEscape text = .ok (c, after)) (read : List Char) :
    scanString read ('\\' :: text) = scanString (c :: read) after := by
  rw [scanString, if_neg (by decide), if_pos rfl]
  split
  · rename_i c' after' heq
    cases heq.symm.trans h
    rfl
  · rename_i flaw heq
    cases heq.symm.trans h

theorem scanString_plain {c : Char} (hquote : c ≠ '"') (hbackslash : c ≠ '\\')
    (hcontrol : ¬ c.toNat < 32) (read rest : List Char) :
    scanString read (c :: rest) = scanString (c :: read) rest := by
  rw [scanString, if_neg hquote, if_neg hbackslash, if_neg hcontrol]

/-- A control character is written by its number. -/
theorem scanEscape_control {c : Char} (h : c.toNat < 32) (rest : List Char) :
    scanEscape ('u' :: '0' :: '0' :: hexDigit (c.toNat / 16) :: hexDigit c.toNat :: rest) =
      .ok (c, rest) := by
  have hzero : hexValue? '0' = some 0 := by decide
  have hvalue : ((0 * 16 + 0) * 16 + c.toNat / 16 % 16) * 16 + c.toNat % 16 = c.toNat := by omega
  have hhex : scanHex ('0' :: '0' :: hexDigit (c.toNat / 16) :: hexDigit c.toNat :: rest) =
      .ok (c.toNat, rest) := by
    simp only [scanHex, hzero, hexValue?_hexDigit, hvalue]
  have htrailing : isTrailingSurrogate c.toNat = false := by
    simp only [isTrailingSurrogate, Bool.and_eq_false_iff, decide_eq_false_iff_not]
    omega
  have hleading : isLeadingSurrogate c.toNat = false := by
    simp only [isLeadingSurrogate, Bool.and_eq_false_iff, decide_eq_false_iff_not]
    omega
  rw [scanEscape, scanUnicode, hhex]
  simp [htrailing, hleading, Char.ofNat_toNat]

/-- The scanner takes a character from the text as it is written there. -/
theorem scanString_escape (c : Char) (read rest : List Char) :
    scanString read (escape c ++ rest) = scanString (c :: read) rest := by
  unfold escape
  -- The seven characters that are written with one letter after a backslash.
  iterate 7
    split
    · rename_i h
      subst h
      exact scanString_backslash rfl read
  split
  · rename_i h
    exact scanString_backslash (scanEscape_control h rest) read
  · rename_i hquote hbackslash _ _ _ _ _ hcontrol
    exact scanString_plain hquote hbackslash hcontrol read rest

theorem scanString_flatMap_escape (text read rest : List Char) :
    scanString read (text.flatMap escape ++ '"' :: rest) =
      .ok (String.ofList (read.reverse ++ text), rest) := by
  induction text generalizing read with
  | nil => rw [List.flatMap_nil, List.nil_append, scanString_quote, List.append_nil]
  | cons c text ih =>
      rw [List.flatMap_cons, List.append_assoc, scanString_escape, ih, List.reverse_cons,
        List.append_assoc, List.singleton_append]

/-- A string in quotes reads back as it was. -/
theorem scanString_writeString (text : String) (rest : List Char) :
    ∃ tail, writeString text ++ rest = '"' :: tail ∧ scanString [] tail = .ok (text, rest) := by
  refine ⟨text.toList.flatMap escape ++ '"' :: rest, by simp [writeString], ?_⟩
  rw [scanString_flatMap_escape, List.reverse_nil, List.nil_append, String.ofList_toList]

end Strings

section Numbers

theorem Follows.head {c : Char} {rest : List Char} (h : Follows (c :: rest)) :
    c.isDigit = false ∧ c ≠ '.' ∧ c ≠ 'e' ∧ c ≠ 'E' := by
  have hc : c ∈ [',', ']', '\x7d'] := h c rfl
  simp only [List.mem_cons, List.not_mem_nil, or_false] at hc
  rcases hc with rfl | rfl | rfl <;> decide

/-- A row of digits ends where something follows the value. -/
theorem spanDigits_append {digits rest : List Char} (hdigits : ∀ c ∈ digits, c.isDigit = true)
    (hrest : Follows rest) : spanDigits (digits ++ rest) = (digits, rest) := by
  have hend : rest.takeWhile Char.isDigit = [] ∧ rest.dropWhile Char.isDigit = rest := by
    cases rest with
    | nil => exact ⟨rfl, rfl⟩
    | cons c rest => simp [hrest.head.1]
  rw [spanDigits, List.takeWhile_append_of_pos hdigits, List.dropWhile_append_of_pos hdigits,
    hend.1, hend.2, List.append_nil]

theorem scanDigits_append {digits rest : List Char} (hne : digits ≠ [])
    (hdigits : ∀ c ∈ digits, c.isDigit = true) (hrest : Follows rest) :
    scanDigits (digits ++ rest) = .ok (digits, rest) := by
  cases digits with
  | nil => exact absurd rfl hne
  | cons c digits =>
      have hc : c.isDigit = true := hdigits c List.mem_cons_self
      rw [List.cons_append, scanDigits, if_pos hc, ← List.cons_append,
        spanDigits_append hdigits hrest]

theorem scanFraction_of_follows {rest : List Char} (h : Follows rest) :
    scanFraction rest = .ok (none, rest) := by
  unfold scanFraction
  split
  · exact absurd rfl h.head.2.1
  · rfl

theorem scanExponent_of_follows {rest : List Char} (h : Follows rest) :
    scanExponent rest = .ok (none, rest) := by
  cases rest with
  | nil => rfl
  | cons c rest =>
      have hc : ¬ (c = 'e' ∨ c = 'E') := fun hc => hc.elim h.head.2.2.1 h.head.2.2.2
      show (if c = 'e' ∨ c = 'E' then _ else _) = _
      exact if_neg hc

/-- A number that is written in more than one digit does not start with zero. -/
theorem head?_toDigits {n : Nat} (h : 0 < n) : (Nat.toDigits 10 n).head? ≠ some '0' := by
  induction n using Nat.strongRecOn with
  | ind n ih =>
      by_cases hn : n < 10
      · have hdigits : ∀ m < 10, 0 < m → Nat.digitChar m ≠ '0' := by decide
        rw [Nat.toDigits_of_lt_base hn]
        simpa using hdigits n hn h
      · have hlead := ih (n / 10) (by omega) (by omega)
        rw [Nat.toDigits_of_base_le (by decide) (by omega), List.head?_append]
        cases hdigits : Nat.toDigits 10 (n / 10) with
        | nil => exact absurd hdigits Nat.toDigits_ne_nil
        | cons c digits =>
            rw [hdigits] at hlead
            exact hlead

theorem zero_alone (n : Nat) :
    ¬ ((Nat.toDigits 10 n).length > 1 ∧ (Nat.toDigits 10 n).head? = some '0') := by
  rintro ⟨hlength, hhead⟩
  cases n with
  | zero => exact absurd hlength (by decide)
  | succ n => exact head?_toDigits (Nat.succ_pos n) hhead

theorem le_ofDigitChars (digits : List Char) (value : Nat) :
    value ≤ Nat.ofDigitChars 10 digits value := by
  induction digits generalizing value with
  | nil => exact Nat.le_refl value
  | cons c digits ih =>
      rw [Nat.ofDigitChars_cons]
      calc value ≤ 10 * value + (c.toNat - '0'.toNat) := by omega
        _ ≤ _ := ih _

/-- Digits are taken to the last as long as the number that they make fits. -/
theorem takeDigits_of_le {digits : List Char} {value : Nat}
    (h : (Nat.ofDigitChars 10 digits value : Int) ≤ greatestInteger) :
    takeDigits value digits = (Nat.ofDigitChars 10 digits value, []) := by
  induction digits generalizing value with
  | nil => rfl
  | cons c digits ih =>
      rw [Nat.ofDigitChars_cons, Nat.mul_comm] at h ⊢
      have hnext : ((value * 10 + (c.toNat - '0'.toNat) : Nat) : Int) ≤ greatestInteger :=
        Int.le_trans (Int.ofNat_le.mpr (le_ofDigitChars digits _)) h
      rw [takeDigits]
      simp only [if_pos hnext]
      exact ih h

/-- The value of a row of digits with a sign, unless it is zero with a minus. -/
theorem value_toDigits {negative : Bool} {n : Nat} {value : Int}
    (hvalue : value = if negative then -(n : Int) else n) (hzero : ¬ (negative ∧ n = 0))
    (hn : (n : Int) ≤ greatestInteger) (fits : leastInteger ≤ value ∧ value ≤ greatestInteger) :
    Numeral.value ⟨negative, Nat.toDigits 10 n, none, none⟩ = .ok (.integer value fits) := by
  have hdigits : takeDigits 0 (Nat.toDigits 10 n) = (n, []) := by
    rw [takeDigits_of_le (by rw [Nat.ofDigitChars_ten_toDigits]; exact hn),
      Nat.ofDigitChars_ten_toDigits]
  have hwhole : Number.ofInt? (if negative then -(n : Int) else n) =
      some (.integer value fits) := by
    rw [← hvalue, Number.ofInt?, dif_pos fits]
  simp only [Numeral.value, hdigits, Option.isNone_none, true_and, hzero, not_false_eq_true,
    if_true, hwhole]

theorem scanNumber_toDigits {negative : Bool} {n : Nat} {value : Int}
    (hvalue : value = if negative then -(n : Int) else n) (hzero : ¬ (negative ∧ n = 0))
    (hn : (n : Int) ≤ greatestInteger) (fits : leastInteger ≤ value ∧ value ≤ greatestInteger)
    {rest : List Char} (hrest : Follows rest) :
    scanNumber negative (Nat.toDigits 10 n ++ rest) = .ok (.integer value fits, rest) := by
  have hdigits : ∀ c ∈ Nat.toDigits 10 n, c.isDigit = true :=
    fun c hc => Nat.isDigit_of_mem_toDigits (by decide) (by decide) hc
  rw [scanNumber, scanDigits_append Nat.toDigits_ne_nil hdigits hrest]
  simp only [ok_bind, if_neg (zero_alone n), scanFraction_of_follows hrest,
    scanExponent_of_follows hrest, value_toDigits hvalue hzero hn fits, pure_eq_ok]

end Numbers

section Values

/-- The documents that a scanner reads which goes down a number of levels: arrays and objects nest
no deeper, and every number is whole. -/
inductive Fits : Nat → Json → Prop
  | null {levels : Nat} : Fits levels .null
  | bool {levels : Nat} (value : Bool) : Fits levels (.bool value)
  | integer {levels : Nat} (value : Int)
      (fits : leastInteger ≤ value ∧ value ≤ greatestInteger) :
      Fits levels (.number (.integer value fits))
  | string {levels : Nat} (text : String) : Fits levels (.string text)
  | array {levels : Nat} {items : List Json} (hitems : ∀ item ∈ items, Fits levels item) :
      Fits (levels + 1) (.array items)
  | object {levels : Nat} {fields : List (String × Json)}
      (hfields : ∀ field ∈ fields, Fits levels field.2) : Fits (levels + 1) (.object fields)

theorem Fits.array_iff {levels : Nat} {items : List Json} :
    Fits (levels + 1) (.array items) ↔ ∀ item ∈ items, Fits levels item := by
  constructor
  · intro h
    cases h with
    | array hitems => exact hitems
  · exact .array

theorem Fits.object_iff {levels : Nat} {fields : List (String × Json)} :
    Fits (levels + 1) (.object fields) ↔ ∀ field ∈ fields, Fits levels field.2 := by
  constructor
  · intro h
    cases h with
    | object hfields => exact hfields
  · exact .object

/-- A scanner takes a document from its text, whatever follows. The text starts neither with a blank
nor with the end of a list. -/
structure Reads (value : Scanner) (j : Json) : Prop where
  start : ∃ c tail, j.write = c :: tail ∧ isBlank c = false ∧ c ≠ ']'
  read : ∀ rest, Follows rest → value (j.write ++ rest) = (.ofJson j, .ok rest)

theorem skipBlank_cons {c : Char} (h : isBlank c = false) (rest : List Char) :
    skipBlank (c :: rest) = c :: rest := by
  rw [skipBlank, List.dropWhile_cons_of_neg (by simp [h])]

theorem ne_of_isDigit {c x : Char} (hc : c.isDigit = true) (hx : x.isDigit = false) : c ≠ x := by
  rintro rfl
  rw [hc] at hx
  cases hx

theorem isBlank_of_isDigit {c : Char} (hc : c.isDigit = true) : isBlank c = false := by
  have hne (x : Char) (hx : x.isDigit = false) : c ≠ x := ne_of_isDigit hc hx
  simp [isBlank, hne ' ' rfl, hne '\n' rfl, hne '\t' rfl, hne '\r' rfl]

section Scalars

variable (array object : Scanner)

theorem reads_null : Reads (scanWith array object) .null where
  start := ⟨_, _, rfl, rfl, by decide⟩
  read _ _ := rfl

theorem reads_bool (value : Bool) : Reads (scanWith array object) (.bool value) := by
  cases value with
  | true => exact ⟨⟨_, _, rfl, rfl, by decide⟩, fun _ _ => rfl⟩
  | false => exact ⟨⟨_, _, rfl, rfl, by decide⟩, fun _ _ => rfl⟩

theorem reads_string (text : String) : Reads (scanWith array object) (.string text) where
  start := ⟨_, _, rfl, rfl, by decide⟩
  read rest _ := by
    obtain ⟨tail, htext, hscan⟩ := scanString_writeString text rest
    rw [Json.write, htext]
    show scanned .string (scanString [] tail) = _
    rw [hscan]
    rfl

/-- A digit starts a number. -/
theorem scanWith_digit {c : Char} (hc : c.isDigit = true) (rest : List Char) :
    scanWith array object (c :: rest) = scanned .number (scanNumber false (c :: rest)) := by
  have hne (x : Char) (hx : x.isDigit = false) : c ≠ x := ne_of_isDigit hc hx
  rw [scanWith, skipBlank_cons (isBlank_of_isDigit hc)]
  simp only [hne 'n' rfl, hne 't' rfl, hne 'f' rfl, hne '"' rfl, hne '[' rfl, hne '\x7b' rfl,
    hne '-' rfl, hc, if_false, if_true]

theorem reads_natural (n : Nat) (fits : leastInteger ≤ (n : Int) ∧ (n : Int) ≤ greatestInteger) :
    Reads (scanWith array object) (.number (.integer n fits)) := by
  have hwrite : (Json.number (.integer n fits)).write = Nat.toDigits 10 n := rfl
  have hdigit : ∀ c ∈ Nat.toDigits 10 n, c.isDigit = true :=
    fun c hc => Nat.isDigit_of_mem_toDigits (by decide) (by decide) hc
  cases hdigits : Nat.toDigits 10 n with
  | nil => exact absurd hdigits Nat.toDigits_ne_nil
  | cons c digits =>
      have hc : c.isDigit = true := hdigit c (by rw [hdigits]; exact List.mem_cons_self)
      refine ⟨⟨c, digits, hwrite.trans hdigits, isBlank_of_isDigit hc, ne_of_isDigit hc rfl⟩, ?_⟩
      intro rest hrest
      have hvalue : (n : Int) = if false = true then -(n : Int) else n := rfl
      have hscan : scanNumber false (Nat.toDigits 10 n ++ rest) = .ok (.integer n fits, rest) :=
        scanNumber_toDigits hvalue (by simp) fits.2 fits hrest
      rw [hwrite, hdigits, List.cons_append, scanWith_digit array object hc, ← List.cons_append,
        ← hdigits, hscan]
      rfl

theorem reads_negative (n : Nat)
    (fits : leastInteger ≤ Int.negSucc n ∧ Int.negSucc n ≤ greatestInteger) :
    Reads (scanWith array object) (.number (.integer (.negSucc n) fits)) where
  start := ⟨_, _, rfl, rfl, by decide⟩
  read rest hrest := by
    have hsize : ((n + 1 : Nat) : Int) ≤ greatestInteger := by
      have hleast := fits.1
      simp only [leastInteger, greatestInteger] at hleast ⊢
      omega
    have hvalue : Int.negSucc n =
        if true = true then -((n + 1 : Nat) : Int) else ((n + 1 : Nat) : Int) := rfl
    have hscan : scanNumber true (Nat.toDigits 10 (n + 1) ++ rest) =
        .ok (.integer (.negSucc n) fits, rest) :=
      scanNumber_toDigits hvalue (by simp) hsize fits hrest
    show scanned .number (scanNumber true (Nat.toDigits 10 (n + 1) ++ rest)) = _
    rw [hscan]
    rfl

theorem reads_integer (value : Int) (fits : leastInteger ≤ value ∧ value ≤ greatestInteger) :
    Reads (scanWith array object) (.number (.integer value fits)) := by
  cases value with
  | ofNat n => exact reads_natural array object n fits
  | negSucc n => exact reads_negative array object n fits

end Scalars

section Collections

variable {value : Scanner}

theorem follows_writeItems (items : List Json) (rest : List Char) :
    Follows (writeItems items ++ rest) := by
  cases items with
  | nil => exact follows_cons (by decide)
  | cons item items => exact follows_cons (by decide)

theorem follows_writeFields (fields : List (String × Json)) (rest : List Char) :
    Follows (writeFields fields ++ rest) := by
  cases fields with
  | nil => exact follows_cons (by decide)
  | cons field fields => exact follows_cons (by decide)

theorem length_lt_writeItems (items : List Json) (rest : List Char) :
    items.length < (writeItems items ++ rest).length := by
  induction items with
  | nil => simp [writeItems]
  | cons item items ih =>
      simp only [writeItems, List.length_append, List.length_cons] at ih ⊢
      omega

theorem length_lt_writeFields (fields : List (String × Json)) (rest : List Char) :
    fields.length < (writeFields fields ++ rest).length := by
  induction fields with
  | nil => simp [writeFields]
  | cons field fields ih =>
      simp only [writeFields, List.length_append, List.length_cons] at ih ⊢
      omega

theorem scanItems_comma {item : Reading} {c : Char} {tail after : List Char}
    (hblank : isBlank c = false) (hclose : c ≠ ']')
    (hvalue : value (c :: tail) = (item, .ok after)) (fuel : Nat) :
    scanItems value (fuel + 1) (',' :: c :: tail) =
      (item :: (scanItems value fuel after).1, (scanItems value fuel after).2) := by
  rw [scanItems, skipBlank_cons rfl]
  simp only [skipBlank_cons hblank]
  split
  · rename_i heq
    cases heq
  · rename_i heq
    cases heq
    exact absurd rfl hclose
  · rw [hvalue]

/-- The rest of a list is read to its end. -/
theorem scanItems_write {items : List Json} (h : ∀ item ∈ items, Reads value item) {fuel : Nat}
    (hfuel : items.length < fuel) (rest : List Char) :
    scanItems value fuel (writeItems items ++ rest) = (Reading.ofItems items, .ok rest) := by
  induction items generalizing fuel with
  | nil =>
      cases fuel with
      | zero => cases hfuel
      | succ fuel => rfl
  | cons item items ih =>
      obtain ⟨hitem, hitems⟩ := List.forall_mem_cons.mp h
      cases fuel with
      | zero => cases hfuel
      | succ fuel =>
          obtain ⟨c, tail, hwrite, hblank, hclose⟩ := hitem.start
          have hvalue := hitem.read _ (follows_writeItems items rest)
          rw [hwrite, List.cons_append] at hvalue
          have hsplit : writeItems (item :: items) ++ rest =
              ',' :: c :: (tail ++ (writeItems items ++ rest)) := by
            simp [writeItems, hwrite]
          rw [hsplit, scanItems_comma hblank hclose hvalue,
            ih hitems (Nat.lt_of_succ_lt_succ hfuel)]
          rfl

theorem scanArray_start {item : Reading} {c : Char} {tail after : List Char}
    (hblank : isBlank c = false) (hclose : c ≠ ']')
    (hvalue : value (c :: tail) = (item, .ok after)) :
    scanArray value (c :: tail) =
      (.array (item :: (scanItems value after.length after).1)
        (stopOf (scanItems value after.length after).2),
        (scanItems value after.length after).2) := by
  rw [scanArray, skipBlank_cons hblank]
  split
  · rename_i heq
    cases heq
  · rename_i heq
    cases heq
    exact absurd rfl hclose
  · rw [hvalue]

theorem reads_array (object : Scanner) {items : List Json}
    (h : ∀ item ∈ items, Reads value item) :
    Reads (scanWith (scanArray value) object) (.array items) := by
  cases items with
  | nil => exact ⟨⟨_, _, rfl, rfl, by decide⟩, fun _ _ => rfl⟩
  | cons item items =>
      obtain ⟨hitem, hitems⟩ := List.forall_mem_cons.mp h
      refine ⟨⟨_, _, rfl, rfl, by decide⟩, fun rest _ => ?_⟩
      obtain ⟨c, tail, hwrite, hblank, hclose⟩ := hitem.start
      have hvalue := hitem.read _ (follows_writeItems items rest)
      rw [hwrite, List.cons_append] at hvalue
      have hsplit : (Json.array (item :: items)).write ++ rest =
          '[' :: c :: (tail ++ (writeItems items ++ rest)) := by
        simp [Json.write, hwrite]
      rw [hsplit]
      show scanArray value (c :: (tail ++ (writeItems items ++ rest))) = _
      rw [scanArray_start hblank hclose hvalue,
        scanItems_write hitems (length_lt_writeItems items rest)]
      rfl

/-- A field is read from behind the opening quote of its key. -/
theorem scanField_write {field : String × Json} (h : Reads value field.2) {tail rest : List Char}
    (hrest : Follows rest)
    (hkey : scanString [] tail = .ok (field.1, ':' :: (field.2.write ++ rest))) :
    scanField value tail = ([(field.1, .ofJson field.2)], .ok rest) := by
  have hblank : skipBlank (':' :: (field.2.write ++ rest)) = ':' :: (field.2.write ++ rest) :=
    skipBlank_cons rfl _
  rw [scanField, hkey]
  simp only [hblank, h.read rest hrest]

theorem scanFields_comma {field : String × Reading} {tail after : List Char}
    (hfield : scanField value tail = ([field], .ok after)) (fuel : Nat) :
    scanFields value (fuel + 1) (',' :: '"' :: tail) =
      (field :: (scanFields value fuel after).1, (scanFields value fuel after).2) := by
  rw [scanFields, skipBlank_cons rfl]
  simp only [skipBlank_cons (rfl : isBlank '"' = false), hfield]
  rfl

theorem scanObject_quote {field : String × Reading} {tail after : List Char}
    (hfield : scanField value tail = ([field], .ok after)) :
    scanObject value ('"' :: tail) =
      (.object (field :: (scanFields value after.length after).1)
        (stopOf (scanFields value after.length after).2),
        (scanFields value after.length after).2) := by
  rw [scanObject, skipBlank_cons rfl]
  simp only [hfield]
  rfl

/-- The rest of an object is read to its end. -/
theorem scanFields_write {fields : List (String × Json)}
    (h : ∀ field ∈ fields, Reads value field.2) {fuel : Nat} (hfuel : fields.length < fuel)
    (rest : List Char) :
    scanFields value fuel (writeFields fields ++ rest) = (Reading.ofFields fields, .ok rest) := by
  induction fields generalizing fuel with
  | nil =>
      cases fuel with
      | zero => cases hfuel
      | succ fuel => rfl
  | cons field fields ih =>
      obtain ⟨hfield, hfields⟩ := List.forall_mem_cons.mp h
      cases fuel with
      | zero => cases hfuel
      | succ fuel =>
          obtain ⟨tail, hquote, hkey⟩ := scanString_writeString field.1
            (':' :: (field.2.write ++ (writeFields fields ++ rest)))
          have hsplit : writeFields (field :: fields) ++ rest = ',' :: '"' :: tail := by
            simp [writeFields, ← hquote]
          have hread := scanField_write hfield (follows_writeFields fields rest) hkey
          rw [hsplit, scanFields_comma hread, ih hfields (Nat.lt_of_succ_lt_succ hfuel)]
          rfl

theorem reads_object (array : Scanner) {fields : List (String × Json)}
    (h : ∀ field ∈ fields, Reads value field.2) :
    Reads (scanWith array (scanObject value)) (.object fields) := by
  cases fields with
  | nil => exact ⟨⟨_, _, rfl, rfl, by decide⟩, fun _ _ => rfl⟩
  | cons field fields =>
      obtain ⟨hfield, hfields⟩ := List.forall_mem_cons.mp h
      refine ⟨⟨_, _, rfl, rfl, by decide⟩, fun rest _ => ?_⟩
      obtain ⟨tail, hquote, hkey⟩ := scanString_writeString field.1
        (':' :: (field.2.write ++ (writeFields fields ++ rest)))
      have hsplit : (Json.object (field :: fields)).write ++ rest = '\x7b' :: '"' :: tail := by
        simp [Json.write, ← hquote]
      have hread := scanField_write hfield (follows_writeFields fields rest) hkey
      rw [hsplit]
      show scanObject value ('"' :: tail) = _
      rw [scanObject_quote hread, scanFields_write hfields (length_lt_writeFields fields rest)]
      rfl

end Collections

/-- A scanner reads every document that it has the levels for. -/
theorem Fits.reads {levels : Nat} {j : Json} (h : Fits levels j) : Reads (scanValue levels) j := by
  have hscan : ∀ levels, ∃ array object, scanValue levels = scanWith array object := by
    intro levels
    cases levels with
    | zero => exact ⟨_, _, rfl⟩
    | succ levels => exact ⟨_, _, rfl⟩
  induction h with
  | @null levels =>
      obtain ⟨array, object, heq⟩ := hscan levels
      exact heq ▸ reads_null array object
  | @bool levels value =>
      obtain ⟨array, object, heq⟩ := hscan levels
      exact heq ▸ reads_bool array object value
  | @integer levels value fits =>
      obtain ⟨array, object, heq⟩ := hscan levels
      exact heq ▸ reads_integer array object value fits
  | @string levels text =>
      obtain ⟨array, object, heq⟩ := hscan levels
      exact heq ▸ reads_string array object text
  | array _ ih => exact reads_array _ ih
  | object _ ih => exact reads_object _ ih

theorem Fits.mono {levels more : Nat} {j : Json} (h : Fits levels j) (hle : levels ≤ more) :
    Fits more j := by
  induction h generalizing more with
  | null => exact .null
  | bool value => exact .bool value
  | integer value fits => exact .integer value fits
  | string text => exact .string text
  | array _ ih =>
      cases more with
      | zero => cases hle
      | succ more =>
          exact .array fun item hitem => ih item hitem (Nat.le_of_succ_le_succ hle)
  | object _ ih =>
      cases more with
      | zero => cases hle
      | succ more =>
          exact .object fun field hfield => ih field hfield (Nat.le_of_succ_le_succ hle)

/-- A value of some type is read from the text of a document as it is taken from the document. -/
theorem decode_write {α : Type} {take : Reading → Except Fault α} {j : Json} {value : α}
    (hfits : Fits greatestNesting j) (htake : take (.ofJson j) = .ok value) :
    decode take j.write = .ok value := by
  have hread := hfits.reads.read [] follows_nil
  rw [List.append_nil] at hread
  rw [decode, hread]
  simp only [htake]
  rfl

end Values

end FilterBook.Json
