import FilterBook.Proofs.Scanning

/-!
How deep a document nests, counted in arrays and objects. The limit of a scanner makes no difference
to the texts of documents that keep it: each is read as it would be without any limit.
-/

namespace FilterBook.Json

mutual

/-- How many arrays and objects lie on the longest way into a document. -/
def nesting : Json → Nat
  | .array items => itemsNesting items + 1
  | .object fields => fieldsNesting fields + 1
  | _ => 0

def itemsNesting : List Json → Nat
  | [] => 0
  | item :: items => max (nesting item) (itemsNesting items)

def fieldsNesting : List (String × Json) → Nat
  | [] => 0
  | field :: fields => max (nesting field.2) (fieldsNesting fields)

end

/-- A scanner that reads the documents another reads, as far as they nest no deeper than a bound. -/
def Covers (bound : Nat) (other value : Scanner) : Prop :=
  ∀ ⦃text : List Char⦄ ⦃j : Json⦄ ⦃rest : List Char⦄,
    value text = (.ofJson j, .ok rest) → j.nesting ≤ bound → other text = (.ofJson j, .ok rest)

section Collections

variable {bound : Nat} {other value : Scanner}

/-- The first of the items that are read is read by the other scanner as well, and the rest are the
items of a list that keeps the bound. -/
theorem first_of_items (hcovers : Covers bound other value) {text after : List Char}
    {first : Reading} {rest : List Reading} {items : List Json}
    (h : value text = (first, .ok after)) (hitems : first :: rest = Reading.ofItems items)
    (hbound : itemsNesting items ≤ bound) :
    other text = (first, .ok after) ∧
      ∃ more, rest = Reading.ofItems more ∧ itemsNesting more ≤ bound := by
  cases items with
  | nil => cases hitems
  | cons item more =>
      cases hitems
      rw [itemsNesting, Nat.max_le] at hbound
      exact ⟨hcovers h hbound.1, more, rfl, hbound.2⟩

/-- A scan that has come to its end has met no flaw. -/
theorem ne_of_scanned {α : Type} {read other : α} {flaw : Flaw} {rest : List Char} :
    (read, (.error flaw : Except Flaw (List Char))) ≠ (other, .ok rest) :=
  fun h => nomatch congrArg Prod.snd h

theorem scanItems_of_covers (hcovers : Covers bound other value) {fuel : Nat}
    {text rest : List Char} {items : List Json}
    (h : scanItems value fuel text = (Reading.ofItems items, .ok rest))
    (hbound : itemsNesting items ≤ bound) :
    scanItems other fuel text = (Reading.ofItems items, .ok rest) := by
  induction fuel generalizing text items with
  | zero => exact absurd h ne_of_scanned
  | succ fuel ih =>
      rw [scanItems] at h ⊢
      split at h
      · exact absurd h ne_of_scanned
      · exact h
      · rename_i behind _
        split at h
        · exact absurd h ne_of_scanned
        · exact absurd h ne_of_scanned
        · cases hvalue : value (skipBlank behind) with
          | mk first outcome =>
              cases outcome with
              | error flaw =>
                  rw [hvalue] at h
                  exact absurd h ne_of_scanned
              | ok after =>
                  rw [hvalue] at h
                  obtain ⟨hitems, hrest⟩ := Prod.mk.inj h
                  obtain ⟨hfirst, more, hmore, hbound⟩ :=
                    first_of_items hcovers hvalue hitems hbound
                  have htail := ih (Prod.ext hmore hrest) hbound
                  rw [hfirst, ← hitems, hmore]
                  simp only [htail]
      · exact absurd h ne_of_scanned

theorem scanArray_of_covers (hcovers : Covers bound other value) :
    Covers (bound + 1) (scanArray other) (scanArray value) := by
  intro text j rest h hbound
  rw [scanArray] at h ⊢
  split at h
  · exact absurd h ne_of_scanned
  · exact h
  · cases hvalue : value (skipBlank text) with
    | mk first outcome =>
        cases outcome with
        | error flaw =>
            rw [hvalue] at h
            exact absurd h ne_of_scanned
        | ok after =>
            rw [hvalue] at h
            obtain ⟨hreading, hrest⟩ := Prod.mk.inj h
            cases j with
            | array items =>
                obtain ⟨hitems, -⟩ := Reading.array.inj hreading
                obtain ⟨hfirst, more, hmore, hbound⟩ :=
                  first_of_items hcovers hvalue hitems (Nat.le_of_succ_le_succ hbound)
                have htail := scanItems_of_covers hcovers (Prod.ext hmore hrest) hbound
                rw [hfirst, Reading.ofJson, ← hitems, hmore]
                simp only [htail]
                rfl
            | _ => cases hreading

/-- A field that has been scanned to its end is one key with its value. -/
theorem scanField_eq_ok {text rest : List Char} {read : List (String × Reading)}
    (h : scanField value text = (read, .ok rest)) :
    ∃ key after before reading, scanString [] text = .ok (key, after) ∧
      skipBlank after = ':' :: before ∧ value before = (reading, .ok rest) ∧
      read = [(key, reading)] := by
  rw [scanField] at h
  split at h
  · exact absurd h ne_of_scanned
  · rename_i key after hkey
    split at h
    · exact absurd h ne_of_scanned
    · rename_i before hcolon
      obtain ⟨rfl, hrest⟩ := Prod.mk.inj h
      exact ⟨key, after, before, _, hkey, hcolon, Prod.ext rfl hrest, rfl⟩
    · exact absurd h ne_of_scanned

/-- The same of the first of the fields. -/
theorem first_of_fields (hcovers : Covers bound other value) {text after : List Char}
    {read rest : List (String × Reading)} {fields : List (String × Json)}
    (h : scanField value text = (read, .ok after))
    (hfields : read ++ rest = Reading.ofFields fields)
    (hbound : fieldsNesting fields ≤ bound) :
    scanField other text = (read, .ok after) ∧
      ∃ more, rest = Reading.ofFields more ∧ fieldsNesting more ≤ bound := by
  obtain ⟨key, behind, before, reading, hkey, hcolon, hvalue, rfl⟩ := scanField_eq_ok h
  cases fields with
  | nil => cases hfields
  | cons field more =>
      cases hfields
      rw [fieldsNesting, Nat.max_le] at hbound
      refine ⟨?_, more, rfl, hbound.2⟩
      rw [scanField, hkey]
      simp only [hcolon, hcovers hvalue hbound.1]

theorem scanFields_of_covers (hcovers : Covers bound other value) {fuel : Nat}
    {text rest : List Char} {fields : List (String × Json)}
    (h : scanFields value fuel text = (Reading.ofFields fields, .ok rest))
    (hbound : fieldsNesting fields ≤ bound) :
    scanFields other fuel text = (Reading.ofFields fields, .ok rest) := by
  induction fuel generalizing text fields with
  | zero => exact absurd h ne_of_scanned
  | succ fuel ih =>
      rw [scanFields] at h ⊢
      split at h
      · exact absurd h ne_of_scanned
      · exact h
      · split at h
        · exact absurd h ne_of_scanned
        · rename_i start _
          cases hfield : scanField value start with
          | mk read outcome =>
              cases outcome with
              | error flaw =>
                  rw [hfield] at h
                  exact absurd h ne_of_scanned
              | ok after =>
                  rw [hfield] at h
                  obtain ⟨hfields, hrest⟩ := Prod.mk.inj h
                  obtain ⟨hfirst, more, hmore, hbound⟩ :=
                    first_of_fields hcovers hfield hfields hbound
                  have htail := ih (Prod.ext hmore hrest) hbound
                  rw [hfirst, ← hfields, hmore]
                  simp only [htail]
        · exact absurd h ne_of_scanned
        · exact absurd h ne_of_scanned
      · exact absurd h ne_of_scanned

theorem scanObject_of_covers (hcovers : Covers bound other value) :
    Covers (bound + 1) (scanObject other) (scanObject value) := by
  intro text j rest h hbound
  rw [scanObject] at h ⊢
  split at h
  · exact absurd h ne_of_scanned
  · exact h
  · rename_i start _
    cases hfield : scanField value start with
    | mk read outcome =>
        cases outcome with
        | error flaw =>
            rw [hfield] at h
            exact absurd h ne_of_scanned
        | ok after =>
            rw [hfield] at h
            obtain ⟨hreading, hrest⟩ := Prod.mk.inj h
            cases j with
            | object fields =>
                obtain ⟨hfields, -⟩ := Reading.object.inj hreading
                obtain ⟨hfirst, more, hmore, hbound⟩ :=
                  first_of_fields hcovers hfield hfields (Nat.le_of_succ_le_succ hbound)
                have htail := scanFields_of_covers hcovers (Prod.ext hmore hrest) hbound
                rw [hfirst, Reading.ofJson, ← hfields, hmore]
                simp only [htail]
                rfl
            | _ => cases hreading
  · exact absurd h ne_of_scanned

end Collections

section Values

/-- Scanners of values differ only in what they make of an array and of an object. -/
theorem scanWith_of_covers {bound : Nat} {array array' object object' : Scanner}
    (harray : Covers bound array' array) (hobject : Covers bound object' object) :
    Covers bound (scanWith array' object') (scanWith array object) := by
  intro text j rest h hbound
  rw [scanWith] at h ⊢
  split at h
  · exact absurd h ne_of_scanned
  · rename_i c behind _
    by_cases hbracket : c = '['
    · subst hbracket
      exact harray h hbound
    by_cases hbrace : c = '\x7b'
    · subst hbrace
      exact hobject h hbound
    · simp only [if_neg hbracket, if_neg hbrace] at h ⊢
      exact h

theorem scanArray_reading (value : Scanner) (text : List Char) :
    ∃ items stop, (scanArray value text).1 = .array items stop := by
  rw [scanArray]
  split
  · exact ⟨_, _, rfl⟩
  · exact ⟨_, _, rfl⟩
  · split <;> exact ⟨_, _, rfl⟩

theorem scanObject_reading (value : Scanner) (text : List Char) :
    ∃ fields stop, (scanObject value text).1 = .object fields stop := by
  rw [scanObject]
  split
  · exact ⟨_, _, rfl⟩
  · exact ⟨_, _, rfl⟩
  · split <;> exact ⟨_, _, rfl⟩
  · exact ⟨_, _, rfl⟩

/-- An array or an object is a level by itself, so no document without levels is one. -/
theorem covers_zero {value : Scanner} (other : Scanner)
    (hvalue : ∀ text, (∃ items stop, (value text).1 = .array items stop) ∨
      ∃ fields stop, (value text).1 = .object fields stop) : Covers 0 other value := by
  intro text j rest h hbound
  have hreading : (value text).1 = .ofJson j := congrArg Prod.fst h
  have hlevels : 0 < j.nesting := by
    rcases hvalue text with ⟨items, stop, hread⟩ | ⟨fields, stop, hread⟩
    · rw [hread] at hreading
      cases j with
      | array items => exact Nat.succ_pos _
      | _ => cases hreading
    · rw [hread] at hreading
      cases j with
      | object fields => exact Nat.succ_pos _
      | _ => cases hreading
  exact absurd hbound (Nat.not_le.mpr hlevels)

/-- Whatever levels a scanner has, what it reads is read as well with the levels that the document
needs. -/
theorem scanValue_covers (levels bound : Nat) :
    Covers bound (scanValue bound) (scanValue levels) := by
  have hdeep (make : Option Flaw → Reading) (other : Scanner) (bound : Nat) :
      Covers bound other (tooDeep make) :=
    fun _ _ _ h _ => absurd h ne_of_scanned
  induction bound generalizing levels with
  | zero =>
      cases levels with
      | zero => exact scanWith_of_covers (hdeep ..) (hdeep ..)
      | succ levels =>
          exact scanWith_of_covers
            (covers_zero _ fun text => Or.inl (scanArray_reading (scanValue levels) text))
            (covers_zero _ fun text => Or.inr (scanObject_reading (scanValue levels) text))
  | succ bound ih =>
      cases levels with
      | zero => exact scanWith_of_covers (hdeep ..) (hdeep ..)
      | succ levels =>
          exact scanWith_of_covers (scanArray_of_covers (ih levels))
            (scanObject_of_covers (ih levels))

end Values

/-- A text that says a document, and nothing else, to a scanner with enough levels. -/
def IsTextOf (text : String) (j : Json) : Prop :=
  ∃ levels rest, scanValue levels text.toList = (.ofJson j, .ok rest) ∧ skipBlank rest = []

/-- The compact text of a document is one, if its numbers are whole. -/
theorem Fits.isTextOf_compact {levels : Nat} {j : Json} (h : Fits levels j) :
    IsTextOf j.compact j := by
  have hread := h.reads.read [] follows_nil
  rw [List.append_nil] at hread
  refine ⟨levels, [], ?_, rfl⟩
  rw [compact, String.toList_ofList, hread]

/-- A text of a document that keeps the limit is taken, or refused, as the document is. -/
theorem IsTextOf.decode_eq {α : Type} {text : String} {j : Json} (h : IsTextOf text j)
    (hbound : j.nesting ≤ greatestNesting) (take : Reading → Except Fault α) :
    decode take text.toList = take (.ofJson j) := by
  obtain ⟨levels, rest, hscan, hrest⟩ := h
  rw [decode, scanValue_covers levels greatestNesting hscan hbound]
  cases htake : take (.ofJson j) with
  | error fault => simp only [htake]
  | ok value =>
      simp only [htake, endOfText, hrest]
      rfl

end FilterBook.Json
