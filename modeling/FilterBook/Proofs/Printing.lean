import FilterBook.Proofs.Scanning

/-!
The two texts of a document. They differ in the blanks between their tokens only, so whoever reads
past such blanks finds the same document in both, with its fields in the same order.
-/

namespace FilterBook.Json

/-- Where a character of a text stands: outside of all strings, inside of one, or there after a
backslash. -/
inductive Quoting where
  | outside
  | inside
  | escaped
deriving DecidableEq, Repr

/-- Where the next character stands. -/
def Quoting.next : Quoting → Char → Quoting
  | outside, c => if c = '"' then inside else outside
  | inside, c => if c = '"' then outside else if c = '\\' then escaped else inside
  | escaped, _ => inside

/-- A text without the blanks outside of its strings. -/
def squeeze (quoting : Quoting) : List Char → List Char
  | [] => []
  | c :: rest =>
      if quoting = .outside ∧ isBlank c = true then squeeze quoting rest
      else c :: squeeze (quoting.next c) rest

section Strings

/-- A part of a string that is neither a quote nor begins with a backslash. -/
theorem squeeze_inside {c : Char} (hquote : c ≠ '"') (hbackslash : c ≠ '\\') (rest : List Char) :
    squeeze .inside (c :: rest) = c :: squeeze .inside rest := by
  rw [squeeze, if_neg (by simp), Quoting.next, if_neg hquote, if_neg hbackslash]

theorem squeeze_backslash (c : Char) (rest : List Char) :
    squeeze .inside ('\\' :: c :: rest) = '\\' :: c :: squeeze .inside rest := by
  have hnext : Quoting.next .inside '\\' = .escaped := by decide
  rw [squeeze, if_neg (by simp), hnext, squeeze, if_neg (by simp), Quoting.next]

theorem hexDigit_ne (n : Nat) : hexDigit n ≠ '"' ∧ hexDigit n ≠ '\\' := by
  have hdigits : ∀ m < 16, Nat.digitChar m ≠ '"' ∧ Nat.digitChar m ≠ '\\' := by decide
  exact hdigits (n % 16) (Nat.mod_lt n (by decide))

theorem squeeze_escape (c : Char) (rest : List Char) :
    squeeze .inside (escape c ++ rest) = escape c ++ squeeze .inside rest := by
  unfold escape
  -- The seven characters that are written with one letter after a backslash.
  iterate 7
    split
    · exact squeeze_backslash _ rest
  split
  · have hzero (rest : List Char) : squeeze .inside ('0' :: rest) = '0' :: squeeze .inside rest :=
      squeeze_inside (by decide) (by decide) rest
    simp only [List.cons_append, List.nil_append, squeeze_backslash, hzero,
      squeeze_inside (hexDigit_ne _).1 (hexDigit_ne _).2]
  · rename_i hquote hbackslash _ _ _ _ _ _
    exact squeeze_inside hquote hbackslash rest

theorem squeeze_writeString (text : String) (rest : List Char) :
    squeeze .outside (writeString text ++ rest) = writeString text ++ squeeze .outside rest := by
  have hopen (rest : List Char) : squeeze .outside ('"' :: rest) = '"' :: squeeze .inside rest := by
    rw [squeeze, if_neg (by decide)]
    rfl
  have hclose : squeeze .inside ('"' :: rest) = '"' :: squeeze .outside rest := by
    rw [squeeze, if_neg (by decide)]
    rfl
  have hchars (chars : List Char) (rest : List Char) :
      squeeze .inside (chars.flatMap escape ++ rest) =
        chars.flatMap escape ++ squeeze .inside rest := by
    induction chars with
    | nil => rfl
    | cons c chars ih => simp only [List.flatMap_cons, List.append_assoc, squeeze_escape, ih]
  simp only [writeString, List.cons_append, List.append_assoc, List.nil_append, hopen, hchars,
    hclose]

end Strings

section Tokens

/-- A character that may stand in a number. -/
def IsNumeral (c : Char) : Prop :=
  c.isDigit = true ∨ c ∈ ['-', '+', '.', 'e']

theorem squeeze_solid {c : Char} (hblank : isBlank c = false) (hquote : c ≠ '"')
    (rest : List Char) : squeeze .outside (c :: rest) = c :: squeeze .outside rest := by
  rw [squeeze, if_neg (by simp [hblank]), Quoting.next, if_neg hquote]

theorem squeeze_blank {c : Char} (hblank : isBlank c = true) (rest : List Char) :
    squeeze .outside (c :: rest) = squeeze .outside rest := by
  rw [squeeze, if_pos ⟨rfl, hblank⟩]

theorem squeeze_lineBreak (level : Nat) (rest : List Char) :
    squeeze .outside (lineBreak level ++ rest) = squeeze .outside rest := by
  have hspaces (n : Nat) : squeeze .outside (List.replicate n ' ' ++ rest) =
      squeeze .outside rest := by
    induction n with
    | zero => rfl
    | succ n ih => rw [List.replicate_succ, List.cons_append, squeeze_blank rfl, ih]
  rw [lineBreak, List.cons_append, squeeze_blank rfl, hspaces]

theorem squeeze_numerals {chars : List Char} (h : ∀ c ∈ chars, IsNumeral c) (rest : List Char) :
    squeeze .outside (chars ++ rest) = chars ++ squeeze .outside rest := by
  have hsolid {c : Char} (hc : IsNumeral c) : isBlank c = false ∧ c ≠ '"' := by
    rcases hc with hdigit | hsign
    · exact ⟨isBlank_of_isDigit hdigit, ne_of_isDigit hdigit rfl⟩
    · simp only [List.mem_cons, List.not_mem_nil, or_false] at hsign
      rcases hsign with rfl | rfl | rfl | rfl <;> decide
  induction chars with
  | nil => rfl
  | cons c chars ih =>
      obtain ⟨hc, hchars⟩ := List.forall_mem_cons.mp h
      rw [List.cons_append, squeeze_solid (hsolid hc).1 (hsolid hc).2, ih hchars, List.cons_append]

theorem isNumeral_writeNat {n : Nat} {c : Char} (hc : c ∈ Number.writeNat n) : IsNumeral c :=
  Or.inl (Nat.isDigit_of_mem_toDigits (by decide) (by decide) hc)

theorem isNumeral_writeInt {n : Int} {c : Char} (hc : c ∈ Number.writeInt n) : IsNumeral c := by
  cases n with
  | ofNat n => exact isNumeral_writeNat hc
  | negSucc n =>
      rcases List.mem_cons.mp hc with rfl | hc
      · exact Or.inr (by decide)
      · exact isNumeral_writeNat hc

theorem isNumeral_writePositional {digits : List Char} (h : ∀ c ∈ digits, IsNumeral c) (point : Int)
    {c : Char} (hc : c ∈ Number.writePositional digits point) : IsNumeral c := by
  have hzero : IsNumeral '0' := Or.inl (by decide)
  have hpoint : IsNumeral '.' := Or.inr (by decide)
  unfold Number.writePositional at hc
  split at hc
  · simp only [List.mem_append, List.mem_cons, List.not_mem_nil, or_false,
      List.mem_replicate] at hc
    rcases hc with ((rfl | rfl) | ⟨-, rfl⟩) | hc
    · exact hzero
    · exact hpoint
    · exact hzero
    · exact h c hc
  split at hc
  · simp only [List.mem_append, List.mem_cons, List.not_mem_nil, or_false,
      List.mem_replicate] at hc
    rcases hc with (hc | ⟨-, rfl⟩) | rfl | rfl
    · exact h c hc
    · exact hzero
    · exact hpoint
    · exact hzero
  · rw [List.mem_append, List.mem_cons] at hc
    rcases hc with hc | rfl | hc
    · exact h c (List.mem_of_mem_take hc)
    · exact hpoint
    · exact h c (List.mem_of_mem_drop hc)

theorem isNumeral_writeScientific {digits : List Char} (h : ∀ c ∈ digits, IsNumeral c)
    (exponent : Int) {c : Char} (hc : c ∈ Number.writeScientific digits exponent) :
    IsNumeral c := by
  unfold Number.writeScientific at hc
  simp only [List.mem_append, List.mem_cons] at hc
  rcases hc with (hc | hc) | rfl | hsign | hc
  · exact h c (List.mem_of_mem_take hc)
  · split at hc
    · cases hc
    · rcases List.mem_cons.mp hc with rfl | hc
      · exact Or.inr (by decide)
      · exact h c (List.mem_of_mem_drop hc)
  · exact Or.inr (by decide)
  · split at hsign
    · exact hsign ▸ Or.inr (by decide)
    · exact hsign ▸ Or.inr (by decide)
  · exact isNumeral_writeNat hc

/-- No blank and no quote stands in a number. -/
theorem isNumeral_write (n : Number) {c : Char} (hc : c ∈ n.write) : IsNumeral c := by
  cases n with
  | integer value fits => exact isNumeral_writeInt hc
  | double x =>
      have hsigned {chars : List Char} (h : ∀ c ∈ chars, IsNumeral c)
          (hc : c ∈ (if x.negative then ['-'] else []) ++ chars) : IsNumeral c := by
        rcases List.mem_append.mp hc with hc | hc
        · split at hc
          · exact Or.inr (by rw [List.mem_singleton.mp hc]; decide)
          · cases hc
        · exact h c hc
      have hdigits : ∀ c ∈ Number.writeNat x.shortest.digits, IsNumeral c :=
        fun c hc => isNumeral_writeNat hc
      rw [Number.write, Number.writeDouble] at hc
      split at hc
      · have hzero : ∀ c ∈ ['0', '.', '0'], IsNumeral c := by
          rw [List.forall_mem_cons, List.forall_mem_cons, List.forall_mem_singleton]
          exact ⟨Or.inl (by decide), Or.inr (by decide), Or.inl (by decide)⟩
        exact hsigned hzero hc
      · dsimp only at hc
        split at hc
        · exact hsigned (fun c hc => isNumeral_writePositional hdigits _ hc) hc
        · exact hsigned (fun c hc => isNumeral_writeScientific hdigits _ hc) hc

end Tokens

section Documents

theorem squeeze_comma (rest : List Char) :
    squeeze .outside (',' :: rest) = ',' :: squeeze .outside rest :=
  squeeze_solid (by decide) (by decide) rest

theorem squeeze_colon (rest : List Char) :
    squeeze .outside (':' :: ' ' :: rest) = ':' :: squeeze .outside rest := by
  rw [squeeze_solid (by decide) (by decide), squeeze_blank (by decide)]

theorem squeeze_bracket {c : Char} (hc : c ∈ ['[', ']', '\x7b', '\x7d']) (rest : List Char) :
    squeeze .outside (c :: rest) = c :: squeeze .outside rest := by
  simp only [List.mem_cons, List.not_mem_nil, or_false] at hc
  rcases hc with rfl | rfl | rfl | rfl
  all_goals exact squeeze_solid (by decide) (by decide) rest

mutual

/-- The indented text with its blanks taken out is the compact text. -/
theorem squeeze_writePretty (level : Nat) (rest : List Char) : (j : Json) →
    squeeze .outside (j.writePretty level ++ rest) = j.write ++ squeeze .outside rest
  | .null => rfl
  | .bool true => rfl
  | .bool false => rfl
  | .number value => squeeze_numerals (fun _ hc => isNumeral_write value hc) rest
  | .string text => squeeze_writeString text rest
  | .array [] => rfl
  | .array (item :: items) => by
      rw [writePretty, write]
      simp only [List.cons_append, List.append_assoc]
      rw [squeeze_bracket (by decide), squeeze_lineBreak, squeeze_writePretty _ _ item,
        squeeze_writePrettyItems level rest items]
  | .object [] => rfl
  | .object (field :: fields) => by
      rw [writePretty, write]
      simp only [List.cons_append, List.append_assoc]
      rw [squeeze_bracket (by decide), squeeze_lineBreak, squeeze_writeString, squeeze_colon,
        squeeze_writePretty _ _ field.2, squeeze_writePrettyFields level rest fields]

theorem squeeze_writePrettyItems (level : Nat) (rest : List Char) : (items : List Json) →
    squeeze .outside (writePrettyItems level items ++ rest) =
      writeItems items ++ squeeze .outside rest
  | [] => by
      rw [writePrettyItems, writeItems, List.append_assoc, squeeze_lineBreak, List.singleton_append,
        squeeze_bracket (by decide), List.singleton_append]
  | item :: items => by
      rw [writePrettyItems, writeItems]
      simp only [List.cons_append, List.append_assoc]
      rw [squeeze_comma, squeeze_lineBreak, squeeze_writePretty _ _ item,
        squeeze_writePrettyItems level rest items]

theorem squeeze_writePrettyFields (level : Nat) (rest : List Char) :
    (fields : List (String × Json)) →
    squeeze .outside (writePrettyFields level fields ++ rest) =
      writeFields fields ++ squeeze .outside rest
  | [] => by
      rw [writePrettyFields, writeFields, List.append_assoc, squeeze_lineBreak,
        List.singleton_append, squeeze_bracket (by decide), List.singleton_append]
  | field :: fields => by
      rw [writePrettyFields, writeFields]
      simp only [List.cons_append, List.append_assoc]
      rw [squeeze_comma, squeeze_lineBreak, squeeze_writeString, squeeze_colon,
        squeeze_writePretty _ _ field.2, squeeze_writePrettyFields level rest fields]

end

/-- The indented text of a document has its compact text between the blanks. Blanks may follow. -/
theorem squeeze_pretty (j : Json) (blanks : List Char)
    (h : ∀ c ∈ blanks, isBlank c = true) :
    squeeze .outside (j.pretty.toList ++ blanks) = j.compact.toList := by
  have hblanks : squeeze .outside blanks = [] := by
    clear j
    induction blanks with
    | nil => rfl
    | cons c blanks ih =>
        obtain ⟨hc, hblanks⟩ := List.forall_mem_cons.mp h
        rw [squeeze_blank hc, ih hblanks]
  rw [pretty, compact, String.toList_ofList, String.toList_ofList, squeeze_writePretty, hblanks,
    List.append_nil]

end Documents

end FilterBook.Json
