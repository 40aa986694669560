import FilterBook.Json.Reading
import FilterBook.Text

/-!
From text to reading. The scanners of blanks, strings and numbers each return what follows; the
scanner of values is built from one for a level less of nesting, so that the limit on nesting is
the recursion's own bound.
-/

namespace FilterBook.Json

def isBlank (c : Char) : Bool :=
  c = ' ' || c = '\n' || c = '\t' || c = '\r'

def skipBlank (text : List Char) : List Char :=
  text.dropWhile isBlank

/-- Four hexadecimal digits. -/
def scanHex (text : List Char) : Except Flaw (Nat × List Char) :=
  match text with
  | a :: b :: c :: d :: rest =>
      match hexValue? a, hexValue? b, hexValue? c, hexValue? d with
      | some a, some b, some c, some d => .ok (((a * 16 + b) * 16 + c) * 16 + d, rest)
      | _, _, _, _ => .error .invalidEscape
  | short => .error (if byteLength short < 4 then .endInString else .invalidEscape)

def isTrailingSurrogate (unit : Nat) : Bool :=
  0xDC00 ≤ unit && unit ≤ 0xDFFF

def isLeadingSurrogate (unit : Nat) : Bool :=
  0xD800 ≤ unit && unit ≤ 0xDBFF

/-- The character after `\u`: four digits, or for a leading surrogate two times four. -/
def scanUnicode (text : List Char) : Except Flaw (Char × List Char) := do
  let (unit, rest) ← scanHex text
  if isTrailingSurrogate unit then
    .error .loneSurrogate
  else if isLeadingSurrogate unit then
    match rest with
    | [] => .error .endInString
    | '\\' :: [] => .error .endInString
    | '\\' :: 'u' :: rest => do
        let (second, rest) ← scanHex rest
        if isTrailingSurrogate second then
          .ok (Char.ofNat ((unit - 0xD800) * 1024 + (second - 0xDC00) + 0x10000), rest)
        else
          .error .loneSurrogate
    | _ => .error .unfinishedSurrogate
  else
    .ok (Char.ofNat unit, rest)

/-- The character after a backslash. -/
def scanEscape (text : List Char) : Except Flaw (Char × List Char) :=
  match text with
  | [] => .error .endInString
  | '"' :: rest => .ok ('"', rest)
  | '\\' :: rest => .ok ('\\', rest)
  | '/' :: rest => .ok ('/', rest)
  | 'b' :: rest => .ok ('\x08', rest)
  | 'f' :: rest => .ok ('\x0c', rest)
  | 'n' :: rest => .ok ('\n', rest)
  | 'r' :: rest => .ok ('\r', rest)
  | 't' :: rest => .ok ('\t', rest)
  | 'u' :: rest => scanUnicode rest
  | _ => .error .invalidEscape

theorem length_lt_of_scanHex {text rest : List Char} {unit : Nat}
    (h : scanHex text = .ok (unit, rest)) : rest.length < text.length := by
  unfold scanHex at h
  split at h
  · split at h
    · simp only [Except.ok.injEq, Prod.mk.injEq] at h
      rw [← h.2]
      simp only [List.length_cons]
      omega
    · cases h
  · cases h

theorem length_lt_of_scanUnicode {text rest : List Char} {c : Char}
    (h : scanUnicode text = .ok (c, rest)) : rest.length < text.length := by
  unfold scanUnicode at h
  cases hfirst : scanHex text with
  | error flaw => simp [hfirst, bind, Except.bind] at h
  | ok first =>
      obtain ⟨unit, afterFirst⟩ := first
      have hlength := length_lt_of_scanHex hfirst
      simp only [hfirst, bind, Except.bind] at h
      split at h
      · cases h
      · split at h
        · split at h
          · cases h
          · cases h
          · rename_i afterEscape
            cases hsecond : scanHex afterEscape with
            | error flaw => simp [hsecond] at h
            | ok second =>
                obtain ⟨unit', afterSecond⟩ := second
                have hlength' := length_lt_of_scanHex hsecond
                simp only [hsecond] at h
                split at h
                · simp only [Except.ok.injEq, Prod.mk.injEq] at h
                  rw [← h.2]
                  simp only [List.length_cons] at hlength
                  omega
                · cases h
          · cases h
        · simp only [Except.ok.injEq, Prod.mk.injEq] at h
          rw [← h.2]
          exact hlength

theorem length_lt_of_scanEscape {text rest : List Char} {c : Char}
    (h : scanEscape text = .ok (c, rest)) : rest.length < text.length := by
  unfold scanEscape at h
  split at h
  all_goals first
    | cases h; done
    | simp only [Except.ok.injEq, Prod.mk.injEq] at h
      rw [← h.2]
      simp only [List.length_cons, Nat.lt_add_one]
    | exact Nat.lt_succ_of_lt (length_lt_of_scanUnicode h)

/-- The rest of a string after its opening quote, and what follows its closing quote. The
characters read so far stand in reverse. -/
def scanString (read : List Char) (text : List Char) : Except Flaw (String × List Char) :=
  match text with
  | [] => .error .endInString
  | c :: rest =>
      if c = '"' then .ok (String.ofList read.reverse, rest)
      else if c = '\\' then
        match h : scanEscape rest with
        | .ok (c, after) =>
            have : after.length < rest.length := length_lt_of_scanEscape h
            scanString (c :: read) after
        | .error flaw => .error flaw
      else if c.toNat < 32 then .error .controlCharacter
      else scanString (c :: read) rest
termination_by text.length

/-- The value of a row of digits. -/
def digitsValue (digits : List Char) : Nat :=
  Nat.ofDigitChars 10 digits 0

/-- Extends a number by the digits that keep it within 64 bits, and returns the digits from the
first one that does not. -/
def takeDigits (value : Nat) : List Char → Nat × List Char
  | [] => (value, [])
  | digit :: digits =>
      let next := value * 10 + (digit.toNat - '0'.toNat)
      if (next : Int) ≤ greatestInteger then takeDigits next digits else (value, digit :: digits)

/-- A power of ten as a double. -/
def powerOfTen (k : Nat) : Double :=
  (Double.ofNat? (Nat.pow 10 k)).getD (Double.zero false)

/-- The double `significand * 10 ^ exponent`, rounded at each step: the significand, the power of
ten, and their product or quotient. A power below `10 ^ (-308)` is divided by in two steps. -/
def scaleDecimal? (significand : Nat) (exponent : Int) : Option Double := do
  let value ← Double.ofNat? significand
  if exponent > 308 then
    if significand = 0 then some value else none
  else if 0 ≤ exponent then
    value.mul? (powerOfTen exponent.toNat)
  else if -308 ≤ exponent then
    value.div? (powerOfTen (-exponent).toNat)
  else if -616 ≤ exponent then do
    let scaled ← value.div? (powerOfTen 308)
    scaled.div? (powerOfTen (-exponent - 308).toNat)
  else
    some (Double.zero false)

/-- The exponent of a number that is out of range whatever stands before it. -/
def greatestWrittenExponent : Nat := 2147483647

/-- The parts of a number: sign, digits before the point, digits after it where there is one, and
the exponent where there is one. -/
structure Numeral where
  negative : Bool
  whole : List Char
  fraction : Option (List Char)
  exponent : Option (Bool × List Char)

/-- The number that a numeral stands for. Only the leading digits that fit 64 bits count. -/
def Numeral.value (n : Numeral) : Except Flaw Number :=
  let whole := takeDigits 0 n.whole
  let fraction := takeDigits whole.1 (n.fraction.getD [])
  let shift : Int :=
    (whole.2.length : Int) - ((n.fraction.getD []).length - fraction.2.length : Nat)
  let asDouble (exponent : Int) : Except Flaw Number :=
    match scaleDecimal? fraction.1 exponent with
    | some x => .ok (.double (x.withSign n.negative))
    | none => .error .numberOutOfRange
  match n.exponent with
  | some (negative, digits) =>
      let size := digitsValue digits
      if size > greatestWrittenExponent then
        if fraction.1 ≠ 0 ∧ negative = false then .error .numberOutOfRange
        else .ok (.double (Double.zero n.negative))
      else
        asDouble (if negative then shift - size else shift + size)
  | none =>
      if n.fraction.isNone ∧ whole.2 = [] ∧ ¬(n.negative ∧ whole.1 = 0) then
        let value : Int := if n.negative then -(whole.1 : Int) else whole.1
        match Number.ofInt? value with
        | some whole => .ok whole
        | none => asDouble shift
      else
        asDouble shift

/-- The row of digits at the front, which may be empty, and what follows. -/
def spanDigits (text : List Char) : List Char × List Char :=
  (text.takeWhile Char.isDigit, text.dropWhile Char.isDigit)

/-- A row of at least one digit. -/
def scanDigits (text : List Char) : Except Flaw (List Char × List Char) :=
  match text with
  | [] => .error .endInValue
  | c :: _ => if c.isDigit then .ok (spanDigits text) else .error .invalidNumber

def scanFraction (text : List Char) : Except Flaw (Option (List Char) × List Char) :=
  match text with
  | '.' :: rest => do
      let (digits, rest) ← scanDigits rest
      pure (some digits, rest)
  | _ => .ok (none, text)

def scanExponent (text : List Char) : Except Flaw (Option (Bool × List Char) × List Char) :=
  match text with
  | c :: rest =>
      if c = 'e' ∨ c = 'E' then
        let signed : Bool × List Char :=
          match rest with
          | '-' :: rest => (true, rest)
          | '+' :: rest => (false, rest)
          | _ => (false, rest)
        do
          let (digits, rest) ← scanDigits signed.2
          pure (some (signed.1, digits), rest)
      else .ok (none, text)
  | [] => .ok (none, text)

/-- A number after its sign. A zero at the front stands alone. -/
def scanNumber (negative : Bool) (text : List Char) : Except Flaw (Number × List Char) := do
  let (whole, rest) ← scanDigits text
  if whole.length > 1 ∧ whole.head? = some '0' then
    .error .invalidNumber
  else do
    let (fraction, rest) ← scanFraction rest
    let (exponent, rest) ← scanExponent rest
    let number ← Numeral.value ⟨negative, whole, fraction, exponent⟩
    pure (number, rest)

/-- The rest of a literal. -/
def scanLiteral : List Char → List Char → Except Flaw (List Char)
  | [], text => .ok text
  | _ :: _, [] => .error .endInValue
  | expected :: more, c :: rest =>
      if c = expected then scanLiteral more rest else .error .expectedLiteral

/-- A scanner of values: the reading, and what follows it or the flaw that stopped it. -/
abbrev Scanner := List Char → Reading × Except Flaw (List Char)

/-- The flaw that stopped a scanner, if one did. -/
def stopOf (rest : Except Flaw (List Char)) : Option Flaw :=
  match rest with
  | .ok _ => none
  | .error flaw => some flaw

/-- The outcome of a scanner that reads a value or finds a flaw, and nothing in between. -/
def scanned {α : Type} (make : α → Reading) (result : Except Flaw (α × List Char)) :
    Reading × Except Flaw (List Char) :=
  match result with
  | .ok (value, rest) => (make value, .ok rest)
  | .error flaw => (.broken flaw, .error flaw)

/-- The items of an array after an item. -/
def scanItems (value : Scanner) :
    (fuel : Nat) → List Char → List Reading × Except Flaw (List Char)
  | 0, _ => ([], .error .endInList)
  | fuel + 1, text =>
      match skipBlank text with
      | [] => ([], .error .endInList)
      | ']' :: rest => ([], .ok rest)
      | ',' :: rest =>
          match skipBlank rest with
          | [] => ([], .error .endInValue)
          | ']' :: _ => ([], .error .trailingComma)
          | start =>
              match value start with
              | (item, .error flaw) => ([item], .error flaw)
              | (item, .ok rest) =>
                  let (items, rest) := scanItems value fuel rest
                  (item :: items, rest)
      | _ => ([], .error .expectedListEnd)

/-- An array after its opening bracket. -/
def scanArray (value : Scanner) : Scanner := fun text =>
  match skipBlank text with
  | [] => (.array [] (some .endInList), .error .endInList)
  | ']' :: rest => (.array [] none, .ok rest)
  | start =>
      match value start with
      | (item, .error flaw) => (.array [item] (some flaw), .error flaw)
      | (item, .ok rest) =>
          let (items, rest) := scanItems value rest.length rest
          (.array (item :: items) (stopOf rest), rest)

/-- A field after the opening quote of its key. Nothing is read where the key is flawed. -/
def scanField (value : Scanner) (text : List Char) :
    List (String × Reading) × Except Flaw (List Char) :=
  match scanString [] text with
  | .error flaw => ([], .error flaw)
  | .ok (key, rest) =>
      match skipBlank rest with
      | [] => ([(key, .broken .endInObject)], .error .endInObject)
      | ':' :: rest =>
          let (reading, rest) := value rest
          ([(key, reading)], rest)
      | _ => ([(key, .broken .expectedColon)], .error .expectedColon)

/-- The fields of an object after a field. -/
def scanFields (value : Scanner) :
    (fuel : Nat) → List Char → List (String × Reading) × Except Flaw (List Char)
  | 0, _ => ([], .error .endInObject)
  | fuel + 1, text =>
      match skipBlank text with
      | [] => ([], .error .endInObject)
      | '\x7d' :: rest => ([], .ok rest)
      | ',' :: rest =>
          match skipBlank rest with
          | [] => ([], .error .endInValue)
          | '"' :: rest =>
              match scanField value rest with
              | (field, .error flaw) => (field, .error flaw)
              | (field, .ok rest) =>
                  let (fields, rest) := scanFields value fuel rest
                  (field ++ fields, rest)
          | '\x7d' :: _ => ([], .error .trailingComma)
          | _ => ([], .error .keyNotString)
      | _ => ([], .error .expectedObjectEnd)

/-- An object after its opening brace. -/
def scanObject (value : Scanner) : Scanner := fun text =>
  match skipBlank text with
  | [] => (.object [] (some .endInObject), .error .endInObject)
  | '\x7d' :: rest => (.object [] none, .ok rest)
  | '"' :: rest =>
      match scanField value rest with
      | (field, .error flaw) => (.object field (some flaw), .error flaw)
      | (field, .ok rest) =>
          let (fields, rest) := scanFields value rest.length rest
          (.object (field ++ fields) (stopOf rest), rest)
  | _ => (.object [] (some .keyNotString), .error .keyNotString)

/-- A value, given how the inside of an array and of an object is read. -/
def scanWith (array object : Scanner) : Scanner := fun text =>
  match skipBlank text with
  | [] => (.broken .endInValue, .error .endInValue)
  | c :: rest =>
      if c = 'n' then
        scanned (fun _ => .null) ((scanLiteral ['u', 'l', 'l'] rest).map ((), ·))
      else if c = 't' then
        scanned .bool ((scanLiteral ['r', 'u', 'e'] rest).map (true, ·))
      else if c = 'f' then
        scanned .bool ((scanLiteral ['a', 'l', 's', 'e'] rest).map (false, ·))
      else if c = '"' then scanned .string (scanString [] rest)
      else if c = '[' then array rest
      else if c = '\x7b' then object rest
      else if c = '-' then scanned .number (scanNumber true rest)
      else if c.isDigit then scanned .number (scanNumber false (c :: rest))
      else (.broken .expectedValue, .error .expectedValue)

/-- The outcome of entering an array or object beyond the limit. -/
def tooDeep (make : Option Flaw → Reading) : Scanner := fun _ =>
  (make (some .nestedTooDeep), .error .nestedTooDeep)

/-- A value that may nest arrays and objects up to the given number of levels. -/
def scanValue : (levels : Nat) → Scanner
  | 0 => scanWith (tooDeep (.array [])) (tooDeep (.object []))
  | levels + 1 => scanWith (scanArray (scanValue levels)) (scanObject (scanValue levels))

/-- How many levels of arrays and objects a text may nest. -/
def greatestNesting : Nat := 127

/-- An error for anything but blanks. -/
def endOfText (text : List Char) : Except Fault Unit :=
  match skipBlank text with
  | [] => .ok ()
  | _ => .error (.flaw .trailingCharacters)

/-- Reads a text as a value of some type, given how that type is taken from a reading. -/
def decode {α : Type} (take : Reading → Except Fault α) (text : List Char) : Except Fault α :=
  let (reading, rest) := scanValue greatestNesting text
  match take reading, rest with
  | .error fault, _ => .error fault
  | .ok _, .error flaw => .error (.flaw flaw)
  | .ok value, .ok rest => do
      endOfText rest
      pure value

end FilterBook.Json
