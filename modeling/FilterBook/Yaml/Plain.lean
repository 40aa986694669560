import FilterBook.Number
import FilterBook.Yaml.Node

/-!
What a scalar stands for. A tag tells its type; without one, a plain scalar is a null, a boolean, a
whole number or a decimal where it looks like one, and every other scalar is a string. Digits with a
zero before them are a string.
-/

namespace FilterBook.Yaml

inductive Value where
  | null
  | bool (value : Bool)
  | integer (isSigned : Bool) (value : Int)
  | decimal (value : Double)
  | string (text : String)

def isNullWord (text : List Char) : Bool :=
  ["~", "null", "Null", "NULL"].any (·.toList == text)

def boolWord? (text : List Char) : Option Bool :=
  if ["true", "True", "TRUE"].any (·.toList == text) then some true
  else if ["false", "False", "FALSE"].any (·.toList == text) then some false
  else none

/-- The value of a row of digits to a base of at most sixteen. -/
def digitsToBase? (base : Nat) (digits : List Char) : Option Nat :=
  if digits = [] then none
  else
    digits.foldlM (fun value digit => do
      let next ← hexValue? digit
      if next < base then some (value * base + next) else none) 0

/-- Whether a text is digits, after a sign where there is one, with a zero before others. -/
def isPaddedDigits (text : List Char) : Bool :=
  let unsigned := match text with
    | '-' :: rest => rest
    | '+' :: rest => rest
    | _ => text
  match unsigned with
  | '0' :: rest => rest ≠ [] && rest.all Char.isDigit
  | _ => false

/-- The value of a whole number without its sign: to base sixteen, eight or two after a mark that
says so, otherwise to base ten. -/
def magnitude? (text : List Char) : Option Nat :=
  let marked := match text with
    | '0' :: 'x' :: digits => digitsToBase? 16 digits
    | '0' :: 'o' :: digits => digitsToBase? 8 digits
    | '0' :: 'b' :: digits => digitsToBase? 2 digits
    | _ => none
  match marked with
  | some value => some value
  | none => if isPaddedDigits text then none else digitsToBase? 10 text

/-- A whole number, with or without a sign. -/
def wholeNumber? (text : List Char) : Option Value :=
  match text with
  | '-' :: rest => (magnitude? rest).map fun n => .integer true (-(n : Int))
  | '+' :: rest => (magnitude? rest).map fun n => .integer false n
  | _ => (magnitude? text).map fun n => .integer false n

/-- The whole numbers that are kept at all: those of 128 bits, with or without a sign. -/
def isKept : Value → Bool
  | .integer _ value => -(Nat.pow 2 127 : Int) ≤ value && value < (Nat.pow 2 128 : Int)
  | _ => true

/-- The exponent at the end of a decimal, which may be left out. -/
def decimalExponent? (text : List Char) : Option Int :=
  match text with
  | [] => some 0
  | mark :: rest =>
      if mark = 'e' ∨ mark = 'E' then
        match rest with
        | '-' :: digits => (digitsToBase? 10 digits).map fun n => -(n : Int)
        | '+' :: digits => (digitsToBase? 10 digits).map fun n => (n : Int)
        | digits => (digitsToBase? 10 digits).map fun n => (n : Int)
      else none

/-- The double nearest to `± digits * 10 ^ exponent`. Exponents that decide by themselves that the
value is zero or too large are not computed with. -/
def nearestDouble? (negative : Bool) (digits : Nat) (length : Nat) (exponent : Int) :
    Option Double :=
  if digits = 0 ∨ exponent < -(length : Int) - 400 then some (Double.zero negative)
  else if exponent > 400 then none
  else Double.ofDecimal? negative digits exponent

/-- A decimal without a plus sign: digits, a point where there is one, and an exponent. One that is
too large for a double is none. -/
def unsignedDecimal? (negative : Bool) (text : List Char) : Option Double :=
  let whole := text.takeWhile Char.isDigit
  let (fraction, rest) : List Char × List Char :=
    match text.dropWhile Char.isDigit with
    | '.' :: rest => (rest.takeWhile Char.isDigit, rest.dropWhile Char.isDigit)
    | rest => ([], rest)
  let digits := whole ++ fraction
  if digits = [] then none
  else do
    let exponent ← decimalExponent? rest
    nearestDouble? negative (Nat.ofDigitChars 10 digits 0) digits.length
      (exponent - fraction.length)

/-- A decimal with or without a sign. -/
def decimal? (text : List Char) : Option Double :=
  match text with
  | '-' :: rest => unsignedDecimal? true rest
  | '+' :: rest => unsignedDecimal? false rest
  | _ => unsignedDecimal? false text

/-- Whether a text names a value that is no finite number. -/
def isNotFinite (text : List Char) : Bool :=
  [".inf", ".Inf", ".INF", "+.inf", "+.Inf", "+.INF", "-.inf", "-.Inf", "-.INF", ".nan", ".NaN",
    ".NAN"].any (·.toList == text)

/-- What a plain scalar without a tag stands for, if it can stand for anything here. -/
def ofPlain? (text : String) : Option Value :=
  let cs := text.toList
  if cs = [] ∨ isNullWord cs then some .null
  else
    match boolWord? cs with
    | some value => some (.bool value)
    | none =>
        match (wholeNumber? cs).filter isKept with
        | some value => some value
        | none =>
            if isPaddedDigits cs then some (.string text)
            else if isNotFinite cs then none
            else
              match decimal? cs with
              | some value => some (.decimal value)
              | none => some (.string text)

/-- What a scalar stands for, if it fits its tag. A tag that is marked as the document's own but is
no text counts for nothing where the scalar is plain. -/
def ofScalar? (tag : Option Tag) (style : Style) (text : String) : Option Value :=
  match tag with
  | none => if style = .plain then ofPlain? text else some (.string text)
  | some tag =>
      let cs := text.toList
      if tag.isLocal then none
      else if tag = Tag.bool then (boolWord? cs).map .bool
      else if tag = Tag.int then (wholeNumber? cs).filter isKept
      else if tag = Tag.float then (decimal? cs).map .decimal
      else if tag = Tag.null then if isNullWord cs then some .null else none
      else if tag.isMarked ∧ style = .plain then ofPlain? text
      else some (.string text)

end FilterBook.Yaml
