import FilterBook.Date.Moment
import FilterBook.Text

/-!
The six ways to write a date. The first is strict: fields of fixed width, and an offset from
universal time. The others have no offset and are lenient: a number may have fewer digits and blanks
before it, and a year may have a sign. A blank between date and time stands for any number of
blanks, even none.
-/

namespace FilterBook.Date

/-- A scanner of a part of a date: its value, and what follows. -/
abbrev Part (α : Type) := List Char → Option (α × List Char)

/-- A number of at least `least` digits, at most `most` of which are read. -/
def digits (least most : Nat) : Part Nat := fun text =>
  let row := (text.take most).takeWhile Char.isDigit
  if row.length < least then none
  else some (Nat.ofDigitChars 10 row 0, text.drop row.length)

def literal (c : Char) : Part Unit := fun text =>
  match text with
  | first :: rest => if first = c then some ((), rest) else none
  | [] => none

/-- A number of one or two digits, after any blanks. -/
def lenient : Part Nat := fun text =>
  digits 1 2 (trimStart text)

/-- A year of up to four digits, or with a sign of any number of digits. -/
def year : Part Int := fun text =>
  match trimStart text with
  | '-' :: rest => (digits 1 rest.length rest).map fun (n, rest) => (-(n : Int), rest)
  | '+' :: rest => (digits 1 rest.length rest).map fun (n, rest) => ((n : Int), rest)
  | rest => (digits 1 4 rest).map fun (n, rest) => ((n : Int), rest)

/-- Nanoseconds after a point. Digits after the ninth are passed over. -/
def fraction : Part Nat := fun text =>
  let row := (text.take 9).takeWhile Char.isDigit
  if row = [] then none
  else
    some (Nat.ofDigitChars 10 row 0 * Nat.pow 10 (9 - row.length),
      (text.drop row.length).dropWhile Char.isDigit)

/-- A fraction where there is a point. -/
def optionalFraction : Part Nat := fun text =>
  match text with
  | '.' :: rest => fraction rest
  | _ => some (0, text)

/-- An offset from universal time, in seconds. -/
def offset : Part Int := fun text =>
  match text with
  | [] => none
  | sign :: rest =>
      if sign = 'Z' ∨ sign = 'z' then some (0, rest)
      else do
        let negative ←
          if sign = '+' then some false
          else if sign = '-' ∨ sign = '−' then some true
          else none
        let (hours, rest) ← digits 2 2 rest
        let ((), rest) ← literal ':' rest
        let (minutes, rest) ← digits 2 2 rest
        if hours ≤ 23 ∧ minutes ≤ 59 then
          let seconds : Int := ((hours * 60 + minutes) * 60 : Nat)
          some (if negative then -seconds else seconds, rest)
        else none

/-- The value of a part that is the whole text. -/
def whole {α : Type} (part : Part α) (text : List Char) : Option α :=
  match part text with
  | some (value, []) => some value
  | _ => none

/-- What stands between date and time with an offset. -/
def dateTimeMark : Part Unit := fun text =>
  match text with
  | 'T' :: rest => some ((), rest)
  | 't' :: rest => some ((), rest)
  | ' ' :: rest => some ((), rest)
  | _ => none

/-- A date and time with an offset, in fields of fixed width. -/
def withOffset : Part Moment := fun text => do
  let (year, rest) ← digits 4 4 text
  let ((), rest) ← literal '-' rest
  let (month, rest) ← digits 2 2 rest
  let ((), rest) ← literal '-' rest
  let (day, rest) ← digits 2 2 rest
  let ((), rest) ← dateTimeMark rest
  let (hour, rest) ← digits 2 2 rest
  let ((), rest) ← literal ':' rest
  let (minute, rest) ← digits 2 2 rest
  let ((), rest) ← literal ':' rest
  let (second, rest) ← digits 2 2 rest
  let (nanosecond, rest) ← optionalFraction rest
  let (seconds, rest) ← offset rest
  let moment ← Moment.ofClock? ⟨year, month, day⟩ hour minute second nanosecond
  some (moment.minusSeconds seconds, rest)

/-- Year, month and day, leniently. -/
def date : Part CivilDate := fun text => do
  let (year, rest) ← year text
  let ((), rest) ← literal '-' rest
  let (month, rest) ← lenient rest
  let ((), rest) ← literal '-' rest
  let (day, rest) ← lenient rest
  some (⟨year, month, day⟩, rest)

/-- What stands between date and time without an offset. -/
inductive Separator where
  | letter
  | blanks
deriving DecidableEq, Repr

def Separator.part : Separator → Part Unit
  | .letter => literal 'T'
  | .blanks => fun text => some ((), trimStart text)

/-- Date and time without an offset, leniently, with or without room for a fraction. -/
def withoutOffset (separator : Separator) (allowsFraction : Bool) : Part Moment := fun text => do
  let (date, rest) ← date text
  let ((), rest) ← separator.part rest
  let (hour, rest) ← lenient rest
  let ((), rest) ← literal ':' rest
  let (minute, rest) ← lenient rest
  let ((), rest) ← literal ':' rest
  let (second, rest) ← lenient rest
  let (nanosecond, rest) ← if allowsFraction then optionalFraction rest else some (0, rest)
  let moment ← Moment.ofClock? date hour minute second nanosecond
  some (moment, rest)

/-- The start of a day. -/
def midnight : Part Moment := fun text => do
  let (date, rest) ← date text
  let moment ← Moment.ofClock? date 0 0 0 0
  some (moment, rest)

/-- The ways to write a date, in the order in which they are tried. -/
def readers : List (List Char → Option Moment) :=
  [whole withOffset, whole (withoutOffset .letter false), whole (withoutOffset .letter true),
    whole (withoutOffset .blanks false), whole (withoutOffset .blanks true), whole midnight]

/-- The moment that a text without blanks at its ends stands for. -/
def read? (text : List Char) : Option Moment :=
  readers.findSome? fun reader => reader text

end FilterBook.Date
