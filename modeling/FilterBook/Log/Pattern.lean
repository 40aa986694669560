import FilterBook.Text
import FilterBook.Text.Word

/-!
Patterns for the values of fields, which are regular expressions. Only whether a text is a pattern
matters here. A pattern stands between braces, so no closing brace occurs in it, and what would need
one is left open: counts of repetitions, and names and numbers in braces. Flags tell how a pattern
is read: for characters of all scripts it may not ask for boundaries of words, and for bytes it may
not ask for bytes beyond ASCII.
-/

namespace FilterBook.Log.Pattern

/-- How a pattern is read: for characters of all scripts or for bytes, and whether blanks and
comments in it are passed over. -/
structure Flags where
  unicode : Bool
  spaced : Bool
deriving DecidableEq, Repr

namespace Flags

def start : Flags :=
  ⟨true, false⟩

/-- The flags after a letter that sets or clears one. Most letters change nothing here. -/
def change (f : Flags) (letter : Char) (value : Bool) : Flags :=
  if letter = 'u' then { f with unicode := value }
  else if letter = 'x' then { f with spaced := value }
  else f

end Flags

/-- What follows blanks and comments. A comment goes from a number sign to the end of its line. -/
def afterBlanks (inComment : Bool) : List Char → List Char
  | [] => []
  | c :: rest =>
      if inComment then afterBlanks (c ≠ '\n') rest
      else if c = '#' then afterBlanks true rest
      else if isSpace c then afterBlanks false rest
      else c :: rest

/-- The text from the next character on that counts. -/
def Flags.skip (f : Flags) (text : List Char) : List Char :=
  if f.spaced then afterBlanks false text else text

/-- What a part of a pattern stands for: a character, some set of characters, or a position between
characters. -/
inductive Part where
  | char (c : Char)
  | set
  | position
deriving DecidableEq, Repr

/-- The character that a letter stands for after a backslash. -/
def controlOf? (letter : Char) : Option Char :=
  [('a', '\x07'), ('f', '\x0c'), ('t', '\t'), ('n', '\n'), ('r', '\r'), ('v', '\x0b')].lookup letter

/-- The letters that name a category of characters. -/
def isCategory (letter : Char) : Bool :=
  "clmnpsz".toList.contains letter.toLower

/-- Whether a backslash makes a character stand for itself. -/
def isEscapable (c : Char) : Bool :=
  c.toNat < 128 && !c.isAlphanum && c ≠ '<' && c ≠ '>'

/-- The character with a number of the given count of hexadecimal digits, and the text after it. -/
def numbered? (flags : Flags) : (count : Nat) → (digits : List Char) → List Char →
    Option (Char × List Char)
  | 0, digits, text => (numberedChar? digits.length digits.reverse).map fun c => (c, text)
  | count + 1, digits, text =>
      match flags.skip text with
      | c :: rest =>
          if (hexValue? c).isSome then numbered? flags count (c :: digits) rest else none
      | [] => none

/-- What follows a backslash, and the text after it. -/
def escape? (flags : Flags) : List Char → Option (Part × List Char)
  | [] => none
  | c :: rest =>
      let ifUnicode (part : Part) := if flags.unicode then some (part, rest) else none
      let ifBytes (part : Part) := if flags.unicode then none else some (part, rest)
      let found (numbered : Char × List Char) := (Part.char numbered.1, numbered.2)
      if c = 'x' then
        match numbered? flags 2 [] rest with
        | some (byte, rest) =>
            if flags.unicode || byte.toNat < 128 then some (.char byte, rest) else none
        | none => none
      else if c = 'u' then (numbered? flags 4 [] rest).map found
      else if c = 'U' then (numbered? flags 8 [] rest).map found
      else if c = 'p' ∨ c = 'P' then
        match flags.skip rest with
        | letter :: rest =>
            if flags.unicode && isCategory letter then some (.set, rest) else none
        | [] => none
      else if "dsw".toList.contains c then some (.set, rest)
      else if "DSW".toList.contains c then ifUnicode .set
      else if "bB<>".toList.contains c then ifBytes .position
      else if c = 'A' ∨ c = 'z' then some (.position, rest)
      else
        match controlOf? c with
        | some control => some (.char control, rest)
        | none => if isEscapable c then some (.char c, rest) else none

/-- The names of sets of ASCII characters. -/
def setNames : List String :=
  ["alnum", "alpha", "ascii", "blank", "cntrl", "digit", "graph", "lower", "print", "punct",
    "space", "upper", "word", "xdigit"]

/-- A set that is named between colons within a class, such as `[:alpha:]`, from its first colon on:
whether it is turned around, and the text after it. -/
def namedSet? : List Char → Option (Bool × List Char)
  | ':' :: text =>
      let turned := text.head? = some '^'
      let text := if turned then text.drop 1 else text
      let name := String.ofList (text.takeWhile (· ≠ ':'))
      match text.dropWhile (· ≠ ':') with
      | ':' :: ']' :: rest => if setNames.contains name then some (turned, rest) else none
      | _ => none
  | _ => none

/-- What follows hyphens at the start of a class. -/
def afterHyphens (flags : Flags) : (fuel : Nat) → List Char → List Char
  | 0, text => text
  | fuel + 1, text =>
      match flags.skip text with
      | '-' :: rest => afterHyphens flags fuel rest
      | text => text

/-- What follows the opening of a class after its bracket: a sign that the class is turned around,
and the hyphens or the closing bracket that stand for themselves there. -/
def openClass? (flags : Flags) (text : List Char) : Option (List Char) :=
  let text := flags.skip text
  let turned := text.head? = some '^'
  let text := if turned then flags.skip (text.drop 1) else text
  if turned ∧ ¬ flags.unicode then none
  else if text.head? = some ']' then some (text.drop 1)
  else some (afterHyphens flags text.length text)

/-- A part of a class. -/
def classPart? (flags : Flags) : List Char → Option (Part × List Char)
  | [] => none
  | '\\' :: rest => escape? flags rest
  | c :: rest => some (.char c, rest)

/-- Whether a class may hold a part by itself. -/
def isMember (flags : Flags) : Part → Bool
  | .char c => flags.unicode || c.toNat < 128
  | .set => true
  | .position => false

/-- What follows a part of a class or a range from one character to another. -/
def afterRange? (flags : Flags) (text : List Char) : Option (List Char) := do
  let (first, rest) ← classPart? flags text
  let rest := flags.skip rest
  let next := (flags.skip (rest.drop 1)).head?
  if !isMember flags first then none
  else if rest.head? = some '-' ∧ next ≠ some ']' ∧ next ≠ some '-' then do
    let (last, rest) ← classPart? flags (flags.skip (rest.drop 1))
    match first, last with
    | .char a, .char b => if a ≤ b ∧ isMember flags last then some rest else none
    | _, _ => none
  else some rest

/-- What follows a class, after its opening and within the given number of other classes. -/
def afterClass? (flags : Flags) : (fuel : Nat) → (outer : Nat) → List Char → Option (List Char)
  | 0, _, _ => none
  | fuel + 1, outer, text =>
      let text := flags.skip text
      match text with
      | [] => none
      | '[' :: rest =>
          match namedSet? rest with
          | some (turned, rest) =>
              if turned ∧ ¬ flags.unicode then none else afterClass? flags fuel outer rest
          | none => (openClass? flags rest).bind fun rest => afterClass? flags fuel (outer + 1) rest
      | ']' :: rest =>
          match outer with
          | 0 => some rest
          | outer + 1 => afterClass? flags fuel outer rest
      | '&' :: '&' :: rest => afterClass? flags fuel outer rest
      | '-' :: '-' :: rest => afterClass? flags fuel outer rest
      | '~' :: '~' :: rest => afterClass? flags fuel outer rest
      | _ => (afterRange? flags text).bind fun rest => afterClass? flags fuel outer rest

/-- The opening of a group, with the flags that hold from there on. -/
inductive Opening where
  | group (flags : Flags)
  | named (name : List Char)
  /-- Only flags that hold for what follows, and no group. -/
  | change (flags : Flags)
deriving DecidableEq, Repr

/-- The flags of a group after the given letters, the last first. Each letter may stand once. What
stands after a hyphen is cleared, and something must stand there. -/
def flags? (flags : Flags) (before : List Char) : List Char → Option (Opening × List Char)
  | [] => none
  | c :: rest =>
      if c = ':' then if before.head? = some '-' then none else some (.group flags, rest)
      else if c = ')' then
        if before = [] ∨ before.head? = some '-' then none else some (.change flags, rest)
      else if "-imsUuRx".toList.contains c ∧ ¬ before.contains c then
        flags? (flags.change c (!before.contains '-')) (c :: before) rest
      else none

/-- The name of a group and the text after it. -/
def name? (text : List Char) : Option (Opening × List Char) :=
  let name := text.takeWhile (· ≠ '>')
  let isNameChar (c : Char) := isWordChar c || "_.[]".toList.contains c
  let starts := name.head?.any fun c => c = '_' || (isWordChar c && !c.isDigit)
  match text.dropWhile (· ≠ '>') with
  | _ :: rest => if starts ∧ name.all isNameChar then some (.named name, rest) else none
  | [] => none

/-- The opening of a group after its parenthesis, and the text after it. -/
def opening? (flags : Flags) (text : List Char) : Option (Opening × List Char) :=
  match flags.skip text with
  | '?' :: '<' :: rest => name? rest
  | '?' :: 'P' :: '<' :: rest => name? rest
  | '?' :: rest => flags? flags [] rest
  | rest => some (.group flags, rest)

/-- How many groups may be open at once. -/
def greatestNesting : Nat := 250

/-- How far a pattern has been read: the flags, those before each group that is open, the names of
groups, and whether a part stands before that may be repeated. -/
structure State where
  flags : Flags
  outer : List Flags
  names : List (List Char)
  repeatable : Bool

namespace State

def start : State :=
  ⟨Flags.start, [], [], false⟩

/-- Opens a group. -/
def enter? (s : State) (flags : Flags) : Option State :=
  if s.outer.length < greatestNesting then
    some { s with flags, outer := s.flags :: s.outer, repeatable := false }
  else none

/-- Reads the opening of a group. Names do not repeat. -/
def open? (s : State) : Opening → Option State
  | .group flags => s.enter? flags
  | .named name =>
      if s.names.contains name then none
      else (s.enter? s.flags).map fun s => { s with names := name :: s.names }
  | .change flags => some { s with flags, repeatable := false }

/-- Closes a group. The flags before it hold again. -/
def close? (s : State) : Option State :=
  match s.outer with
  | flags :: outer => some { s with flags, outer, repeatable := true }
  | [] => none

/-- Reads the next part of a pattern. -/
def step? (s : State) (c : Char) (rest : List Char) : Option (State × List Char) :=
  let after (rest : List Char) := ({ s with repeatable := true }, rest)
  if c = '(' then do
    let (opening, rest) ← opening? s.flags rest
    let s ← s.open? opening
    some (s, rest)
  else if c = ')' then s.close?.map fun s => (s, rest)
  else if c = '|' then some ({ s with repeatable := false }, rest)
  else if c = '[' then do
    let inClass ← openClass? s.flags rest
    (afterClass? s.flags (inClass.length + 1) 0 inClass).map after
  else if c = '\\' then (escape? s.flags rest).map fun (_, rest) => after rest
  else if c = '\x7b' then none
  else if c = '.' then if s.flags.unicode then some (after rest) else none
  else if c = '?' ∨ c = '*' ∨ c = '+' then
    let rest := if rest.head? = some '?' then rest.drop 1 else rest
    if s.repeatable then some (after rest) else none
  else some (after rest)

/-- Whether a pattern may end with the text. -/
def finishes (s : State) : (fuel : Nat) → List Char → Bool
  | 0, _ => false
  | fuel + 1, text =>
      match s.flags.skip text with
      | [] => s.outer.isEmpty
      | c :: rest =>
          match s.step? c rest with
          | some (s, rest) => finishes s fuel rest
          | none => false

end State

/-- Whether a text is a decimal number with no sign, or names infinity or what is no number. -/
def isUnsignedNumber (text : List Char) : Bool :=
  let fraction := text.dropWhile Char.isDigit
  let exponent := match fraction with
    | '.' :: rest => rest.dropWhile Char.isDigit
    | _ => fraction
  let digits := (text.take (text.length - exponent.length)).filter Char.isDigit
  let isExponent := match exponent with
    | [] => true
    | mark :: rest => (mark = 'e' || mark = 'E') && (signedDecimal? rest).isSome
  ["inf", "infinity", "nan"].contains (String.ofList (text.map Char.toLower)) ||
    (!digits.isEmpty && isExponent)

/-- Whether a text is a pattern. A number with a plus sign is one too, and stands for itself. -/
def isPattern (text : List Char) : Bool :=
  match text with
  | '+' :: number => isUnsignedNumber number
  | _ => State.start.finishes (text.length + 1) text

end FilterBook.Log.Pattern
