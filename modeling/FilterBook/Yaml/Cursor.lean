import FilterBook.Text

/-!
A place in a YAML text: what follows it, and where it is. Lines may end in a line feed, a carriage
return, both, or one of the three separators beyond ASCII; all but the last two of those read as a
line feed.
-/

namespace FilterBook.Yaml

def isBlank (c : Char) : Bool :=
  c = ' ' || c = '\t'

def isBreak (c : Char) : Bool :=
  c = '\n' || c = '\r' || c = '\x85' || c = '\u2028' || c = '\u2029'

def isBlankOrBreak (c : Char) : Bool :=
  isBlank c || isBreak c

/-- The characters of names: letters and digits of ASCII, underscore and hyphen. -/
def isWord (c : Char) : Bool :=
  c.isAlphanum || c = '_' || c = '-'

/-- Whether a text may hold the character at all. -/
def isAllowed (c : Char) : Bool :=
  let n := c.toNat
  n == 0x09 || n == 0x0A || n == 0x0D || (0x20 ≤ n && n ≤ 0x7E) || n == 0x85 ||
    (0xA0 ≤ n && n ≤ 0xD7FF) || (0xE000 ≤ n && n ≤ 0xFFFD) || 0x10000 ≤ n

/-- Whether a text starts with a blank, a line break or its end. -/
def blankAhead : List Char → Bool
  | [] => true
  | c :: _ => isBlankOrBreak c

/-- What follows a place, its line and column, the number of bytes before it, and the number of
characters of the whole text. -/
structure Cursor where
  rest : List Char
  line : Nat
  column : Nat
  offset : Nat
  size : Nat

namespace Cursor

def start (text : List Char) : Cursor :=
  ⟨text, 0, 0, 0, text.length⟩

def peek? (c : Cursor) : Option Char :=
  c.rest.head?

/-- Whether the next character is the given one. -/
def at? (c : Cursor) (expected : Char) : Bool :=
  c.peek? == some expected

def atEnd (c : Cursor) : Bool :=
  c.rest.isEmpty

def atBlank (c : Cursor) : Bool :=
  c.peek?.any isBlank

def atBreak (c : Cursor) : Bool :=
  c.peek?.any isBreak

/-- Whether a line or the text ends here. -/
def atLineEnd (c : Cursor) : Bool :=
  c.atEnd || c.atBreak

/-- Whether a blank, a line break or the end of the text follows. -/
def atGap (c : Cursor) : Bool :=
  blankAhead c.rest

/-- Passes over characters within a line. -/
def advance (c : Cursor) (n : Nat) : Cursor :=
  { c with
    rest := c.rest.drop n
    column := c.column + n
    offset := c.offset + byteLength (c.rest.take n) }

/-- The characters within a line that satisfy a test, and the place after them. -/
def span (c : Cursor) (test : Char → Bool) : List Char × Cursor :=
  let taken := c.rest.takeWhile test
  (taken, c.advance taken.length)

def skipWhile (c : Cursor) (test : Char → Bool) : Cursor :=
  (c.span test).2

/-- The place after the given number of characters, which end a line. -/
def newLine (c : Cursor) (n : Nat) : Cursor :=
  { c.advance n with line := c.line + 1, column := 0 }

/-- A line break, as it reads in a scalar, and the place after it. Where there is none, nothing is
read. -/
def takeBreak (c : Cursor) : List Char × Cursor :=
  match c.rest with
  | '\r' :: '\n' :: _ => (['\n'], c.newLine 2)
  | first :: _ =>
      if first = '\u2028' ∨ first = '\u2029' then ([first], c.newLine 1)
      else if isBreak first then (['\n'], c.newLine 1)
      else ([], c)
  | [] => ([], c)

def skipBreak (c : Cursor) : Cursor :=
  c.takeBreak.2

def skipComment (c : Cursor) : Cursor :=
  if c.at? '#' then c.skipWhile (!isBreak ·) else c

/-- Passes over the rest of a line, which may hold blanks and a comment only. -/
def finishLine? (c : Cursor) : Option Cursor :=
  let c := (c.skipWhile isBlank).skipComment
  if c.atLineEnd then some c.skipBreak else none

/-- Whether a line starts here with the mark of a document's start or end. -/
def atDocumentMark (c : Cursor) : Bool :=
  c.column == 0 &&
    match c.rest with
    | '-' :: '-' :: '-' :: rest => blankAhead rest
    | '.' :: '.' :: '.' :: rest => blankAhead rest
    | _ => false

end Cursor

end FilterBook.Yaml
