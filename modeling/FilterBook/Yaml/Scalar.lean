import FilterBook.Text
import FilterBook.Yaml.Cursor

/-!
The five ways to write a scalar in YAML, from the place where it starts to its text and the place
after it. Within plain and quoted scalars a line break folds: alone it reads as a space, and of
several the first is dropped. A block scalar is the indented lines below its header.
-/

namespace FilterBook.Yaml

inductive Style where
  | plain
  | singleQuoted
  | doubleQuoted
  | literal
  | folded
deriving DecidableEq, Repr

/-- The blanks and line breaks between two words of a scalar. -/
structure Gap where
  blanks : List Char
  broken : Bool
  firstBreak : List Char
  moreBreaks : List Char

namespace Gap

/-- A gap that begins within a line, or after a line break that does not count. -/
def start (broken : Bool) : Gap :=
  ⟨[], broken, [], []⟩

/-- How the gap reads. -/
def text (g : Gap) : List Char :=
  if g.broken then
    if g.firstBreak = ['\n'] then
      if g.moreBreaks = [] then [' '] else g.moreBreaks
    else g.firstBreak ++ g.moreBreaks
  else g.blanks

/-- Reads a gap. In a line after the first, a tab may not stand left of the indentation. -/
def scan? (indent : Nat) : (fuel : Nat) → Gap → Cursor → Option (Gap × Cursor)
  | 0, g, c => some (g, c)
  | fuel + 1, g, c =>
      if c.atBlank then
        if g.broken ∧ c.column < indent ∧ c.at? '\t' then none
        else if g.broken then scan? indent fuel g (c.advance 1)
        else scan? indent fuel { g with blanks := g.blanks ++ c.rest.take 1 } (c.advance 1)
      else if c.atBreak then
        let (lineBreak, after) := c.takeBreak
        if g.broken then
          scan? indent fuel { g with moreBreaks := g.moreBreaks ++ lineBreak } after
        else scan? indent fuel ⟨[], true, lineBreak, []⟩ after
      else some (g, c)

end Gap

/-- The characters that end a plain scalar in a flow collection. -/
def isFlowEnd (c : Char) : Bool :=
  c = ',' || c = '[' || c = ']' || c = '\x7b' || c = '\x7d'

/-- A word of a plain scalar. It ends before a blank, before a colon that a blank follows, and in a
flow collection before an indicator, which may not follow a colon at once. -/
def plainWord? (inFlow : Bool) : List Char → Option (List Char)
  | [] => some []
  | c :: rest =>
      if isBlankOrBreak c then some []
      else if inFlow && c = ':' && rest.head?.any (fun next => next = '?' || isFlowEnd next) then
        none
      else if (c = ':' && blankAhead rest) || (inFlow && isFlowEnd c) then some []
      else (plainWord? inFlow rest).map (c :: ·)

/-- A plain scalar from its next word on, given its text so far in pieces, the last at the front,
and the gap before the word. Tells also whether a line break stands at its end. -/
def scanPlain? (inFlow : Bool) (indent : Nat) :
    (fuel : Nat) → List (List Char) → Gap → Cursor → Option (String × Bool × Cursor)
  | 0, _, _, _ => none
  | fuel + 1, pieces, gap, c => do
      let finish (pieces : List (List Char)) (broken : Bool) (c : Cursor) :=
        some (String.ofList pieces.reverse.flatten, broken, c)
      if c.atDocumentMark || c.at? '#' then finish pieces gap.broken c
      else do
        let word ← plainWord? inFlow c.rest
        if word = [] then finish pieces gap.broken c
        else do
          let c := c.advance word.length
          let pieces := word :: gap.text :: pieces
          if !(c.atBlank || c.atBreak) then finish pieces false c
          else do
            let (gap, c) ← Gap.scan? indent (c.size + 1) (Gap.start false) c
            if !inFlow ∧ c.column < indent then finish pieces gap.broken c
            else scanPlain? inFlow indent fuel pieces gap c

/-- The character that an escape stands for, and how many characters it takes after the
backslash. -/
def escaped? (text : List Char) : Option (Char × Nat) :=
  match text with
  | [] => none
  | c :: rest =>
      let numbered (count : Nat) := (numberedChar? count rest).map fun c => (c, count + 1)
      match c with
      | '0' => some ('\x00', 1)
      | 'a' => some ('\x07', 1)
      | 'b' => some ('\x08', 1)
      | 't' => some ('\t', 1)
      | '\t' => some ('\t', 1)
      | 'n' => some ('\n', 1)
      | 'v' => some ('\x0b', 1)
      | 'f' => some ('\x0c', 1)
      | 'r' => some ('\r', 1)
      | 'e' => some ('\x1b', 1)
      | ' ' => some (' ', 1)
      | '"' => some ('"', 1)
      | '/' => some ('/', 1)
      | '\\' => some ('\\', 1)
      | 'N' => some ('\x85', 1)
      | '_' => some ('\xa0', 1)
      | 'L' => some ('\u2028', 1)
      | 'P' => some ('\u2029', 1)
      | 'x' => numbered 2
      | 'u' => numbered 4
      | 'U' => numbered 8
      | _ => none

/-- A quoted word: up to a blank, a line break, the closing quote or an escaped line break, which is
passed over. The characters read stand in reverse. -/
def quotedWord? (single : Bool) :
    (fuel : Nat) → List Char → Cursor → Option (List Char × Bool × Cursor)
  | 0, read, c => some (read, false, c)
  | fuel + 1, read, c =>
      match c.rest with
      | [] => some (read, false, c)
      | first :: rest =>
          if isBlankOrBreak first then some (read, false, c)
          else if single then
            if first = '\'' then
              if rest.head? = some '\'' then quotedWord? single fuel ('\'' :: read) (c.advance 2)
              else some (read, false, c)
            else quotedWord? single fuel (first :: read) (c.advance 1)
          else if first = '"' then some (read, false, c)
          else if first = '\\' then
            if rest.head?.any isBreak then some (read, true, (c.advance 1).skipBreak)
            else do
              let (char, width) ← escaped? rest
              quotedWord? single fuel (char :: read) (c.advance (width + 1))
          else quotedWord? single fuel (first :: read) (c.advance 1)

/-- A quoted scalar after its opening quote. -/
def scanQuoted? (single : Bool) :
    (fuel : Nat) → List (List Char) → Cursor → Option (String × Cursor)
  | 0, _, _ => none
  | fuel + 1, pieces, c =>
      if c.atDocumentMark || c.atEnd then none
      else do
        let (word, broken, c) ← quotedWord? single (c.size + 1) [] c
        let pieces := word.reverse :: pieces
        if !broken && c.at? (if single then '\'' else '"') then
          some (String.ofList pieces.reverse.flatten, c.advance 1)
        else do
          let (gap, c) ← Gap.scan? 0 (c.size + 1) (Gap.start broken) c
          scanQuoted? single fuel (gap.text :: pieces) c

/-- What becomes of the line breaks at the end of a block scalar. -/
inductive Chomping where
  | strip
  | clip
  | keep
deriving DecidableEq, Repr

def chomping? (c : Cursor) : Option Chomping :=
  if c.at? '+' then some .keep else if c.at? '-' then some .strip else none

/-- The digit that tells a block scalar's indentation, which may not be zero. -/
def indentDigit? (c : Cursor) : Option Nat :=
  match c.peek? with
  | some digit => if digit.isDigit then some (digit.toNat - '0'.toNat) else none
  | none => none

/-- The header of a block scalar after its indicator: chomping and indentation, in either order. -/
def blockHeader? (c : Cursor) : Option (Chomping × Option Nat × Cursor) :=
  let positive (digit : Option Nat) (make : Chomping × Option Nat × Cursor) :=
    if digit = some 0 then none else some make
  match chomping? c with
  | some chomping =>
      let c := c.advance 1
      match indentDigit? c with
      | some digit => positive (some digit) (chomping, some digit, c.advance 1)
      | none => some (chomping, none, c)
  | none =>
      match indentDigit? c with
      | some digit =>
          let c := c.advance 1
          match chomping? c with
          | some chomping => positive (some digit) (chomping, some digit, c.advance 1)
          | none => positive (some digit) (.clip, some digit, c)
      | none => some (.clip, none, c)

/-- Passes over the empty lines of a block scalar and the indentation of the next one. Returns the
line breaks, and the widest indentation seen. Where the indentation is not known yet, all spaces
count as indentation. -/
def blockBreaks? (indent : Option Nat) :
    (fuel : Nat) → List Char → Nat → Cursor → Option (List Char × Nat × Cursor)
  | 0, breaks, widest, c => some (breaks, widest, c)
  | fuel + 1, breaks, widest, c =>
      let spaces := (c.rest.takeWhile (· = ' ')).length
      let room := match indent with
        | some indent => min spaces (indent - c.column)
        | none => spaces
      let c := c.advance room
      let widest := max widest c.column
      let inIndent := match indent with
        | some indent => decide (c.column < indent)
        | none => true
      if inIndent && c.at? '\t' then none
      else if c.atBreak then
        let (lineBreak, c) := c.takeBreak
        blockBreaks? indent fuel (breaks ++ lineBreak) widest c
      else some (breaks, widest, c)

/-- The lines of a block scalar: the pieces of its text, the last at the front, with the line break
after the last line and those of the empty lines after it. -/
def blockLines? (isLiteral : Bool) (indent : Nat) :
    (fuel : Nat) → (pieces : List (List Char)) → (lastBreak breaks : List Char) →
      (afterBlank : Bool) → Cursor → Option (List (List Char) × List Char × List Char × Cursor)
  | 0, pieces, lastBreak, breaks, _, c => some (pieces, lastBreak, breaks, c)
  | fuel + 1, pieces, lastBreak, breaks, afterBlank, c =>
      if c.column ≠ indent ∨ c.atEnd then some (pieces, lastBreak, breaks, c)
      else do
        let startsBlank := c.atBlank
        let joint :=
          if !isLiteral && lastBreak == ['\n'] && !afterBlank && !startsBlank then
            if breaks = [] then [' '] else []
          else lastBreak
        let (line, c) := c.span (!isBreak ·)
        let (lastBreak, c) := c.takeBreak
        let pieces := line :: breaks :: joint :: pieces
        let (breaks, _, c) ← blockBreaks? (some indent) (c.size + 1) [] 0 c
        blockLines? isLiteral indent fuel pieces lastBreak breaks startsBlank c

/-- A block scalar after its indicator, below a node of the given indentation. -/
def scanBlock? (isLiteral : Bool) (parentIndent : Int) (c : Cursor) :
    Option (String × Cursor) := do
  let (chomping, digit, c) ← blockHeader? c
  let c ← c.finishLine?
  let known := digit.map fun digit =>
    if 0 ≤ parentIndent then parentIndent.toNat + digit else digit
  let (breaks, widest, c) ← blockBreaks? known (c.size + 1) [] 0 c
  let indent := known.getD (max (max widest (parentIndent + 1).toNat) 1)
  let (pieces, lastBreak, breaks, c) ←
    blockLines? isLiteral indent (c.size + 1) [] [] breaks false c
  let ending := match chomping with
    | .strip => []
    | .clip => lastBreak
    | .keep => lastBreak ++ breaks
  some (String.ofList (pieces.reverse.flatten ++ ending), c)

end FilterBook.Yaml
