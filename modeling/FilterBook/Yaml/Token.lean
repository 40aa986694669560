import FilterBook.Yaml.Scalar
import FilterBook.Yaml.Tag

/-!
The tokens of a YAML text. Indentation becomes tokens that open and close block collections. That a
node is the key of a mapping is seen only at the colon after it: until then its place is kept, and
the tokens that say so are put before it. A key of this kind must fit one line and 1024 bytes.
-/

namespace FilterBook.Yaml

inductive Token where
  | version (major minor : Nat)
  | tagHandle (handle : String) (stem : Tag)
  | documentStart
  | documentEnd
  | blockSequence
  | blockMapping
  | blockEnd
  | flowSequence
  | flowSequenceEnd
  | flowMapping
  | flowMappingEnd
  | blockEntry
  | flowEntry
  | key
  | value
  | alias (anchor : String)
  | anchor (name : String)
  | tag (handle : String) (suffix : Tag)
  | scalar (style : Style) (text : String)
deriving DecidableEq, Repr

/-- A node that a colon may yet turn into a key: the number of the token before which the key would
start, and its place. Where the node stands at the indentation of its block, it must be a key. -/
structure KeyPlace where
  token : Nat
  line : Nat
  column : Nat
  offset : Nat
  required : Bool

/-- How far the tokens of a text have been found. The tokens stand in reverse. There is a place for
a key at each level of flow collections, the innermost first, and one for the block around them. -/
structure Tokens where
  cursor : Cursor
  found : List Token
  keys : List (Option KeyPlace)
  indent : Int
  outerIndents : List Int
  keyAllowed : Bool

namespace Tokens

def start (text : List Char) : Tokens where
  cursor := Cursor.start text
  found := []
  keys := [none]
  indent := -1
  outerIndents := []
  keyAllowed := true

def inFlow (s : Tokens) : Bool :=
  s.keys.length > 1

def push (token : Token) (s : Tokens) : Tokens :=
  { s with found := token :: s.found }

/-- Puts a token before the one with the given number. -/
def insertAt (number : Nat) (token : Token) (s : Tokens) : Tokens :=
  { s with found := s.found.insertIdx (s.found.length - number) token }

def advance (n : Nat) (s : Tokens) : Tokens :=
  { s with cursor := s.cursor.advance n }

def allowKey (allowed : Bool) (s : Tokens) : Tokens :=
  { s with keyAllowed := allowed }

/-- Blanks, comments and line breaks before the next token. Tabs may not stand where a key of a
block may start. -/
def skipGap : (fuel : Nat) → Tokens → Tokens
  | 0, s => s
  | fuel + 1, s =>
      let marked :=
        if s.cursor.column = 0 ∧ s.cursor.at? '\ufeff' then s.cursor.advance 1 else s.cursor
      let blank (c : Char) := c = ' ' || ((s.inFlow || !s.keyAllowed) && c = '\t')
      let cursor := (marked.skipWhile blank).skipComment
      if cursor.atBreak then
        skipGap fuel { s with cursor := cursor.skipBreak, keyAllowed := s.keyAllowed || !s.inFlow }
      else { s with cursor }

/-- The number of bytes that a key may take before its colon. -/
def greatestKey : Nat := 1024

/-- Whether a place has been left behind: the key there is on another line or too long. -/
def isStale (c : Cursor) (place : KeyPlace) : Bool :=
  place.line < c.line || place.offset + greatestKey < c.offset

/-- Drops the places that have been left behind, none of which may have to be a key. -/
def dropStale? (s : Tokens) : Option Tokens := do
  let keys ← s.keys.mapM fun place =>
    match place with
    | none => some none
    | some place =>
        if isStale s.cursor place then if place.required then none else some none
        else some (some place)
  some { s with keys }

/-- Gives up the innermost place for a key, which must not have to be one. -/
def dropKey? (s : Tokens) : Option Tokens :=
  match s.keys with
  | some place :: outer => if place.required then none else some { s with keys := none :: outer }
  | _ => some s

/-- Keeps the place as one for a key, where a key is allowed. -/
def saveKey? (s : Tokens) : Option Tokens :=
  if s.keyAllowed then do
    let s ← s.dropKey?
    let place : KeyPlace :=
      { token := s.found.length
        line := s.cursor.line
        column := s.cursor.column
        offset := s.cursor.offset
        required := !s.inFlow && s.indent == s.cursor.column }
    some { s with keys := some place :: s.keys.drop 1 }
  else some s

/-- Opens a block collection before the token with the given number, where the column is beyond the
indentation. -/
def openBlock (column : Nat) (number : Nat) (token : Token) (s : Tokens) : Tokens :=
  if !s.inFlow && s.indent < column then
    { insertAt number token s with
      indent := column
      outerIndents := s.indent :: s.outerIndents }
  else s

/-- Closes the block collections that are indented beyond the column. -/
def closeBlocks (column : Int) (s : Tokens) : Tokens :=
  if s.inFlow then s
  else
    let open? (indent : Int) : Bool := column < indent
    let levels := s.indent :: s.outerIndents
    let closed := levels.takeWhile open?
    match levels.drop closed.length with
    | indent :: outerIndents =>
        { s with
          found := List.replicate closed.length .blockEnd ++ s.found
          indent
          outerIndents }
    | [] => s

/-- The number after a version's name or point, of at most nine digits. -/
def versionNumber? (c : Cursor) : Option (Nat × Cursor) :=
  let (digits, after) := c.span Char.isDigit
  if digits = [] ∨ digits.length > 9 then none
  else some (Nat.ofDigitChars 10 digits 0, after)

/-- A handle of tags: an exclamation mark, a word, and another mark where there is one. -/
def tagHandle? (c : Cursor) : Option (List Char × Cursor) :=
  if c.at? '!' then
    let (word, after) := (c.advance 1).span isWord
    if after.at? '!' then some ('!' :: word ++ ['!'], after.advance 1)
    else some ('!' :: word, after)
  else none

/-- The characters of tags. Those of flow collections are allowed in some places only. -/
def isTagChar (allowsFlow : Bool) (c : Char) : Bool :=
  isWord c || ";/?:@&=+$.!~*'()".toList.contains c ||
    (allowsFlow && [',', '[', ']'].contains c)

/-- How many bytes a character takes whose first byte in UTF-8 is the given one. -/
def sequenceWidth? (octet : Nat) : Option Nat :=
  if octet < 0x80 then some 1
  else if 0xC0 ≤ octet ∧ octet < 0xE0 then some 2
  else if 0xE0 ≤ octet ∧ octet < 0xF0 then some 3
  else if 0xF0 ≤ octet ∧ octet < 0xF8 then some 4
  else none

/-- A byte written as a percent sign and two hexadecimal digits. -/
def escapedByte? (text : List Char) : Option (Nat × List Char) :=
  match text with
  | '%' :: high :: low :: rest => do
      let value ← hexNumber? [high, low]
      some (value, rest)
  | _ => none

/-- The bytes of a character after the first. -/
def trailingBytes? : Nat → List Char → Option (List Nat × List Char)
  | 0, text => some ([], text)
  | count + 1, text => do
      let (octet, rest) ← escapedByte? text
      if 0x80 ≤ octet ∧ octet < 0xC0 then do
        let (octets, rest) ← trailingBytes? count rest
        some (octet :: octets, rest)
      else none

/-- As many bytes as the first of them announces, and how many characters they take. Whether they
are a character is not asked. -/
def escapedBytes? (text : List Char) : Option (List Nat × Nat) := do
  let (first, rest) ← escapedByte? text
  let width ← sequenceWidth? first
  let (others, _) ← trailingBytes? (width - 1) rest
  some (first :: others, 3 * width)

/-- The bytes of a tag, and the place after it. -/
def tagBytes? (allowsFlow : Bool) :
    (fuel : Nat) → List UInt8 → Cursor → Option (List UInt8 × Cursor)
  | 0, bytes, c => some (bytes, c)
  | fuel + 1, bytes, c =>
      match c.peek? with
      | none => some (bytes, c)
      | some '%' => do
          let (octets, width) ← escapedBytes? c.rest
          tagBytes? allowsFlow fuel (bytes ++ octets.map UInt8.ofNat) (c.advance width)
      | some char =>
          if isTagChar allowsFlow char then
            tagBytes? allowsFlow fuel (bytes ++ [char.toUInt8]) (c.advance 1)
          else some (bytes, c)

/-- A tag or what follows its handle, which may belong to it. There must be something of both. -/
def tagText? (allowsFlow : Bool) (head : List Char) (c : Cursor) : Option (Tag × Cursor) := do
  let (bytes, after) ← tagBytes? allowsFlow (c.size + 1) [] c
  if head = [] ∧ bytes = [] then none
  else some (Tag.ofBytes ((head.drop 1).map Char.toUInt8 ++ bytes), after)

/-- A directive after its percent sign. -/
def directive? (c : Cursor) : Option (Token × Cursor) := do
  let (name, c) := c.span isWord
  if name = [] ∨ !c.atGap then none
  else
    let c := c.skipWhile isBlank
    if name = "YAML".toList then do
      let (major, c) ← versionNumber? c
      if !c.at? '.' then none
      else do
        let (minor, c) ← versionNumber? (c.advance 1)
        let c ← c.finishLine?
        some (.version major minor, c)
    else if name = "TAG".toList then do
      let (handle, c) ← tagHandle? c
      if (handle ≠ ['!'] ∧ (handle.length < 2 ∨ handle.getLast? ≠ some '!')) ∨ !c.atBlank then none
      else do
        let (stem, c) ← tagText? true [] (c.skipWhile isBlank)
        if !c.atGap then none
        else do
          let c ← c.finishLine?
          some (.tagHandle (String.ofList handle) stem, c)
    else none

/-- The name of an anchor or an alias. -/
def anchorName? (c : Cursor) : Option (String × Cursor) :=
  let (name, c) := c.span isWord
  let ends := c.atGap || c.peek?.any fun next =>
    ['?', ':', ',', ']', '\x7d', '%', '@', '\x60'].contains next
  if name ≠ [] ∧ ends then some (String.ofList name, c) else none

/-- A tag that follows its exclamation mark: in full, with a handle, or a local one. -/
def tag? (c : Cursor) : Option (Token × Cursor) :=
  match c.rest with
  | '!' :: '<' :: _ => do
      let (tag, c) ← tagText? true [] (c.advance 2)
      if c.at? '>' then some (.tag "" tag, c.advance 1) else none
  | _ => do
      let (handle, c) ← tagHandle? c
      if 2 ≤ handle.length ∧ handle.getLast? = some '!' then do
        let (suffix, c) ← tagText? false [] c
        some (.tag (String.ofList handle) suffix, c)
      else do
        let (suffix, c) ← tagText? false handle c
        if suffix.isEmpty then some (.tag "" Tag.mark, c) else some (.tag "!" suffix, c)

/-- The end of a text: all block collections are closed. -/
def finish? (s : Tokens) : Option Tokens := do
  let s ← (closeBlocks (-1) s).dropKey?
  some (s.allowKey false)

/-- The mark of a document's start or end. -/
def documentMark? (token : Token) (s : Tokens) : Option Tokens := do
  let s ← s.finish?
  some ((s.advance 3).push token)

def openFlow? (token : Token) (s : Tokens) : Option Tokens := do
  let s ← s.saveKey?
  some ((({ s with keys := none :: s.keys }.allowKey true).advance 1).push token)

def closeFlow? (token : Token) (s : Tokens) : Option Tokens := do
  let s ← s.dropKey?
  let keys := if s.inFlow then s.keys.drop 1 else s.keys
  some ((({ s with keys }.allowKey false).advance 1).push token)

def flowEntry? (s : Tokens) : Option Tokens := do
  let s ← s.dropKey?
  some (((s.allowKey true).advance 1).push .flowEntry)

def blockEntry? (s : Tokens) : Option Tokens :=
  if !s.inFlow && !s.keyAllowed then none
  else do
    let s ← (s.openBlock s.cursor.column s.found.length .blockSequence).dropKey?
    some (((s.allowKey true).advance 1).push .blockEntry)

def key? (s : Tokens) : Option Tokens :=
  if !s.inFlow && !s.keyAllowed then none
  else do
    let s ← (s.openBlock s.cursor.column s.found.length .blockMapping).dropKey?
    some (((s.allowKey !s.inFlow).advance 1).push .key)

/-- A colon. It makes a key of the node before it, if there is a place for one. -/
def value? (s : Tokens) : Option Tokens :=
  match s.keys with
  | some place :: outer =>
      let s := { insertAt place.token .key s with keys := none :: outer }
      let s := s.openBlock place.column place.token .blockMapping
      some (((s.allowKey false).advance 1).push .value)
  | _ =>
      if !s.inFlow && !s.keyAllowed then none
      else
        let s := s.openBlock s.cursor.column s.found.length .blockMapping
        some (((s.allowKey !s.inFlow).advance 1).push .value)

/-- Something that may be a key, given what it is and the place after it. -/
def pushKeyable? (scan : Cursor → Option (Token × Cursor)) (s : Tokens) : Option Tokens := do
  let s ← s.saveKey?
  let (token, cursor) ← scan s.cursor
  some (({ s with cursor }.allowKey false).push token)

def plain? (s : Tokens) : Option Tokens := do
  let s ← s.saveKey?
  let (text, broken, cursor) ←
    scanPlain? s.inFlow (s.indent + 1).toNat (s.cursor.size + 1) [] (Gap.start false)
      s.cursor
  some (({ s with cursor }.allowKey broken).push (.scalar .plain text))

def block? (isLiteral : Bool) (s : Tokens) : Option Tokens := do
  let s ← s.dropKey?
  let (text, cursor) ← scanBlock? isLiteral s.indent (s.cursor.advance 1)
  let style := if isLiteral then Style.literal else Style.folded
  some (({ s with cursor }.allowKey true).push (.scalar style text))

def quoted (single : Bool) (c : Cursor) : Option (Token × Cursor) := do
  let (text, c) ← scanQuoted? single (c.size + 1) [] (c.advance 1)
  some (.scalar (if single then .singleQuoted else .doubleQuoted) text, c)

/-- Whether a plain scalar may start with the character, given what follows it. -/
def startsPlain (inFlow : Bool) (c : Char) (rest : List Char) : Bool :=
  let indicators :=
    ['-', '?', ':', ',', '[', ']', '\x7b', '\x7d', '#', '&', '*', '!', '|', '>', '\'', '"', '%',
      '@', '\x60']
  !(isBlankOrBreak c || indicators.contains c) ||
    (c == '-' && !rest.head?.any isBlank) ||
    (!inFlow && (c == '?' || c == ':') && !blankAhead rest)

/-- Finds the next token, at the character where it starts. -/
def next? (c : Char) (rest : List Char) (s : Tokens) : Option Tokens :=
  let inFlow := s.inFlow
  if s.cursor.column = 0 ∧ c = '%' then do
    let s ← s.finish?
    let (token, cursor) ← directive? (s.cursor.advance 1)
    some ({ s with cursor }.push token)
  else if s.cursor.atDocumentMark then
    s.documentMark? (if c = '-' then .documentStart else .documentEnd)
  else if c = '[' then s.openFlow? .flowSequence
  else if c = '\x7b' then s.openFlow? .flowMapping
  else if c = ']' then s.closeFlow? .flowSequenceEnd
  else if c = '\x7d' then s.closeFlow? .flowMappingEnd
  else if c = ',' then s.flowEntry?
  else if c = '-' ∧ blankAhead rest then s.blockEntry?
  else if c = '?' ∧ (inFlow ∨ blankAhead rest) then s.key?
  else if c = ':' ∧ (inFlow ∨ blankAhead rest) then s.value?
  else if c = '*' then
    s.pushKeyable? fun c => (anchorName? (c.advance 1)).map fun (name, c) => (.alias name, c)
  else if c = '&' then
    s.pushKeyable? fun c => (anchorName? (c.advance 1)).map fun (name, c) => (.anchor name, c)
  else if c = '!' then
    s.pushKeyable? fun c => do
      let (token, c) ← tag? c
      if c.atGap || (inFlow && c.at? ',') then some (token, c) else none
  else if c = '|' ∧ !inFlow then s.block? true
  else if c = '>' ∧ !inFlow then s.block? false
  else if c = '\'' then s.pushKeyable? (quoted true)
  else if c = '"' then s.pushKeyable? (quoted false)
  else if startsPlain inFlow c rest then s.plain?
  else none

/-- Finds all tokens from here on. -/
def findAll? : (fuel : Nat) → Tokens → Option (List Token)
  | 0, _ => none
  | fuel + 1, s => do
      let s ← (s.skipGap (s.cursor.size + 1)).dropStale?
      match s.cursor.rest with
      | [] => do
          let s ← s.finish?
          some s.found.reverse
      | c :: rest => do
          let s ← (closeBlocks s.cursor.column s).next? c rest
          findAll? fuel s

end Tokens

/-- The tokens of a text, if all of it can be read. -/
def Token.ofText? (text : List Char) : Option (List Token) :=
  if text.all isAllowed then Tokens.findAll? (text.length + 1) (Tokens.start text) else none

end FilterBook.Yaml
