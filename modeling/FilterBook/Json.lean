import FilterBook.Dict
import FilterBook.Number

/-!
JSON documents. An object is the list of its fields as they stand in the text, so a key may repeat
and the order is kept. The writers work on lists of characters: one without any blank, and one that
indents each level by two spaces.
-/

namespace FilterBook

inductive Json where
  | null
  | bool (value : Bool)
  | number (value : Number)
  | string (text : String)
  | array (items : List Json)
  | object (fields : List (String × Json))

namespace Json

instance : Inhabited Json := ⟨.null⟩

/-- The object with the bindings of a dictionary as its fields. -/
def ofDict (d : Dict Json) : Json :=
  .object d.entries

/-- A hexadecimal digit, in lower case. -/
def hexDigit (n : Nat) : Char :=
  Nat.digitChar (n % 16)

/-- How a character stands in a string: quote, backslash and control characters are escaped. -/
def escape (c : Char) : List Char :=
  if c = '"' then ['\\', '"']
  else if c = '\\' then ['\\', '\\']
  else if c = '\x08' then ['\\', 'b']
  else if c = '\t' then ['\\', 't']
  else if c = '\n' then ['\\', 'n']
  else if c = '\x0c' then ['\\', 'f']
  else if c = '\r' then ['\\', 'r']
  else if c.toNat < 32 then ['\\', 'u', '0', '0', hexDigit (c.toNat / 16), hexDigit c.toNat]
  else [c]

def writeString (text : String) : List Char :=
  '"' :: text.toList.flatMap escape ++ ['"']

mutual

/-- The document without any blank. -/
def write : Json → List Char
  | .null => ['n', 'u', 'l', 'l']
  | .bool true => ['t', 'r', 'u', 'e']
  | .bool false => ['f', 'a', 'l', 's', 'e']
  | .number value => value.write
  | .string text => writeString text
  | .array [] => ['[', ']']
  | .array (item :: items) => '[' :: write item ++ writeItems items
  | .object [] => ['\x7b', '\x7d']
  | .object (field :: fields) =>
      '\x7b' :: writeString field.1 ++ ':' :: write field.2 ++ writeFields fields

/-- The rest of an array, after an item. -/
def writeItems : List Json → List Char
  | [] => [']']
  | item :: items => ',' :: write item ++ writeItems items

/-- The rest of an object, after a field. -/
def writeFields : List (String × Json) → List Char
  | [] => ['\x7d']
  | field :: fields => ',' :: writeString field.1 ++ ':' :: write field.2 ++ writeFields fields

end

/-- A line break, and the blanks that a level is indented by. -/
def lineBreak (level : Nat) : List Char :=
  '\n' :: List.replicate (2 * level) ' '

mutual

/-- The document with every item and field on a line of its own. -/
def writePretty (level : Nat) : Json → List Char
  | .null => ['n', 'u', 'l', 'l']
  | .bool true => ['t', 'r', 'u', 'e']
  | .bool false => ['f', 'a', 'l', 's', 'e']
  | .number value => value.write
  | .string text => writeString text
  | .array [] => ['[', ']']
  | .array (item :: items) =>
      '[' :: lineBreak (level + 1) ++ writePretty (level + 1) item ++ writePrettyItems level items
  | .object [] => ['\x7b', '\x7d']
  | .object (field :: fields) =>
      '\x7b' :: lineBreak (level + 1) ++ writeString field.1 ++ ':' :: ' ' ::
        writePretty (level + 1) field.2 ++ writePrettyFields level fields

def writePrettyItems (level : Nat) : List Json → List Char
  | [] => lineBreak level ++ [']']
  | item :: items =>
      ',' :: lineBreak (level + 1) ++ writePretty (level + 1) item ++ writePrettyItems level items

def writePrettyFields (level : Nat) : List (String × Json) → List Char
  | [] => lineBreak level ++ ['\x7d']
  | field :: fields =>
      ',' :: lineBreak (level + 1) ++ writeString field.1 ++ ':' :: ' ' ::
        writePretty (level + 1) field.2 ++ writePrettyFields level fields

end

/-- The compact text of a document. -/
def compact (j : Json) : String :=
  String.ofList j.write

/-- The indented text of a document. -/
def pretty (j : Json) : String :=
  String.ofList (j.writePretty 0)

end Json

end FilterBook
