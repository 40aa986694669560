import FilterBook.Number

/-!
What can be wrong with a JSON text that is read as a value of some type. A flaw is in the text: it
is no JSON. A mismatch is in the document: the text is well formed so far, but what it says does not
fit the type.
-/

namespace FilterBook.Json

/-- Where a text stops being JSON. -/
inductive Flaw where
  | endInValue
  | endInString
  | endInList
  | endInObject
  | expectedValue
  | expectedLiteral
  | expectedColon
  | expectedListEnd
  | expectedObjectEnd
  | keyNotString
  | trailingComma
  | trailingCharacters
  | invalidNumber
  | numberOutOfRange
  | invalidEscape
  | unfinishedSurrogate
  | loneSurrogate
  | controlCharacter
  | nestedTooDeep
deriving DecidableEq, Repr

def Flaw.message : Flaw → String
  | .endInValue => "EOF while parsing a value"
  | .endInString => "EOF while parsing a string"
  | .endInList => "EOF while parsing a list"
  | .endInObject => "EOF while parsing an object"
  | .expectedValue => "expected value"
  | .expectedLiteral => "expected ident"
  | .expectedColon => "expected `:`"
  | .expectedListEnd => "expected `,` or `]`"
  | .expectedObjectEnd => "expected `,` or `\x7d`"
  | .keyNotString => "key must be a string"
  | .trailingComma => "trailing comma"
  | .trailingCharacters => "trailing characters"
  | .invalidNumber => "invalid number"
  | .numberOutOfRange => "number out of range"
  | .invalidEscape => "invalid escape"
  | .unfinishedSurrogate => "unexpected end of hex escape"
  | .loneSurrogate => "lone leading surrogate in hex escape"
  | .controlCharacter => "control character (\\u0000-\\u001F) found while parsing a string"
  | .nestedTooDeep => "recursion limit exceeded"

/-- A type with named fields, in their order. -/
structure Record where
  name : String
  fields : List String
deriving DecidableEq, Repr

/-- What stands in the document. -/
inductive Found where
  | null
  | bool (value : Bool)
  | number (value : Number)
  | string (text : String)
  | sequence
  | map

/-- What the type asks for. -/
inductive Wanted where
  | string
  | boolean
  | map
  | unit
  | variant
  | record (record : Record)

inductive Mismatch where
  | wrongType (found : Found) (wanted : Wanted)
  | wrongLength (length : Nat) (record : Record)
  | missingField (field : String)
  | duplicateField (field : String)
  | unknownField (field : String) (record : Record)
  | unknownVariant (variant : String) (known : List String)
  | noAlternative (choice : String)

inductive Fault where
  | flaw (flaw : Flaw)
  | mismatch (mismatch : Mismatch)

end FilterBook.Json
