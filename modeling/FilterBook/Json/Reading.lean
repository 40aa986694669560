import FilterBook.Json
import FilterBook.Json.Fault

/-!
The reading of a text as JSON: the document as far as the text can be read. In a flawed text the
reading ends at the first flaw, and everything before it is there. A reader of some type walks the
reading in the order of the text, so of two faults it meets the first one.
-/

namespace FilterBook.Json

/-- A document, the rest of which may be unreadable. An array or object that is not closed names
the flaw that stopped it. -/
inductive Reading where
  | null
  | bool (value : Bool)
  | number (value : Number)
  | string (text : String)
  | array (items : List Reading) (stop : Option Flaw)
  | object (fields : List (String × Reading)) (stop : Option Flaw)
  | broken (flaw : Flaw)

namespace Reading

instance : Inhabited Reading := ⟨.null⟩

mutual

/-- The reading of a text without a flaw. -/
def ofJson : Json → Reading
  | .null => .null
  | .bool value => .bool value
  | .number value => .number value
  | .string text => .string text
  | .array items => .array (ofItems items) none
  | .object fields => .object (ofFields fields) none

def ofItems : List Json → List Reading
  | [] => []
  | item :: items => ofJson item :: ofItems items

def ofFields : List (String × Json) → List (String × Reading)
  | [] => []
  | field :: fields => (field.1, ofJson field.2) :: ofFields fields

end

/-- An error for the flaw that stopped an array or object, if one did. -/
def closed (stop : Option Flaw) : Except Flaw Unit :=
  match stop with
  | none => .ok ()
  | some flaw => .error flaw

mutual

/-- The whole document, or its first flaw. -/
def complete : Reading → Except Flaw Json
  | .null => .ok .null
  | .bool value => .ok (.bool value)
  | .number value => .ok (.number value)
  | .string text => .ok (.string text)
  | .array items stop => do
      let items ← completeItems items
      closed stop
      pure (.array items)
  | .object fields stop => do
      let fields ← completeFields fields
      closed stop
      pure (.object fields)
  | .broken flaw => .error flaw

def completeItems : List Reading → Except Flaw (List Json)
  | [] => .ok []
  | item :: items => do
      let first ← complete item
      let rest ← completeItems items
      pure (first :: rest)

def completeFields : List (String × Reading) → Except Flaw (List (String × Json))
  | [] => .ok []
  | field :: fields => do
      let first ← complete field.2
      let rest ← completeFields fields
      pure ((field.1, first) :: rest)

end

/-- What a value of the wrong type is reported as, or the flaw that keeps it from being read. An
array or object is not looked into. -/
def found : Reading → Except Flaw Found
  | .null => .ok .null
  | .bool value => .ok (.bool value)
  | .number value => .ok (.number value)
  | .string text => .ok (.string text)
  | .array _ _ => .ok .sequence
  | .object _ _ => .ok .map
  | .broken flaw => .error flaw

/-- The error for a value that is not of the wanted type. -/
def refuse {α : Type} (wanted : Wanted) (reading : Reading) : Except Fault α :=
  match reading.found with
  | .ok found => .error (.mismatch (.wrongType found wanted))
  | .error flaw => .error (.flaw flaw)

def asString : Reading → Except Fault String
  | .string text => .ok text
  | other => other.refuse .string

def asBool : Reading → Except Fault Bool
  | .bool value => .ok value
  | other => other.refuse .boolean

/-- The whole document, with its flaw as a fault. -/
def asJson (reading : Reading) : Except Fault Json :=
  match reading.complete with
  | .ok json => .ok json
  | .error flaw => .error (.flaw flaw)

/-- What follows the last item that a type with a fixed number of fields takes from an array. -/
def endOfItems (items : List Reading) (stop : Option Flaw) : Except Fault Unit :=
  match items, stop with
  | [], none => .ok ()
  | [], some .endInList => .error (.flaw .endInList)
  | [], some .trailingComma => .error (.flaw .trailingComma)
  | _, _ => .error (.flaw .trailingCharacters)

end Reading

end FilterBook.Json
