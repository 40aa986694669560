import FilterBook.Json.Fault
import FilterBook.Text

/-!
The messages of faults in a JSON text.
-/

namespace FilterBook.Json

def Found.text : Found → String
  | .null => "null"
  | .bool true => "boolean `true`"
  | .bool false => "boolean `false`"
  | .number (.integer value fits) =>
      "integer `" ++ String.ofList (Number.integer value fits).write ++ "`"
  | .number (.double value) =>
      "floating point `" ++ String.ofList (Number.double value).write ++ "`"
  | .string text => "string " ++ quote text
  | .sequence => "sequence"
  | .map => "map"

def Wanted.text : Wanted → String
  | .string => "a string"
  | .boolean => "a boolean"
  | .map => "a map"
  | .unit => "unit"
  | .variant => "variant identifier"
  | .record shape => "struct " ++ shape.name

/-- A name in code quotes. -/
def code (name : String) : String :=
  "`" ++ name ++ "`"

/-- The names to choose from. -/
def oneOf (names : List String) : String :=
  match names with
  | [] => "there are no fields"
  | [only] => "expected " ++ code only
  | [first, second] => "expected " ++ code first ++ " or " ++ code second
  | many => "expected one of " ++ ", ".intercalate (many.map code)

def Mismatch.message : Mismatch → String
  | .wrongType found wanted => "invalid type: " ++ found.text ++ ", expected " ++ wanted.text
  | .wrongLength length record =>
      "invalid length " ++ toString length ++ ", expected struct " ++ record.name ++ " with " ++
        toString record.fields.length ++ " elements"
  | .missingField field => "missing field " ++ code field
  | .duplicateField field => "duplicate field " ++ code field
  | .unknownField field record => "unknown field " ++ code field ++ ", " ++ oneOf record.fields
  | .unknownVariant variant known => "unknown variant " ++ code variant ++ ", " ++ oneOf known
  | .noAlternative choice => "data did not match any variant of untagged enum " ++ choice

def Fault.message : Fault → String
  | .flaw inText => inText.message
  | .mismatch inDocument => inDocument.message

end FilterBook.Json
