import FilterBook.Json
import FilterBook.Operator

/-!
A description of definitions as a JSON Schema, for editors and other programs. A schema is a list of
keywords, each of which says something about a document; the schemas of the parts of a definition
have names, under which they refer to each other.
-/

namespace FilterBook

namespace Schema

/-- The kinds of JSON documents. -/
inductive Kind where
  | null
  | boolean
  | number
  | string
  | array
  | object
deriving DecidableEq, Repr

def Kind.name : Kind → String
  | null => "null"
  | boolean => "boolean"
  | number => "number"
  | string => "string"
  | array => "array"
  | object => "object"

/-- A keyword of a schema. The schemas within it are lists of keywords again. -/
inductive Keyword where
  | description (text : String)
  /-- The value of a field that is not written. -/
  | absent (value : Json)
  | kind (kind : Kind)
  /-- The document is one of some strings. -/
  | oneString (texts : List String)
  | anyOf (schemas : List (List Keyword))
  | oneOf (schemas : List (List Keyword))
  | items (schema : List Keyword)
  /-- The fields that an object must have. -/
  | required (names : List String)
  | properties (fields : List (String × List Keyword))
  /-- What holds of the fields that are not among the properties. -/
  | otherFields (schema : List Keyword)
  /-- There are no fields but the properties. -/
  | noOtherFields
  /-- The document is described by the schema of a name. -/
  | reference (name : String)

def strings (texts : List String) : Json :=
  .array (texts.map Json.string)

namespace Keyword

def name : Keyword → String
  | description _ => "description"
  | absent _ => "default"
  | kind _ => "type"
  | oneString _ => "enum"
  | anyOf _ => "anyOf"
  | oneOf _ => "oneOf"
  | items _ => "items"
  | required _ => "required"
  | properties _ => "properties"
  | otherFields _ => "additionalProperties"
  | noOtherFields => "additionalProperties"
  | reference _ => "$ref"

mutual

def value : Keyword → Json
  | description text => .string text
  | absent value => value
  | kind k => .string k.name
  | oneString texts => strings texts
  | anyOf schemas => .array (schemaItems schemas)
  | oneOf schemas => .array (schemaItems schemas)
  | items schema => .object (keywordFields schema)
  | required names => strings names
  | properties fields => .object (propertyFields fields)
  | otherFields schema => .object (keywordFields schema)
  | noOtherFields => .bool false
  | reference name => .string ("#/definitions/" ++ name)

def keywordFields : List Keyword → List (String × Json)
  | [] => []
  | keyword :: rest => (keyword.name, keyword.value) :: keywordFields rest

def schemaItems : List (List Keyword) → List Json
  | [] => []
  | schema :: rest => .object (keywordFields schema) :: schemaItems rest

def propertyFields : List (String × List Keyword) → List (String × Json)
  | [] => []
  | field :: rest => (field.1, .object (keywordFields field.2)) :: propertyFields rest

end

end Keyword

end Schema

abbrev Schema := List Schema.Keyword

/-- A schema with a title, and the schemas that it and they refer to. -/
structure SchemaBook where
  title : String
  root : Schema
  definitions : List (String × Schema)

namespace SchemaBook

def toJson (b : SchemaBook) : Json :=
  .object ([("$schema", .string "http://json-schema.org/draft-07/schema#"),
      ("title", .string b.title)] ++ Schema.Keyword.keywordFields b.root ++
    [("definitions", .object (Schema.Keyword.propertyFields b.definitions))])

end SchemaBook

namespace Schema

/-- An object whose fields have any names and all are described by one schema. -/
def table (name : String) : Schema :=
  [.absent (.object []), .kind .object, .otherFields [.reference name]]

def definition : Schema :=
  [.description "A complete query definition: expressions plus the conditions they use",
    .kind .object,
    .properties [("conditions", table "Condition"), ("expressions", table "Expression")],
    .noOtherFields]

def condition : Schema :=
  [.description "A named, reusable predicate over one document field",
    .kind .object,
    .required ["op", "prop", "value"],
    .properties
      [("isDate",
          [.description "Reinterpret `value` as a date before building the fragment",
            .kind .boolean]),
        ("op", [.reference "ConditionOp"]),
        ("prop",
          [.description "Dot-path of the document field, e.g. `owns.real_estate`",
            .kind .string]),
        ("value", [.reference "ConditionValue"])],
    .noOtherFields]

/-- One operator of conditions, with its symbol as the description. -/
def conditionOpName (op : ConditionOp) : Schema :=
  [.description (op.symbol?.getD "field equals value"), .kind .string, .oneString [op.name]]

def conditionOp : Schema :=
  [.description "Operators a condition may declare",
    .oneOf (ConditionOp.all.map conditionOpName)]

def conditionValue : Schema :=
  [.description "A condition value: a scalar or an ordered list of scalars",
    .anyOf [[.reference "Scalar"], [.kind .array, .items [.reference "Scalar"]]]]

def slot : Schema :=
  [.anyOf [[.reference "Operand"], [.kind .null]]]

def expression : Schema :=
  [.description ("A node of a boolean expression tree\n\n`use`, `not` and " ++
      "`match_element` take their operand in `condition`; `and`, `or` " ++
      "and `nor` take `left` and `right`."),
    .kind .object,
    .required ["op"],
    .properties
      [("condition", slot),
        ("left", slot),
        ("op", [.reference "ExpressionOp"]),
        ("right", slot)],
    .noOtherFields]

def expressionOp : Schema :=
  [.description "Operators an expression node may declare",
    .kind .string,
    .oneString (ExpressionOp.all.map ExpressionOp.name)]

def operand : Schema :=
  [.description "The slot of an expression node: a condition name or a nested expression",
    .anyOf [[.kind .string], [.reference "Expression"]]]

def scalar : Schema :=
  [.description "A scalar condition value",
    .anyOf [[.kind .boolean], [.kind .number], [.kind .string]]]

/-- The schema of definitions. -/
def book : SchemaBook where
  title := "QueryDefinition"
  root := definition
  definitions :=
    [("Condition", condition), ("ConditionOp", conditionOp), ("ConditionValue", conditionValue),
      ("Expression", expression), ("ExpressionOp", expressionOp), ("Operand", operand),
      ("Scalar", scalar)]

end Schema

end FilterBook
