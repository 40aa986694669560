import FilterBook.Definition
import FilterBook.Json.Message
import FilterBook.Text

/-!
What can go wrong between the text of a definition and its query, as causes, and the message of
each.
-/

namespace FilterBook

/-- A slot of a node, by its name. -/
inductive SlotName where
  | condition
  | left
  | right
deriving DecidableEq, Repr

def SlotName.text : SlotName → String
  | .condition => "condition"
  | .left => "left"
  | .right => "right"

/-- The part of an entry that is at fault, where it is not the whole of it. -/
inductive Part where
  | prop
  | op
  | value
  | slot (name : SlotName)
deriving DecidableEq, Repr

def Part.text : Part → String
  | .prop => "prop"
  | .op => "op"
  | .value => "value"
  | .slot name => name.text

/-- A place in a definition: an entry, the slots that lead down to a node of it, and a part of that
node. -/
structure Place where
  entry : String
  steps : List SlotName
  part : Option Part
deriving DecidableEq, Repr

def Place.text (p : Place) : String :=
  let down := p.steps.foldl (fun path step => path ++ "." ++ step.text) p.entry
  match p.part with
  | none => down
  | some part => down ++ "." ++ part.text

/-- Why a place is refused. -/
inductive Reason where
  | nestedTooDeep
  | noExpressionOp (op : String)
  | noConditionOp (op : String)
  | notAllowed (op : ExpressionOp)
  | required (op : ExpressionOp)
  | undefined (condition : String)
  | emptyProp
  | emptyList
  | listRequired (op : ConditionOp)
deriving DecidableEq, Repr

def Reason.text : Reason → String
  | .nestedTooDeep => s!"nested deeper than {greatestDepth} levels"
  | .noExpressionOp op =>
      s!"'{op}' is not one of " ++ ", ".intercalate (ExpressionOp.all.map ExpressionOp.name)
  | .noConditionOp op =>
      s!"'{op}' is not one of " ++ ", ".intercalate (ConditionOp.all.map ConditionOp.name)
  | .notAllowed op => s!"not allowed for '{op.name}'"
  | .required op => s!"required for '{op.name}'"
  | .undefined condition => s!"condition '{condition}' is not defined"
  | .emptyProp => "must not be empty"
  | .emptyList => "list must contain at least one value"
  | .listRequired op => s!"'{op.name}' requires a list"

/-- Why a value is no date. -/
inductive DateFault where
  | boolean
  | outOfRange
  | unrecognized
deriving DecidableEq, Repr

def DateFault.text : DateFault → String
  | .boolean => "booleans cannot be dates"
  | .outOfRange => "timestamp out of range"
  | .unrecognized => "unrecognized date format"

/-- One of the two tables of a definition. -/
inductive Table where
  | expressions
  | conditions
deriving DecidableEq, Repr

def Table.text : Table → String
  | .expressions => "expressions"
  | .conditions => "conditions"

inductive Error where
  | emptyInput (table : Table)
  | schemaViolation (place : Place) (reason : Reason)
  | unknownConditionOp (op : String)
  | unknownExpressionOp (op : String)
  | unknownCondition (name : String)
  | missingOperand (op : ExpressionOp) (slot : SlotName)
  | invalidDate (value : Scalar) (fault : DateFault)
  | tooDeep
  | fragmentsLeft (count : Nat)
  | fragmentMissing
  /-- The file is missing, or is no text. -/
  | unreadable
  | json (fault : Json.Fault)
  | yaml

section Expect

variable {α : Type}

/-- The value that there is, or the error of its absence. -/
def expect (absence : Error) : Option α → Except Error α
  | some value => .ok value
  | none => .error absence

variable {absence fault : Error} {found? : Option α} {value : α}

theorem expect_eq_ok_iff : expect absence found? = .ok value ↔ found? = some value := by
  cases found? with
  | none => simp [expect]
  | some found => simp [expect]

theorem expect_eq_error_iff :
    expect absence found? = .error fault ↔ found? = none ∧ fault = absence := by
  cases found? with
  | none => simp [expect, eq_comm]
  | some found => simp [expect]

end Expect

/-- A scalar as it stands in a message: a string in quotes, without the blanks at its ends. -/
def Scalar.text : Scalar → String
  | .bool true => "true"
  | .bool false => "false"
  | .number value => String.ofList value.write
  | .string text => "'" ++ String.ofList (trim text.toList) ++ "'"

/-- What is said about an error. -/
def Error.message : Error → String
  | .emptyInput table => s!"No {table.text} supplied"
  | .schemaViolation place reason => s!"Schema violation at '{place.text}': {reason.text}"
  | .unknownConditionOp op => s!"Unknown condition operator: '{op}'"
  | .unknownExpressionOp op => s!"Unknown expression operator: '{op}'"
  | .unknownCondition name => s!"Condition '{name}' is not defined"
  | .missingOperand op slot =>
      s!"Expression '{op.name}' is missing its '{slot.text}' operand"
  | .invalidDate value fault => s!"Invalid date value {value.text}: {fault.text}"
  | .tooDeep => s!"Expression nesting exceeds the maximum depth of {greatestDepth}"
  | .fragmentsLeft count =>
      s!"Internal evaluation error: {count} fragment(s) left after assembling the root"
  | .fragmentMissing =>
      "Internal evaluation error: operand fragment missing from the stack"
  | .unreadable => "the file cannot be read as text"
  | .json fault => fault.message
  | .yaml => "the text is not a definition in YAML"

end FilterBook
