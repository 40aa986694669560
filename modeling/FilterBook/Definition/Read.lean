import FilterBook.Definition
import FilterBook.Json.Scan

/-!
Definitions read from JSON. A part with named fields is an object, or an array of its fields in
declaration order; unknown and repeated fields are refused, and a name that is bound twice takes the
last binding. The value of a condition and the operand in a slot are recognised by their form, after
the whole of them has been read: what fits no form is refused without a reason.
-/

namespace FilterBook

open Json

def definitionRecord : Record where
  name := "QueryDefinition"
  fields := ["expressions", "conditions"]

def conditionRecord : Record where
  name := "Condition"
  fields := ["prop", "op", "value", "isDate"]

def expressionRecord : Record where
  name := "Expression"
  fields := ["op", "condition", "left", "right"]

def Scalar.ofJson? : Json → Option Scalar
  | .bool value => some (.bool value)
  | .number value => some (.number value)
  | .string text => some (.string text)
  | _ => none

def ConditionValue.ofJson? : Json → Option ConditionValue
  | .array items => (items.mapM Scalar.ofJson?).map .list
  | other => (Scalar.ofJson? other).map .scalar

/-- The fields of a node that have been read so far. A slot that was written as `null` has been
read, and is empty. -/
structure NodeFields where
  op : Option String
  condition : Option Slot
  left : Option Slot
  right : Option Slot

namespace NodeFields

def none : NodeFields where
  op := .none
  condition := .none
  left := .none
  right := .none

/-- The node, if its operator has been read. -/
def node? (f : NodeFields) : Option Expression :=
  f.op.map fun op =>
    ⟨op, f.condition.getD .empty, f.left.getD .empty, f.right.getD .empty⟩

end NodeFields

/-- The slot that holds a node. -/
def NodeFields.slot? (f : NodeFields) : Option Slot :=
  f.node?.map Expression.toSlot

/-- Adds a field to those that have been read, unless it is repeated or unknown. Its value is given
as the string and as the slot that it may be. -/
def NodeFields.set? (read : NodeFields) (name : String) (text : Option String)
    (slot : Option Slot) : Option NodeFields :=
  if name = "op" then
    if read.op.isSome then .none else text.map fun op => { read with op := some op }
  else if name = "condition" then
    if read.condition.isSome then .none
    else slot.map fun slot => { read with condition := some slot }
  else if name = "left" then
    if read.left.isSome then .none else slot.map fun slot => { read with left := some slot }
  else if name = "right" then
    if read.right.isSome then .none else slot.map fun slot => { read with right := some slot }
  else .none

def stringOf? : Json → Option String
  | .string text => some text
  | _ => none

mutual

/-- A slot: empty, the name of a condition, or a node in either of its forms. -/
def Slot.ofJson? : Json → Option Slot
  | .null => some .empty
  | .string name => some (.name name)
  | .object fields => (nodeOfFields? .none fields).bind NodeFields.slot?
  | .array items => (nodeOfItems? expressionRecord.fields .none items).bind NodeFields.slot?
  | .bool _ => none
  | .number _ => none

def nodeOfFields? (read : NodeFields) : List (String × Json) → Option NodeFields
  | [] => some read
  | field :: fields =>
      (read.set? field.1 (stringOf? field.2) (Slot.ofJson? field.2)).bind fun read =>
        nodeOfFields? read fields

def nodeOfItems? (names : List String) (read : NodeFields) : List Json → Option NodeFields
  | [] => some read
  | item :: items =>
      match names with
      | [] => none
      | name :: names =>
          (read.set? name (stringOf? item) (Slot.ofJson? item)).bind fun read =>
            nodeOfItems? names read items

end

/-- An operand stands where a slot is filled. -/
def Operand.ofJson? (json : Json) : Option Operand :=
  (Slot.ofJson? json).bind Slot.operand?

/-- A part whose form tells what it is: the whole of it is read first. -/
def takeChoice {α : Type} (choice : String) (ofJson? : Json → Option α) (reading : Reading) :
    Except Fault α := do
  let json ← reading.asJson
  match ofJson? json with
  | some value => pure value
  | none => .error (.mismatch (.noAlternative choice))

def ConditionValue.take (reading : Reading) : Except Fault ConditionValue :=
  takeChoice "ConditionValue" ConditionValue.ofJson? reading

def Operand.take (reading : Reading) : Except Fault Operand :=
  takeChoice "Operand" Operand.ofJson? reading

/-- A slot of a node: `null` leaves it empty. -/
def Slot.take (reading : Reading) : Except Fault Slot :=
  match reading with
  | .null => .ok .empty
  | other => do
      let operand ← Operand.take other
      pure operand.toSlot

/-- Sets a field that must not have been read before. -/
def setOnce {α : Type} (name : String) (old : Option α) (take : Except Fault α) :
    Except Fault (Option α) :=
  match old with
  | some _ => .error (.mismatch (.duplicateField name))
  | none => take.map some

/-- Takes the fields of an object one by one, and then its end. -/
def takeFields {α : Type} (take : α → String → Reading → Except Fault α) (start : α)
    (fields : List (String × Reading)) (stop : Option Flaw) : Except Fault α := do
  let read ← fields.foldlM (fun read field => take read field.1 field.2) start
  match stop with
  | none => pure read
  | some flaw => .error (.flaw flaw)

/-- Takes the items of an array as the named fields, as far as they go. -/
def takeItems {α : Type} (take : α → String → Reading → Except Fault α) :
    List String → α → List Reading → Except Fault (α × List Reading)
  | name :: names, read, item :: items => do
      let read ← take read name item
      takeItems take names read items
  | _, read, items => .ok (read, items)

/-- A record in either of its forms. The fields that must be there, and their number, are asked for
by `finish`, which is told how many items an array had. -/
def takeRecord {α β : Type} (record : Record) (take : α → String → Reading → Except Fault α)
    (start : α) (finish : Option Nat → α → Except Fault β) (reading : Reading) : Except Fault β :=
  match reading with
  | .object fields stop => do
      let read ← takeFields take start fields stop
      finish none read
  | .array items stop => do
      let (read, rest) ← takeItems take record.fields start items
      if items.length < record.fields.length then
        match stop with
        | some flaw => .error (.flaw flaw)
        | none => finish (some items.length) read
      else do
        let value ← finish (some items.length) read
        Reading.endOfItems rest stop
        pure value
  | other => other.refuse (.record record)

/-- The value of a field that must be there. An array that is too short is told by its length. -/
def needField {α : Type} (record : Record) (name : String) (length : Option Nat)
    (value : Option α) : Except Fault α :=
  match value, length with
  | some value, _ => .ok value
  | none, some length => .error (.mismatch (.wrongLength length record))
  | none, none => .error (.mismatch (.missingField name))

/-- The fields of a condition that have been read so far. -/
structure ConditionFields where
  prop : Option String
  op : Option String
  value : Option ConditionValue
  isDate : Option Bool

namespace ConditionFields

def none : ConditionFields where
  prop := .none
  op := .none
  value := .none
  isDate := .none

def take (read : ConditionFields) (name : String) (reading : Reading) :
    Except Fault ConditionFields :=
  if name = "prop" then do
    let prop ← setOnce name read.prop reading.asString
    pure { read with prop }
  else if name = "op" then do
    let op ← setOnce name read.op reading.asString
    pure { read with op }
  else if name = "value" then do
    let value ← setOnce name read.value (ConditionValue.take reading)
    pure { read with value }
  else if name = "isDate" then do
    let isDate ← setOnce name read.isDate reading.asBool
    pure { read with isDate }
  else .error (.mismatch (.unknownField name conditionRecord))

def finish (length : Option Nat) (read : ConditionFields) : Except Fault Condition := do
  let prop ← needField conditionRecord "prop" length read.prop
  let op ← needField conditionRecord "op" length read.op
  let value ← needField conditionRecord "value" length read.value
  pure ⟨prop, op, value, read.isDate.getD false⟩

end ConditionFields

def Condition.take (reading : Reading) : Except Fault Condition :=
  takeRecord conditionRecord ConditionFields.take .none ConditionFields.finish reading

namespace NodeFields

def take (read : NodeFields) (name : String) (reading : Reading) : Except Fault NodeFields :=
  if name = "op" then do
    let op ← setOnce name read.op reading.asString
    pure { read with op }
  else if name = "condition" then do
    let condition ← setOnce name read.condition (Slot.take reading)
    pure { read with condition }
  else if name = "left" then do
    let left ← setOnce name read.left (Slot.take reading)
    pure { read with left }
  else if name = "right" then do
    let right ← setOnce name read.right (Slot.take reading)
    pure { read with right }
  else .error (.mismatch (.unknownField name expressionRecord))

def finish (length : Option Nat) (read : NodeFields) : Except Fault Expression := do
  let op ← needField expressionRecord "op" length read.op
  pure ⟨op, read.condition.getD .empty, read.left.getD .empty, read.right.getD .empty⟩

end NodeFields

def Expression.take (reading : Reading) : Except Fault Expression :=
  takeRecord expressionRecord NodeFields.take .none NodeFields.finish reading

/-- An object from names to parts of one kind. -/
def takeDict {α : Type} (take : Reading → Except Fault α) (reading : Reading) :
    Except Fault (Dict α) :=
  match reading with
  | .object fields stop =>
      takeFields (fun dict name value => (take value).map (dict.insert name)) .empty fields stop
  | other => other.refuse .map

/-- The fields of a definition that have been read so far. -/
structure DefinitionFields where
  expressions : Option (Dict Expression)
  conditions : Option (Dict Condition)

namespace DefinitionFields

def none : DefinitionFields where
  expressions := .none
  conditions := .none

def take (read : DefinitionFields) (name : String) (reading : Reading) :
    Except Fault DefinitionFields :=
  if name = "expressions" then do
    let expressions ← setOnce name read.expressions (takeDict Expression.take reading)
    pure { read with expressions }
  else if name = "conditions" then do
    let conditions ← setOnce name read.conditions (takeDict Condition.take reading)
    pure { read with conditions }
  else .error (.mismatch (.unknownField name definitionRecord))

def finish (_ : Option Nat) (read : DefinitionFields) : Except Fault Definition :=
  .ok ⟨read.expressions.getD .empty, read.conditions.getD .empty⟩

end DefinitionFields

def Definition.take (reading : Reading) : Except Fault Definition :=
  takeRecord definitionRecord DefinitionFields.take .none DefinitionFields.finish reading

/-- Reads a definition from JSON text. -/
def Definition.ofJsonText (text : String) : Except Fault Definition :=
  decode Definition.take text.toList

/-- Reads a table of named conditions from JSON text. -/
def readConditions (text : String) : Except Fault (Dict Condition) :=
  decode (takeDict Condition.take) text.toList

/-- The name of a choice among the known ones. -/
def knownVariant (known : List String) (name : String) : Except Fault String :=
  if name ∈ known then .ok name else .error (.mismatch (.unknownVariant name known))

/-- The end of a choice that is written as an object with the choice as its only key. -/
def takeUnitField (text : List Char) : Except Fault (List Char) :=
  match skipBlank text with
  | [] => .error (.flaw .endInObject)
  | ':' :: rest =>
      match scanValue greatestNesting rest with
      | (.null, .ok rest) =>
          match skipBlank rest with
          | [] => .error (.flaw .endInObject)
          | '\x7d' :: rest => .ok rest
          | _ => .error (.flaw .expectedValue)
      | (reading, _) => reading.refuse .unit
  | _ => .error (.flaw .expectedColon)

/-- Reads one of the known names, written as a string or as the key of an object that holds
`null`. -/
def readVariant (known : List String) (text : String) : Except Fault String :=
  let string (text : List Char) : Except Fault (String × List Char) :=
    match scanString [] text with
    | .ok read => .ok read
    | .error flaw => .error (.flaw flaw)
  match skipBlank text.toList with
  | [] => .error (.flaw .endInValue)
  | '"' :: rest => do
      let (name, rest) ← string rest
      let name ← knownVariant known name
      endOfText rest
      pure name
  | '\x7b' :: rest =>
      match skipBlank rest with
      | '"' :: rest => do
          let (name, rest) ← string rest
          let name ← knownVariant known name
          let rest ← takeUnitField rest
          endOfText rest
          pure name
      | other => (scanValue greatestNesting other).1.refuse .variant
  | _ => .error (.flaw .expectedValue)

end FilterBook
