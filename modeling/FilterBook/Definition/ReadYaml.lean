import FilterBook.Definition.Read
import FilterBook.Yaml.Plain

/-!
Definitions read from YAML. A field that wants a string takes a scalar as its text, whatever it
looks like; a condition's value and an operand are recognised by what the scalar stands for. A
record is a mapping; only an operand's node may also be a sequence, and only there a field may be
named by its number. Tags of the document's own are passed over where the type is known, and refused
where it is not.
-/

namespace FilterBook

open Yaml

/-- The text of a scalar. -/
def Yaml.Node.text? : Node → Option String
  | .scalar _ _ text => some text
  | _ => none

/-- The entries of a mapping. A plain scalar without text is an empty mapping. -/
def Yaml.Node.entries? : Node → Option (List (Node × Node))
  | .mapping _ entries => some entries
  | .scalar _ style text => if style = .plain ∧ text.isEmpty then some [] else none
  | _ => none

/-- The truth value of a scalar that is plain, or written as a block with the tag of truth
values. -/
def Yaml.Node.bool? : Node → Option Bool
  | .scalar tag style text =>
      if style = .plain ∨ (style = .literal ∧ tag = some Tag.bool) then boolWord? text.toList
      else none
  | _ => none

/-- What a scalar stands for. -/
def Yaml.Node.value? : Node → Option Value
  | .scalar tag style text => ofScalar? tag style text
  | _ => none

/-- Whether the type of a collection is left to its form. -/
def isUntagged (tag : Option Tag) : Bool :=
  !tag.any Tag.isLocal

/-- A value that is a bool, a number or a string. -/
def Scalar.ofValue? : Value → Option Scalar
  | .null => none
  | .bool value => some (.bool value)
  | .integer _ value => (Number.ofInt? value).map .number
  | .decimal value => some (.number (.double value))
  | .string text => some (.string text)

def Scalar.ofNode? (node : Node) : Option Scalar :=
  node.value?.bind Scalar.ofValue?

def ConditionValue.ofNode? : Node → Option ConditionValue
  | .sequence tag items =>
      if isUntagged tag then (items.mapM Scalar.ofNode?).map .list else none
  | other => (Scalar.ofNode? other).map .scalar

/-- The field of a node that a key names, by its name or by its number. -/
def nodeField? : Value → Option String
  | .string name => some name
  | .integer false number => expressionRecord.fields[number.toNat]?
  | _ => none

/-- The string that a value is. -/
def stringValue? : Value → Option String
  | .string text => some text
  | _ => none

mutual

/-- A slot: empty, the name of a condition, or a node in either of its forms. -/
def Slot.ofNode? : Node → Option Slot
  | .scalar tag style text =>
      match ofScalar? tag style text with
      | some .null => some .empty
      | some (.string name) => some (.name name)
      | _ => none
  | .mapping tag entries =>
      if isUntagged tag then (nodeOfEntries? .none entries).bind NodeFields.slot? else none
  | .sequence tag items =>
      if isUntagged tag then
        (nodeOfNodes? expressionRecord.fields .none items).bind NodeFields.slot?
      else none

def nodeOfEntries? (read : NodeFields) : List (Node × Node) → Option NodeFields
  | [] => some read
  | entry :: entries =>
      match entry.1.value?.bind nodeField? with
      | none => none
      | some name =>
          let text := entry.2.value?.bind stringValue?
          (read.set? name text (Slot.ofNode? entry.2)).bind fun read =>
            nodeOfEntries? read entries

def nodeOfNodes? (names : List String) (read : NodeFields) : List Node → Option NodeFields
  | [] => some read
  | item :: items =>
      match names with
      | [] => none
      | name :: names =>
          (read.set? name (item.value?.bind stringValue?) (Slot.ofNode? item)).bind fun read =>
            nodeOfNodes? names read items

end

/-- Adds the entries of a mapping one by one, given how a field is added. -/
def addEntries? {α : Type} (add : α → String → Node → Option α) (start : α) (node : Node) :
    Option α := do
  let entries ← node.entries?
  entries.foldlM (fun read entry => do
    let name ← entry.1.text?
    add read name entry.2) start

/-- A slot of a root. There only a plain scalar without a tag or with the tag of nulls leaves the
slot empty, while below the root every null does so. -/
def Slot.ofRootNode? (node : Node) : Option Slot :=
  match node with
  | .scalar tag style _ =>
      (Slot.ofNode? node).filter fun slot =>
        match slot with
        | .empty => style = .plain && tag.all (· = Tag.null)
        | _ => true
  | _ => Slot.ofNode? node

/-- The root of an expression. -/
def Expression.ofNode? (node : Node) : Option Expression := do
  let read ← addEntries?
    (fun read name value => read.set? name value.text? (Slot.ofRootNode? value))
    NodeFields.none node
  read.node?

/-- Adds a field of a condition, unless it is repeated or unknown. -/
def ConditionFields.add? (read : ConditionFields) (name : String) (node : Node) :
    Option ConditionFields :=
  if name = "prop" then
    if read.prop.isSome then .none else node.text?.map fun prop => { read with prop := some prop }
  else if name = "op" then
    if read.op.isSome then .none else node.text?.map fun op => { read with op := some op }
  else if name = "value" then
    if read.value.isSome then .none
    else (ConditionValue.ofNode? node).map fun value => { read with value := some value }
  else if name = "isDate" then
    if read.isDate.isSome then .none
    else node.bool?.map fun isDate => { read with isDate := some isDate }
  else .none

def Condition.ofNode? (node : Node) : Option Condition := do
  let read ← addEntries? ConditionFields.add? ConditionFields.none node
  some ⟨← read.prop, ← read.op, ← read.value, read.isDate.getD false⟩

/-- A mapping from names to parts of one kind. -/
def dictOfNode? {α : Type} (ofNode? : Node → Option α) (node : Node) : Option (Dict α) :=
  addEntries? (fun dict name value => (ofNode? value).map (dict.insert name)) Dict.empty node

/-- Adds one of the two tables of a definition. -/
def DefinitionFields.add? (read : DefinitionFields) (name : String) (node : Node) :
    Option DefinitionFields :=
  if name = "expressions" then
    if read.expressions.isSome then .none
    else (dictOfNode? Expression.ofNode? node).map fun expressions =>
      { read with expressions := some expressions }
  else if name = "conditions" then
    if read.conditions.isSome then .none
    else (dictOfNode? Condition.ofNode? node).map fun conditions =>
      { read with conditions := some conditions }
  else .none

def Definition.ofNode? (node : Node) : Option Definition := do
  let read ← addEntries? DefinitionFields.add? DefinitionFields.none node
  some ⟨read.expressions.getD .empty, read.conditions.getD .empty⟩

/-- Reads a definition from YAML text. A text without a document is an empty definition. -/
def Definition.ofYamlText? (text : String) : Option Definition := do
  match ← Node.ofText? text.toList with
  | none => some Definition.empty
  | some node => Definition.ofNode? node

end FilterBook
