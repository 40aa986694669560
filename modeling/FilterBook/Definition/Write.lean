import FilterBook.Definition

/-!
Definitions as JSON documents. Every part is an object with its fields in declaration order; a flag
that is not set and an empty slot are left out.
-/

namespace FilterBook

def Scalar.toJson : Scalar → Json
  | .bool value => .bool value
  | .number value => .number value
  | .string text => .string text

def ConditionValue.toJson : ConditionValue → Json
  | .scalar value => value.toJson
  | .list values => .array (values.map Scalar.toJson)

def Condition.toJson (c : Condition) : Json :=
  .object <|
    [("prop", .string c.prop), ("op", .string c.op), ("value", c.value.toJson)] ++
      if c.isDate then [("isDate", .bool true)] else []

/-- A field for a slot, unless it is empty. -/
def slotField (name : String) (slot : Slot) (json : Json) : List (String × Json) :=
  if slot.isEmpty then [] else [(name, json)]

def Slot.toJson : Slot → Json
  | .empty => .null
  | .name condition => .string condition
  | .node op condition left right =>
      .object <|
        ("op", .string op) :: (slotField "condition" condition condition.toJson ++
          (slotField "left" left left.toJson ++ slotField "right" right right.toJson))

def Expression.toJson (e : Expression) : Json :=
  e.toSlot.toJson

def Operand.toJson (o : Operand) : Json :=
  o.toSlot.toJson

def Definition.toJson (d : Definition) : Json :=
  .object
    [("expressions", .object (d.expressions.entries.map fun e => (e.1, e.2.toJson))),
      ("conditions", .object (d.conditions.entries.map fun c => (c.1, c.2.toJson)))]

end FilterBook
