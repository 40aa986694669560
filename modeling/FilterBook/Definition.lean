import FilterBook.Json
import FilterBook.Operator

/-!
A definition names conditions and expressions. A condition compares one field of a document with a
value. An expression is a tree of operators over the names of conditions. Operators are held by
their names, as they were written: whether a name is an operator is asked when it matters.
-/

namespace FilterBook

inductive Scalar where
  | bool (value : Bool)
  | number (value : Number)
  | string (text : String)
deriving DecidableEq

inductive ConditionValue where
  | scalar (value : Scalar)
  | list (values : List Scalar)
deriving DecidableEq

structure Condition where
  prop : String
  op : String
  value : ConditionValue
  /-- Whether the value is to be read as a date. -/
  isDate : Bool
deriving DecidableEq

/-- A place for an operand in a node: empty, or filled with the name of a condition or with another
node. -/
inductive Slot where
  | empty
  | name (condition : String)
  | node (op : String) (condition left right : Slot)
deriving DecidableEq

/-- A node of an expression. -/
structure Expression where
  op : String
  condition : Slot
  left : Slot
  right : Slot
deriving DecidableEq

/-- What a filled slot holds. -/
inductive Operand where
  | name (condition : String)
  | node (expression : Expression)
deriving DecidableEq

def Slot.operand? : Slot → Option Operand
  | .empty => none
  | .name condition => some (.name condition)
  | .node op condition left right => some (.node ⟨op, condition, left, right⟩)

def Slot.isEmpty : Slot → Bool
  | .empty => true
  | _ => false

def Expression.toSlot (e : Expression) : Slot :=
  .node e.op e.condition e.left e.right

def Operand.toSlot : Operand → Slot
  | .name condition => .name condition
  | .node expression => expression.toSlot

/-- How many nodes lie on the longest way down from a slot. -/
def Slot.depth : Slot → Nat
  | .empty => 0
  | .name _ => 0
  | .node _ condition left right => max condition.depth (max left.depth right.depth) + 1

def Expression.depth (e : Expression) : Nat :=
  e.toSlot.depth

/-- The deepest nesting of nodes that is evaluated, the root counted. -/
def greatestDepth : Nat := 64

/-- Nodes built in code. -/
def Expression.unary (op : ExpressionOp) (operand : Operand) : Expression where
  op := op.name
  condition := operand.toSlot
  left := .empty
  right := .empty

def Expression.binary (op : ExpressionOp) (left right : Operand) : Expression where
  op := op.name
  condition := .empty
  left := left.toSlot
  right := right.toSlot

structure Definition where
  expressions : Dict Expression
  conditions : Dict Condition

namespace Definition

def empty : Definition where
  expressions := Dict.empty
  conditions := Dict.empty

instance : Inhabited Definition := ⟨empty⟩

/-- Adds the entries of another definition, in place where a name is bound already. -/
def extend (d other : Definition) : Definition where
  expressions := d.expressions.insertAll other.expressions.entries
  conditions := d.conditions.insertAll other.conditions.entries

end Definition

/-- A query, and each piece of one: query operators and fields, in order. -/
abbrev Query := Dict Json

end FilterBook
