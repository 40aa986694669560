import FilterBook.Proofs.Strays

/-!
Which violation the gate reports. Every fault of an expression stands at a place: the slots that
lead from the root to a node, and a part of that node. The faults of a tree are put in an order:
those of its root, then those below its right slot, then those below its left one. The worklist
reports the first of them, whatever else is wrong with the tree.
-/

namespace FilterBook

open Outcome

/-- A fault of an expression: the slots that lead to its node, the part of the node, and why. -/
structure Finding where
  steps : List SlotName
  part : Option Part
  reason : Reason
deriving DecidableEq

namespace Finding

/-- The place of a finding in an entry. -/
def place (entry : String) (f : Finding) : Place :=
  ⟨entry, f.steps, f.part⟩

end Finding

/-- The node that some slots lead to from the node in a slot. -/
def Slot.nodeAt? : Slot → List SlotName → Option Expression
  | .node op condition left right, [] => some ⟨op, condition, left, right⟩
  | .node op condition left right, first :: steps =>
      (Expression.slot ⟨op, condition, left, right⟩ first).nodeAt? steps
  | .empty, _ => none
  | .name _, _ => none

/-- The names of the slots, in the order in which a node has them. -/
def SlotName.all : List SlotName :=
  [.condition, .left, .right]

namespace Expression

/-- The node that some slots lead to from the root. -/
def nodeAt? (e : Expression) (steps : List SlotName) : Option Expression :=
  e.toSlot.nodeAt? steps

variable (conditions : Dict Condition) (steps : List SlotName) (node : Expression)

/-- The slots that an operator does not use but that are filled. -/
def strayFindings (op : ExpressionOp) : List Finding :=
  (SlotName.all.filter fun name => name ∈ op.unusedSlots ∧ node.slot name ≠ .empty).map
    fun name => ⟨steps, some (.slot name), .notAllowed op⟩

/-- What an operator finds wrong with a slot that it uses. -/
def usedFinding? (op : ExpressionOp) (name : SlotName) : Option Finding :=
  match node.slot name with
  | .empty => some ⟨steps, some (.slot name), .required op⟩
  | .name condition =>
      if condition ∈ conditions.names then none
      else some ⟨steps, some (.slot name), .undefined condition⟩
  | .node _ _ _ _ => none

def usedFindings (op : ExpressionOp) : List Finding :=
  (SlotName.all.filter (· ∈ op.usedSlots)).filterMap (usedFinding? conditions steps node op)

/-- All that is wrong with a node by itself: its depth, its operator, the slots that are filled but
not used, and the slots that are used but not filled as they should be. -/
def ownFindings : List Finding :=
  (if steps.length = greatestDepth then [⟨steps, none, .nestedTooDeep⟩] else []) ++
    match ExpressionOp.ofName? node.op with
    | none => [⟨steps, some .op, .noExpressionOp node.op⟩]
    | some op => strayFindings steps node op ++ usedFindings conditions steps node op

end Expression

/-- All that is wrong with a tree: with its root, then with everything below the right slot, then
with everything below the left one. A node with operands in another slot has nothing in those two,
unless that is what is wrong with it. -/
def Slot.findings (conditions : Dict Condition) (steps : List SlotName) : Slot → List Finding
  | .empty => []
  | .name _ => []
  | .node op condition left right =>
      Expression.ownFindings conditions steps ⟨op, condition, left, right⟩ ++
        (right.findings conditions (steps ++ [.right]) ++
          (left.findings conditions (steps ++ [.left]) ++
            condition.findings conditions (steps ++ [.condition])))

def Expression.findings (conditions : Dict Condition) (e : Expression) : List Finding :=
  e.toSlot.findings conditions []

namespace Finding

variable {entry : String}

end Finding

namespace ExpressionOp

end ExpressionOp

namespace Expression

variable {entry : String} {conditions : Dict Condition} {steps : List SlotName} {node : Expression}
  {f : Finding}

end Expression

namespace Waiting

variable {entry : String} {conditions : Dict Condition} {steps : List SlotName} {node : Expression}

end Waiting

/-- Of two faults equally far down, the one to the right comes first. -/
example :
    Expression.findings ⟨[], List.nodup_nil⟩
        ⟨"and", .empty, .node "not" (.name "X") .empty .empty,
          .node "not" (.name "Y") .empty .empty⟩ =
      [⟨[.right], some (.slot .condition), .undefined "Y"⟩,
        ⟨[.left], some (.slot .condition), .undefined "X"⟩] := by
  rfl

end FilterBook
