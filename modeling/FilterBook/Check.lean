import FilterBook.Evaluate

/-!
The gate before compilation. A condition must compare a named field by a known operator with a value
of the right kind; an expression must be a tree of known operators, each with the operands it takes
and no others, over names of conditions, and not nest too deep. The nodes of an expression wait on a
stack: the slots of a node are looked at from left to right, and the nodes in them from right to
left.
-/

namespace FilterBook

def Condition.check (entry : String) (c : Condition) : Except Error Unit :=
  let refuse (part : Part) (reason : Reason) : Except Error Unit :=
    .error (.schemaViolation ⟨entry, [], some part⟩ reason)
  if c.prop.isEmpty then refuse .prop .emptyProp
  else
    match ConditionOp.ofName? c.op with
    | none => refuse .op (.noConditionOp c.op)
    | some op =>
        match c.value with
        | .list [] => refuse .value .emptyList
        | .list (_ :: _) => .ok ()
        | .scalar _ => if op.requiresList then refuse .value (.listRequired op) else .ok ()

namespace ExpressionOp

/-- The slots that hold the operands. -/
def usedSlots (op : ExpressionOp) : List SlotName :=
  if op.isBinary then [.left, .right] else [.condition]

/-- The slots that must be empty. -/
def unusedSlots (op : ExpressionOp) : List SlotName :=
  if op.isBinary then [.condition] else [.left, .right]

end ExpressionOp

def Expression.slot (e : Expression) : SlotName → Slot
  | .condition => e.condition
  | .left => e.left
  | .right => e.right

/-- A node that waits to be checked: the slots that lead to it from the root, and its depth. -/
structure Waiting where
  steps : List SlotName
  node : Expression
  depth : Nat

namespace Waiting

def refuse {α : Type} (entry : String) (w : Waiting) (part : Option Part) (reason : Reason) :
    Except Error α :=
  .error (.schemaViolation ⟨entry, w.steps, part⟩ reason)

/-- The nodes in some slots of a node, all of which must be filled. -/
def operands (entry : String) (conditions : Dict Condition) (w : Waiting) (op : ExpressionOp) :
    List SlotName → Except Error (List Waiting)
  | [] => .ok []
  | name :: names =>
      match (w.node.slot name).operand? with
      | none => w.refuse entry (some (.slot name)) (.required op)
      | some (.name condition) =>
          if conditions.contains condition then w.operands entry conditions op names
          else w.refuse entry (some (.slot name)) (.undefined condition)
      | some (.node node) => do
          let others ← w.operands entry conditions op names
          pure (⟨w.steps ++ [name], node, w.depth + 1⟩ :: others)

/-- Checks a node by itself, and returns the nodes in its slots, from left to right. -/
def check (entry : String) (conditions : Dict Condition) (w : Waiting) :
    Except Error (List Waiting) :=
  if w.depth > greatestDepth then w.refuse entry none .nestedTooDeep
  else
    match ExpressionOp.ofName? w.node.op with
    | none => w.refuse entry (some .op) (.noExpressionOp w.node.op)
    | some op =>
        match op.unusedSlots.find? fun name => !(w.node.slot name).isEmpty with
        | some name => w.refuse entry (some (.slot name)) (.notAllowed op)
        | none => w.operands entry conditions op op.usedSlots

/-- A bound on the nodes that are still to be checked. -/
def weight (waiting : List Waiting) : Nat :=
  totalWeight (fun w => w.node.weight) waiting

/-- What some slots of a node weigh together. -/
def slotsWeight (node : Expression) (names : List SlotName) : Nat :=
  totalWeight (fun name => (node.slot name).weight) names

theorem weight_operands {entry : String} {conditions : Dict Condition} {w : Waiting}
    {op : ExpressionOp} {names : List SlotName} {children : List Waiting}
    (h : w.operands entry conditions op names = .ok children) :
    weight children ≤ slotsWeight w.node names := by
  induction names generalizing children with
  | nil =>
      cases h
      simp [weight]
  | cons name names ih =>
      simp only [operands] at h
      split at h
      · cases h
      · split at h
        · have hrest := ih h
          simp only [slotsWeight, totalWeight_cons] at hrest ⊢
          omega
        · cases h
      · rename_i node hnode
        cases hothers : w.operands entry conditions op names with
        | error fault => simp [hothers, bind, Except.bind] at h
        | ok others =>
            simp only [hothers, bind, Except.bind, pure, Except.pure, Except.ok.injEq] at h
            subst h
            have hrest := ih hothers
            have hslot := Slot.toSlot_of_operand? hnode
            simp only [Operand.toSlot, Expression.toSlot] at hslot
            simp only [weight, slotsWeight, totalWeight_cons, ← hslot, Slot.weight,
              Expression.weight] at hrest ⊢
            omega

theorem slotsWeight_usedSlots (node : Expression) (op : ExpressionOp) :
    slotsWeight node op.usedSlots + 2 ≤ node.weight := by
  unfold ExpressionOp.usedSlots
  split <;>
  · simp only [slotsWeight, totalWeight_cons, totalWeight_nil, Expression.slot, Expression.weight]
    omega

theorem weight_check {entry : String} {conditions : Dict Condition} {w : Waiting}
    {children : List Waiting} (h : w.check entry conditions = .ok children) :
    weight children < w.node.weight := by
  unfold check at h
  split at h
  · cases h
  · split at h
    · cases h
    · rename_i op _
      split at h
      · cases h
      · have hchildren := weight_operands h
        have hslots := slotsWeight_usedSlots w.node op
        omega

/-- Checks all nodes that wait, the last to come first. -/
def checkAll (entry : String) (conditions : Dict Condition) (waiting : List Waiting) :
    Except Error Unit :=
  match waiting with
  | [] => .ok ()
  | first :: others =>
      match hchildren : first.check entry conditions with
      | .ok children =>
          have : weight (children.reverse ++ others) < weight (first :: others) := by
            have h := weight_check hchildren
            simp only [weight, totalWeight_append, totalWeight_reverse, totalWeight_cons] at h ⊢
            omega
          checkAll entry conditions (children.reverse ++ others)
      | .error fault => .error fault
termination_by weight waiting

end Waiting

/-- Checks an expression, given the conditions that it may name. -/
def Expression.check (entry : String) (e : Expression) (conditions : Dict Condition) :
    Except Error Unit :=
  Waiting.checkAll entry conditions [⟨[], e, 1⟩]

/-- Checks a definition. Both tables must have entries; of several faults the first expression's
comes first, and those of conditions come last. -/
def Definition.check (d : Definition) : Except Error Unit :=
  if d.expressions.isEmpty then .error (.emptyInput .expressions)
  else if d.conditions.isEmpty then .error (.emptyInput .conditions)
  else do
    d.expressions.entries.forM fun e =>
      e.2.check (Table.expressions.text ++ "." ++ e.1) d.conditions
    d.conditions.entries.forM fun c =>
      c.2.check (Table.conditions.text ++ "." ++ c.1)

end FilterBook
