import FilterBook.Resolve

/-!
An expression as a piece of a query. The tree is walked with a stack of tasks and a stack of the
fragments made so far: the left operand is finished before the right one is begun, and a node is
put together when all its operands are.
-/

namespace FilterBook

namespace ExpressionOp

/-- The operator of that name. -/
def parse (name : String) : Except Error ExpressionOp :=
  expect (.unknownExpressionOp name) (ofName? name)

end ExpressionOp

/-- The operand in a slot that must be filled. -/
def Slot.require (slot : Slot) (op : ExpressionOp) (name : SlotName) : Except Error Operand :=
  expect (.missingOperand op name) slot.operand?

/-- The operands that a node's operator asks for, from left to right. -/
def Expression.operands (e : Expression) (op : ExpressionOp) : Except Error (List Operand) :=
  if op.isBinary then do
    let left ← e.left.require op .left
    let right ← e.right.require op .right
    pure [left, right]
  else do
    let operand ← e.condition.require op .condition
    pure [operand]

inductive Task where
  /-- Check a node at the given depth and line up its operands. -/
  | visit (node : Expression) (depth : Nat)
  /-- Make the fragment of an operand of a node at the given depth. -/
  | operand (filled : Operand) (depth : Nat)
  /-- Put a node together from the fragments of its operands. -/
  | assemble (op : ExpressionOp)

/-- The weights of all items together. -/
def totalWeight {α : Type} (weight : α → Nat) : List α → Nat
  | [] => 0
  | item :: items => weight item + totalWeight weight items

section TotalWeight

variable {α : Type} (weight : α → Nat)

@[simp]
theorem totalWeight_nil : totalWeight weight [] = 0 := rfl

@[simp]
theorem totalWeight_cons (item : α) (items : List α) :
    totalWeight weight (item :: items) = weight item + totalWeight weight items := rfl

@[simp]
theorem totalWeight_append (items others : List α) :
    totalWeight weight (items ++ others) =
      totalWeight weight items + totalWeight weight others := by
  induction items with
  | nil => simp
  | cons item items ih =>
      simp only [List.cons_append, totalWeight_cons, ih]
      omega

@[simp]
theorem totalWeight_reverse (items : List α) :
    totalWeight weight items.reverse = totalWeight weight items := by
  induction items with
  | nil => rfl
  | cons item items ih =>
      simp only [List.reverse_cons, totalWeight_append, totalWeight_cons, totalWeight_nil, ih]
      omega

end TotalWeight

/-- A bound on the tasks that a slot gives rise to. -/
def Slot.weight : Slot → Nat
  | .empty => 0
  | .name _ => 1
  | .node _ condition left right => condition.weight + left.weight + right.weight + 3

def Expression.weight (e : Expression) : Nat :=
  e.condition.weight + e.left.weight + e.right.weight + 2

def Task.weight : Task → Nat
  | .visit node _ => node.weight
  | .operand filled _ => filled.toSlot.weight
  | .assemble _ => 1

/-- The two stacks, the top of each at the front. -/
structure Stacks where
  tasks : List Task
  fragments : List Query

namespace Stacks

def start (e : Expression) : Stacks where
  tasks := [.visit e 1]
  fragments := []

/-- Combines the fragments of a node's operands, the last of which lies on top. `use` keeps its
operand as it is. -/
def assemble (op : ExpressionOp) (fragments : List Query) : Except Error (List Query) :=
  match op.symbol?, fragments with
  | none, operand :: rest => .ok (operand :: rest)
  | some symbol, fragments =>
      if op.isBinary then
        match fragments with
        | right :: left :: rest =>
            .ok (Dict.singleton symbol (.array [.ofDict left, .ofDict right]) :: rest)
        | _ => .error .fragmentMissing
      else
        match fragments with
        | operand :: rest => .ok (Dict.singleton symbol (.ofDict operand) :: rest)
        | [] => .error .fragmentMissing
  | none, [] => .error .fragmentMissing

/-- Carries out a task that has been taken off the stack. -/
def perform (conditions : Dict Condition) (task : Task) (rest : Stacks) : Except Error Stacks :=
  match task with
  | .visit node depth =>
      if depth > greatestDepth then .error .tooDeep
      else do
        let op ← ExpressionOp.parse node.op
        let operands ← node.operands op
        pure { rest with
          tasks := operands.map (Task.operand · depth) ++ .assemble op :: rest.tasks }
  | .operand (.name name) _ =>
      match conditions.get? name with
      | none => .error (.unknownCondition name)
      | some condition => do
          let fragment ← condition.fragment
          pure { rest with fragments := fragment :: rest.fragments }
  | .operand (.node node) depth =>
      .ok { rest with tasks := .visit node (depth + 1) :: rest.tasks }
  | .assemble op => do
      let fragments ← assemble op rest.fragments
      pure { rest with fragments }

/-- What remains when no task is left: one fragment. -/
def result (s : Stacks) : Except Error Query :=
  match s.fragments with
  | [] => .error .fragmentMissing
  | [fragment] => .ok fragment
  | _ :: more => .error (.fragmentsLeft more.length)

def weight (s : Stacks) : Nat :=
  totalWeight Task.weight s.tasks

end Stacks

theorem Slot.toSlot_of_operand? {slot : Slot} {operand : Operand}
    (h : slot.operand? = some operand) : operand.toSlot = slot := by
  cases slot <;> simp only [Slot.operand?, Option.some.injEq, reduceCtorEq] at h <;> subst h <;> rfl

theorem Slot.toSlot_of_require {slot : Slot} {op : ExpressionOp} {name : SlotName}
    {operand : Operand} (h : slot.require op name = .ok operand) : operand.toSlot = slot :=
  Slot.toSlot_of_operand? (expect_eq_ok_iff.mp h)

theorem Expression.weight_operands_le {e : Expression} {op : ExpressionOp} {operands : List Operand}
    (depth : Nat) (h : e.operands op = .ok operands) :
    totalWeight Task.weight (operands.map (Task.operand · depth)) + 2 ≤ e.weight := by
  unfold Expression.operands at h
  split at h
  · cases hleft : e.left.require op .left with
    | error fault => simp [hleft, bind, Except.bind] at h
    | ok left =>
        cases hright : e.right.require op .right with
        | error fault => simp [hleft, hright, bind, Except.bind] at h
        | ok right =>
            simp only [hleft, hright, bind, Except.bind, pure, Except.pure, Except.ok.injEq] at h
            subst h
            simp only [List.map_cons, List.map_nil, totalWeight_cons, totalWeight_nil, Task.weight,
              Slot.toSlot_of_require hleft, Slot.toSlot_of_require hright, Expression.weight]
            omega
  · cases hoperand : e.condition.require op .condition with
    | error fault => simp [hoperand, bind, Except.bind] at h
    | ok operand =>
        simp only [hoperand, bind, Except.bind, pure, Except.pure, Except.ok.injEq] at h
        subst h
        simp only [List.map_cons, List.map_nil, totalWeight_cons, totalWeight_nil, Task.weight,
          Slot.toSlot_of_require hoperand, Expression.weight]
        omega

namespace Stacks

theorem weight_perform {conditions : Dict Condition} {task : Task} {rest next : Stacks}
    (h : perform conditions task rest = .ok next) : next.weight < task.weight + rest.weight := by
  cases task with
  | visit node depth =>
      simp only [perform] at h
      split at h
      · cases h
      · cases hop : ExpressionOp.parse node.op with
        | error fault => simp [hop, bind, Except.bind] at h
        | ok op =>
            cases hoperands : node.operands op with
            | error fault => simp [hop, hoperands, bind, Except.bind] at h
            | ok operands =>
                simp only [hop, hoperands, bind, Except.bind, pure, Except.pure,
                  Except.ok.injEq] at h
                subst h
                have hweight := Expression.weight_operands_le depth hoperands
                simp only [weight, totalWeight_append, totalWeight_cons,
                  Task.weight] at hweight ⊢
                omega
  | operand operand depth =>
      cases operand with
      | name name =>
          simp only [perform] at h
          split at h
          · cases h
          · rename_i condition _
            cases hfragment : condition.fragment with
            | error fault => simp [hfragment, bind, Except.bind] at h
            | ok fragment =>
                simp only [hfragment, bind, Except.bind, pure, Except.pure, Except.ok.injEq] at h
                subst h
                simp only [weight, Task.weight, Operand.toSlot, Slot.weight]
                omega
      | node node =>
          simp only [perform, Except.ok.injEq] at h
          subst h
          simp only [weight, totalWeight_cons, Task.weight, Operand.toSlot,
            Expression.toSlot, Slot.weight, Expression.weight]
          omega
  | assemble op =>
      simp only [perform] at h
      cases hassemble : assemble op rest.fragments with
      | error fault => simp [hassemble, bind, Except.bind] at h
      | ok fragments =>
          simp only [hassemble, bind, Except.bind, pure, Except.pure, Except.ok.injEq] at h
          subst h
          simp only [weight, Task.weight]
          omega

/-- Carries out all tasks. Each leaves tasks of less weight than its own behind. -/
def run (conditions : Dict Condition) (s : Stacks) : Except Error Query :=
  match htasks : s.tasks with
  | [] => s.result
  | task :: tasks =>
      match hnext : perform conditions task { s with tasks } with
      | .ok next =>
          have : next.weight < s.weight := by
            have h := weight_perform hnext
            simp only [weight, htasks, totalWeight_cons] at h ⊢
            exact h
          run conditions next
      | .error fault => .error fault
termination_by s.weight

end Stacks

/-- The fragment of an expression, given the conditions that it may name. -/
def Expression.evaluate (e : Expression) (conditions : Dict Condition) : Except Error Query :=
  (Stacks.start e).run conditions

end FilterBook
