import FilterBook.Check
import FilterBook.Proofs.Outcome

/-!
The check of an expression by plain recursion: a node first, then what is in its right slot, then
what is in its left one. The stack of waiting nodes gives the same answer, violation included,
whatever else waits below.
-/

namespace FilterBook

open Outcome

namespace Slot

/-- What an operator asks of a slot that it uses: a node, or the name of a condition there is. -/
def Filled (conditions : Dict Condition) : Slot → Prop
  | .empty => False
  | .name named => named ∈ conditions.names
  | .node _ _ _ _ => True

/-- The node in a slot, as it waits to be checked. -/
def waiting (steps : List SlotName) (depth : Nat) : Slot → List Waiting
  | .empty => []
  | .name _ => []
  | .node op condition left right => [⟨steps, ⟨op, condition, left, right⟩, depth⟩]

/-- Checks the node in a slot and all nodes below it. A slot that the operator of a node does not
use is empty once the node has passed, so it adds nothing. -/
def check (entry : String) (conditions : Dict Condition) (steps : List SlotName) (depth : Nat) :
    Slot → Except Error Unit
  | .empty => .ok ()
  | .name _ => .ok ()
  | .node op condition left right => do
      let _ ← Waiting.check entry conditions ⟨steps, ⟨op, condition, left, right⟩, depth⟩
      right.check entry conditions (steps ++ [.right]) (depth + 1)
      left.check entry conditions (steps ++ [.left]) (depth + 1)
      condition.check entry conditions (steps ++ [.condition]) (depth + 1)

theorem filled_empty {conditions : Dict Condition} : ¬ Slot.empty.Filled conditions :=
  not_false

theorem filled_name {conditions : Dict Condition} {named : String} :
    (Slot.name named).Filled conditions ↔ named ∈ conditions.names :=
  Iff.rfl

theorem filled_node {conditions : Dict Condition} {op : String} {condition left right : Slot} :
    (Slot.node op condition left right).Filled conditions :=
  trivial

theorem reverse_waiting (steps : List SlotName) (depth : Nat) (slot : Slot) :
    (slot.waiting steps depth).reverse = slot.waiting steps depth := by
  cases slot <;> rfl

theorem isEmpty_iff {slot : Slot} : slot.isEmpty = true ↔ slot = .empty := by
  cases slot <;> simp [isEmpty]

end Slot

namespace ExpressionOp

theorem usedSlots_of_isBinary {op : ExpressionOp} (hop : op.isBinary = true) :
    op.usedSlots = [.left, .right] ∧ op.unusedSlots = [.condition] :=
  ⟨if_pos hop, if_pos hop⟩

theorem usedSlots_of_not_isBinary {op : ExpressionOp} (hop : op.isBinary = false) :
    op.usedSlots = [.condition] ∧ op.unusedSlots = [.left, .right] := by
  simp [usedSlots, unusedSlots, hop]

end ExpressionOp

namespace Waiting

/-- What the gate asks of a node by itself. -/
structure Fits (conditions : Dict Condition) (w : Waiting) (op : ExpressionOp) : Prop where
  known : op.name = w.node.op
  depth_le : w.depth ≤ greatestDepth
  unused : ∀ name ∈ op.unusedSlots, w.node.slot name = .empty
  used : ∀ name ∈ op.usedSlots, (w.node.slot name).Filled conditions

/-- The nodes in some slots of a node, as they wait. -/
def children (w : Waiting) (names : List SlotName) : List Waiting :=
  names.flatMap fun name => (w.node.slot name).waiting (w.steps ++ [name]) (w.depth + 1)

variable {entry : String} {conditions : Dict Condition} {w : Waiting}

theorem operands_eq_ok_iff {op : ExpressionOp} {names : List SlotName} {found : List Waiting} :
    w.operands entry conditions op names = .ok found ↔
      (∀ name ∈ names, (w.node.slot name).Filled conditions) ∧ found = w.children names := by
  induction names generalizing found with
  | nil => simp [operands, children, eq_comm]
  | cons name names ih =>
      rw [operands, List.forall_mem_cons]
      cases hslot : w.node.slot name with
      | empty => simp [Slot.operand?, Slot.filled_empty, refuse]
      | name named =>
          have hchildren : w.children (name :: names) = w.children names := by
            simp [children, hslot, Slot.waiting]
          simp only [Slot.operand?, Slot.filled_name, hchildren, ← Dict.contains_iff_mem_names]
          by_cases hcontains : conditions.contains named = true
          · simp only [hcontains, if_true, true_and, ih]
          · simp [hcontains, refuse]
      | node opName condition left right =>
          have hchildren : w.children (name :: names) =
              ⟨w.steps ++ [name], ⟨opName, condition, left, right⟩, w.depth + 1⟩ ::
                w.children names := by
            simp [children, hslot, Slot.waiting]
          simp only [Slot.operand?, Slot.filled_node, hchildren, true_and, bind_eq_ok_iff, ih,
            pure_eq_ok, Except.ok.injEq]
          constructor
          · rintro ⟨others, ⟨hfilled, rfl⟩, rfl⟩
            exact ⟨hfilled, rfl⟩
          · rintro ⟨hfilled, rfl⟩
            exact ⟨_, ⟨hfilled, rfl⟩, rfl⟩

theorem children_slots {op : ExpressionOp}
    (hunused : ∀ name ∈ op.unusedSlots, w.node.slot name = .empty) :
    w.children op.usedSlots = w.children [.condition, .left, .right] := by
  cases hop : op.isBinary with
  | true =>
      obtain ⟨hused, hrest⟩ := ExpressionOp.usedSlots_of_isBinary hop
      rw [hrest, List.forall_mem_singleton] at hunused
      simp [hused, children, hunused, Slot.waiting]
  | false =>
      obtain ⟨hused, hrest⟩ := ExpressionOp.usedSlots_of_not_isBinary hop
      rw [hrest, List.forall_mem_cons, List.forall_mem_singleton] at hunused
      simp [hused, children, hunused.1, hunused.2, Slot.waiting]

/-- A node passes by itself exactly when it fits some operator. Then the nodes in its slots wait,
from left to right. -/
theorem check_eq_ok_iff {found : List Waiting} :
    w.check entry conditions = .ok found ↔
      (∃ op, w.Fits conditions op) ∧ found = w.children [.condition, .left, .right] := by
  constructor
  · intro h
    unfold check at h
    split at h
    · cases h
    rename_i hdepth
    split at h
    · cases h
    rename_i op hop
    split at h
    · cases h
    rename_i hunused
    simp only [List.find?_eq_none, Bool.not_eq_true', Bool.not_eq_false, Slot.isEmpty_iff]
      at hunused
    obtain ⟨hused, rfl⟩ := operands_eq_ok_iff.mp h
    refine ⟨⟨op, ExpressionOp.ofName?_eq_some_iff.mp hop, ?_, hunused, hused⟩,
      children_slots hunused⟩
    exact Nat.le_of_not_gt hdepth
  · rintro ⟨⟨op, hfits⟩, rfl⟩
    have hdepth : ¬ w.depth > greatestDepth := Nat.not_lt.mpr hfits.depth_le
    have hop : ExpressionOp.ofName? w.node.op = some op :=
      ExpressionOp.ofName?_eq_some_iff.mpr hfits.known
    have hunused : op.unusedSlots.find? (fun name => !(w.node.slot name).isEmpty) = none := by
      simp only [List.find?_eq_none, Bool.not_eq_true', Bool.not_eq_false, Slot.isEmpty_iff]
      exact hfits.unused
    rw [check, if_neg hdepth, hop]
    simp only [hunused]
    rw [operands_eq_ok_iff]
    exact ⟨hfits.used, (children_slots hfits.unused).symm⟩

theorem operands_eq_error {op : ExpressionOp} {names : List SlotName} {fault : Error}
    (h : w.operands entry conditions op names = .error fault) :
    ∃ part reason, fault = .schemaViolation ⟨entry, w.steps, part⟩ reason := by
  induction names with
  | nil => cases h
  | cons name names ih =>
      rw [operands] at h
      split at h
      · cases h
        exact ⟨_, _, rfl⟩
      · split at h
        · exact ih h
        · cases h
          exact ⟨_, _, rfl⟩
      · rcases bind_eq_error_iff.mp h with h | ⟨_, -, h⟩
        · exact ih h
        · cases h

/-- A node that does not pass by itself is named in the violation. -/
theorem check_eq_error {fault : Error} (h : w.check entry conditions = .error fault) :
    ∃ part reason, fault = .schemaViolation ⟨entry, w.steps, part⟩ reason := by
  unfold check at h
  split at h
  · cases h
    exact ⟨_, _, rfl⟩
  split at h
  · cases h
    exact ⟨_, _, rfl⟩
  split at h
  · cases h
    exact ⟨_, _, rfl⟩
  · exact operands_eq_error h

theorem checkAll_cons (w : Waiting) (others : List Waiting) :
    checkAll entry conditions (w :: others) =
      w.check entry conditions >>= fun found =>
        checkAll entry conditions (found.reverse ++ others) := by
  let next (found : List Waiting) := checkAll entry conditions (found.reverse ++ others)
  rw [checkAll]
  split
  · rename_i found hfound
    exact (congrArg (· >>= next) hfound).symm
  · rename_i fault hfault
    exact (congrArg (· >>= next) hfault).symm

/-- The run of the worklist on the node in a slot, whatever waits below it. -/
theorem checkAll_waiting (slot : Slot) (steps : List SlotName) (depth : Nat)
    (others : List Waiting) :
    checkAll entry conditions (slot.waiting steps depth ++ others) =
      slot.check entry conditions steps depth >>= fun _ =>
        checkAll entry conditions others := by
  induction slot generalizing steps depth others with
  | empty => rfl
  | name named => rfl
  | node op condition left right ihcondition ihleft ihright =>
      rw [Slot.waiting, List.singleton_append, checkAll_cons, Slot.check, bind_assoc]
      cases hcheck : check entry conditions ⟨steps, ⟨op, condition, left, right⟩, depth⟩ with
      | error fault => rfl
      | ok found =>
          obtain ⟨-, rfl⟩ := check_eq_ok_iff.mp hcheck
          -- The last slot comes off the stack first.
          have hreverse :
              (children ⟨steps, ⟨op, condition, left, right⟩, depth⟩
                  [.condition, .left, .right]).reverse ++ others =
                right.waiting (steps ++ [.right]) (depth + 1) ++
                  (left.waiting (steps ++ [.left]) (depth + 1) ++
                    (condition.waiting (steps ++ [.condition]) (depth + 1) ++ others)) := by
            simp [children, Expression.slot, Slot.reverse_waiting]
          rw [ok_bind, ok_bind, hreverse, ihright, ihleft, ihcondition]
          simp only [bind_assoc]

end Waiting

/-- The worklist gives the answer of the recursion. -/
theorem Expression.check_eq_check (entry : String) (e : Expression) (conditions : Dict Condition) :
    e.check entry conditions = e.toSlot.check entry conditions [] 1 := by
  have hnil : Waiting.checkAll entry conditions [] = .ok () := by rw [Waiting.checkAll]
  calc e.check entry conditions
      = Waiting.checkAll entry conditions (e.toSlot.waiting [] 1 ++ []) := rfl
    _ = e.toSlot.check entry conditions [] 1 >>= fun _ =>
          Waiting.checkAll entry conditions [] := Waiting.checkAll_waiting e.toSlot [] 1 []
    _ = e.toSlot.check entry conditions [] 1 := by
        rw [hnil]
        exact bind_pure _

namespace Slot

variable {entry : String} {conditions : Dict Condition}

/-- Whatever the check refuses is a violation within the entry. -/
theorem check_eq_error {slot : Slot} {steps : List SlotName} {depth : Nat} {fault : Error}
    (h : slot.check entry conditions steps depth = .error fault) :
    ∃ steps' part reason, fault = .schemaViolation ⟨entry, steps', part⟩ reason := by
  induction slot generalizing steps depth with
  | empty => cases h
  | name named => cases h
  | node op condition left right ihcondition ihleft ihright =>
      rw [check] at h
      rcases bind_eq_error_iff.mp h with h | ⟨_, -, h⟩
      · exact ⟨_, Waiting.check_eq_error h⟩
      rcases bind_eq_error_iff.mp h with h | ⟨_, -, h⟩
      · exact ihright h
      rcases bind_eq_error_iff.mp h with h | ⟨_, -, h⟩
      · exact ihleft h
      · exact ihcondition h

/-- A slot passes when its node fits and all three slots below pass. -/
theorem check_node_eq_ok_iff {op : String} {condition left right : Slot} {steps : List SlotName}
    {depth : Nat} :
    (Slot.node op condition left right).check entry conditions steps depth = .ok () ↔
      (∃ known, Waiting.Fits conditions ⟨steps, ⟨op, condition, left, right⟩, depth⟩ known) ∧
        right.check entry conditions (steps ++ [.right]) (depth + 1) = .ok () ∧
        left.check entry conditions (steps ++ [.left]) (depth + 1) = .ok () ∧
        condition.check entry conditions (steps ++ [.condition]) (depth + 1) = .ok () := by
  simp only [check, bind_eq_ok_iff, Waiting.check_eq_ok_iff]
  constructor
  · rintro ⟨_, ⟨hfits, -⟩, _, hright, _, hleft, hcondition⟩
    exact ⟨hfits, hright, hleft, hcondition⟩
  · rintro ⟨hfits, hright, hleft, hcondition⟩
    exact ⟨_, ⟨hfits, rfl⟩, _, hright, _, hleft, hcondition⟩

end Slot

end FilterBook
