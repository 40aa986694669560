import FilterBook.Proofs.Evaluation
import FilterBook.Proofs.Gate
import Mathlib.Logic.Relation

/-!
How full the stacks get. The evaluator owes one fragment at any time: what lies on the stack of
fragments, and what is still to come, is joined to one by the nodes that wait with two operands.
Each level above the place where the walk stands has a node waiting to be put together, and besides
it either its right operand on the stack of tasks or its left fragment on the stack of fragments.
The gate keeps at most one node of each level waiting, and two of the last. So the limit on the
depth of a tree is a limit on every stack.
-/

namespace FilterBook

open Outcome

namespace Task

/-- Whether a task stands for a fragment that is still to come. -/
def isOpen : Task → Bool
  | .visit _ _ => true
  | .operand _ _ => true
  | .assemble _ => false

/-- Whether a task makes one fragment of two. -/
def joins : Task → Bool
  | .assemble op => op.isBinary
  | _ => false

end Task

namespace Stacks

variable {conditions : Dict Condition} {s next : Stacks}

/-- One turn of the evaluator: the task on top is taken off and carried out. -/
def Step (conditions : Dict Condition) (s next : Stacks) : Prop :=
  ∃ task tasks, s.tasks = task :: tasks ∧ perform conditions task { s with tasks } = .ok next

/-- The stacks that the evaluation of an expression comes to, before each turn and after the last.
-/
def Reached (conditions : Dict Condition) (e : Expression) (s : Stacks) : Prop :=
  Relation.ReflTransGen (Step conditions) (start e) s

/-- The tasks that wait for the fragment of one operand of a node at that depth, while `held`
fragments lie below it: from the node up to the root, each has its only operand under way, or its
left one with the right one waiting, or its right one with the left one held. -/
inductive Pending : Nat → List Task → Nat → Prop
  | root : Pending 0 [] 0
  | only {depth held : Nat} {tasks : List Task} {op : ExpressionOp} (hop : op.isBinary = false)
      (h : Pending depth tasks held) : Pending (depth + 1) (.assemble op :: tasks) held
  | left {depth held : Nat} {tasks : List Task} {op : ExpressionOp} {right : Operand}
      (hop : op.isBinary = true) (h : Pending depth tasks held) :
      Pending (depth + 1) (.operand right (depth + 1) :: .assemble op :: tasks) held
  | right {depth held : Nat} {tasks : List Task} {op : ExpressionOp} (hop : op.isBinary = true)
      (h : Pending depth tasks held) : Pending (depth + 1) (.assemble op :: tasks) (held + 1)

/-- Stacks in the middle of a walk: a node is to be visited or an operand to be resolved, or its
fragment has just been laid on top, and the tasks below wait for it. -/
inductive Balanced : Stacks → Prop
  | visit {depth : Nat} {tasks : List Task} {fragments : List Query} {node : Expression}
      (h : Pending depth tasks fragments.length) (hdepth : depth ≤ greatestDepth) :
      Balanced ⟨.visit node (depth + 1) :: tasks, fragments⟩
  | operand {depth : Nat} {tasks : List Task} {fragments : List Query} {filled : Operand}
      (h : Pending depth tasks fragments.length) (hdepth : depth ≤ greatestDepth) :
      Balanced ⟨.operand filled depth :: tasks, fragments⟩
  | fragment {depth : Nat} {tasks : List Task} {fragments : List Query} {fragment : Query}
      (h : Pending depth tasks fragments.length) (hdepth : depth ≤ greatestDepth) :
      Balanced ⟨tasks, fragment :: fragments⟩

namespace Pending

variable {depth held : Nat} {tasks : List Task}

/-- Each level has its node, and at most one operand besides. -/
theorem length_le (h : Pending depth tasks held) : tasks.length ≤ 2 * depth := by
  induction h with
  | root => exact Nat.le_refl 0
  | only _ _ ih | left _ _ ih | right _ _ ih =>
      simp only [List.length_cons]
      omega

/-- Each level has at most one fragment finished. -/
theorem held_le (h : Pending depth tasks held) : held ≤ depth := by
  induction h with
  | root => exact Nat.le_refl 0
  | only _ _ ih | left _ _ ih | right _ _ ih => omega

/-- A node with two operands has one of them under way and the other one waiting or held. -/
theorem balance (h : Pending depth tasks held) :
    held + tasks.countP Task.isOpen = tasks.countP Task.joins := by
  induction h with
  | root => rfl
  | only hop _ ih | left hop _ ih | right hop _ ih =>
      simp only [List.countP_cons, Task.isOpen, Task.joins, hop, Bool.false_eq_true, if_true,
        if_false]
      omega

end Pending

section Turns

variable {depth : Nat} {tasks : List Task} {fragments : List Query}

/-- What a visit leaves: the node waits to be put together, below its operands. -/
theorem perform_visit_eq_ok {node : Expression} {rest : Stacks}
    (h : perform conditions (.visit node depth) rest = .ok next) :
    depth ≤ greatestDepth ∧ ∃ op : ExpressionOp,
      (op.isBinary = true ∧ ∃ left right,
        next = ⟨.operand left depth :: .operand right depth :: .assemble op :: rest.tasks,
          rest.fragments⟩) ∨
      (op.isBinary = false ∧ ∃ only,
        next = ⟨.operand only depth :: .assemble op :: rest.tasks, rest.fragments⟩) := by
  rw [perform] at h
  split at h
  · cases h
  rename_i hdepth
  obtain ⟨op, -, h⟩ := bind_eq_ok_iff.mp h
  obtain ⟨operands, hoperands, h⟩ := bind_eq_ok_iff.mp h
  obtain rfl := Except.ok.inj h
  refine ⟨Nat.le_of_not_gt hdepth, op, ?_⟩
  unfold Expression.operands at hoperands
  split at hoperands
  · rename_i hop
    obtain ⟨left, -, hoperands⟩ := bind_eq_ok_iff.mp hoperands
    obtain ⟨right, -, hoperands⟩ := bind_eq_ok_iff.mp hoperands
    obtain rfl := Except.ok.inj hoperands
    exact Or.inl ⟨hop, left, right, rfl⟩
  · rename_i hop
    obtain ⟨only, -, hoperands⟩ := bind_eq_ok_iff.mp hoperands
    obtain rfl := Except.ok.inj hoperands
    exact Or.inr ⟨by simpa using hop, only, rfl⟩

/-- What an operand leaves: the fragment of a condition, or a node to be visited. -/
theorem perform_operand_eq_ok {filled : Operand} {rest : Stacks}
    (h : perform conditions (.operand filled depth) rest = .ok next) :
    (∃ fragment, next = ⟨rest.tasks, fragment :: rest.fragments⟩) ∨
      ∃ node, next = ⟨.visit node (depth + 1) :: rest.tasks, rest.fragments⟩ := by
  cases filled with
  | name named =>
      rw [perform] at h
      split at h
      · cases h
      · obtain ⟨fragment, -, h⟩ := bind_eq_ok_iff.mp h
        obtain rfl := Except.ok.inj h
        exact Or.inl ⟨fragment, rfl⟩
  | node node =>
      obtain rfl := Except.ok.inj h
      exact Or.inr ⟨node, rfl⟩

theorem balanced_of_visit {node : Expression} (h : Pending depth tasks fragments.length)
    (hnext : perform conditions (.visit node (depth + 1)) ⟨tasks, fragments⟩ = .ok next) :
    next.Balanced := by
  obtain ⟨hdepth, op, ⟨hop, left, right, rfl⟩ | ⟨hop, only, rfl⟩⟩ := perform_visit_eq_ok hnext
  · exact .operand (.left hop h) hdepth
  · exact .operand (.only hop h) hdepth

theorem balanced_of_operand {filled : Operand} (h : Pending depth tasks fragments.length)
    (hdepth : depth ≤ greatestDepth)
    (hnext : perform conditions (.operand filled depth) ⟨tasks, fragments⟩ = .ok next) :
    next.Balanced := by
  rcases perform_operand_eq_ok hnext with ⟨fragment, rfl⟩ | ⟨node, rfl⟩
  · exact .fragment h hdepth
  · exact .visit h hdepth

theorem balanced_start (e : Expression) : (start e).Balanced :=
  .visit .root (Nat.zero_le _)

/-- A turn keeps the stacks in the middle of the walk. -/
theorem Balanced.step (h : s.Balanced) (hstep : Step conditions s next) : next.Balanced := by
  obtain ⟨task, rest, htasks, hnext⟩ := hstep
  cases h with
  | visit hpending hdepth =>
      cases htasks
      exact balanced_of_visit hpending hnext
  | operand hpending hdepth =>
      cases htasks
      exact balanced_of_operand hpending hdepth hnext
  | @fragment depth tasks fragments fragment hpending hdepth =>
      -- What the fragment was awaited for is now on top.
      generalize hheld : fragments.length = held at hpending
      cases hpending with
      | root => cases htasks
      | only hop hpending =>
          subst hheld
          cases htasks
          rw [perform, assemble_around hop] at hnext
          obtain rfl := Except.ok.inj hnext
          exact .fragment hpending (Nat.le_of_succ_le hdepth)
      | left hop hpending =>
          subst hheld
          cases htasks
          exact balanced_of_operand (.right hop hpending) hdepth hnext
      | right hop hpending =>
          cases htasks
          obtain ⟨left, fragments, rfl⟩ := List.exists_cons_of_length_eq_add_one hheld
          obtain rfl := Nat.succ.inj hheld
          rw [perform, assemble_pair hop] at hnext
          obtain rfl := Except.ok.inj hnext
          exact .fragment hpending (Nat.le_of_succ_le hdepth)

theorem Reached.balanced {e : Expression} (h : Reached conditions e s) : s.Balanced := by
  induction h with
  | refl => exact balanced_start e
  | tail _ hstep ih => exact ih.step hstep

/-- A turn is part of the run. -/
theorem Step.run_eq (h : Step conditions s next) : s.run conditions = next.run conditions := by
  obtain ⟨tasks, fragments⟩ := s
  obtain ⟨task, rest, rfl, hnext⟩ := h
  rw [run_cons]
  exact congrArg (· >>= run conditions) hnext

theorem Reached.run_eq {e : Expression} (h : Reached conditions e s) :
    s.run conditions = e.evaluate conditions := by
  induction h with
  | refl => rfl
  | tail _ hstep ih => rw [← hstep.run_eq, ih]

end Turns

namespace Balanced

theorem balance (h : s.Balanced) :
    s.fragments.length + s.tasks.countP Task.isOpen = s.tasks.countP Task.joins + 1 := by
  cases h with
  | visit hpending _ | operand hpending _ | fragment hpending _ =>
      have hbalance := hpending.balance
      simp only [List.countP_cons, List.length_cons, Task.isOpen, Task.joins, Bool.false_eq_true,
        if_true, if_false]
      omega

theorem tasks_le (h : s.Balanced) : s.tasks.length ≤ 2 * greatestDepth + 1 := by
  cases h with
  | visit hpending _ | operand hpending _ | fragment hpending _ =>
      have hlength := hpending.length_le
      simp only [List.length_cons]
      omega

theorem fragments_le (h : s.Balanced) : s.fragments.length ≤ greatestDepth + 1 := by
  cases h with
  | visit hpending _ | operand hpending _ | fragment hpending _ =>
      have hheld := hpending.held_le
      simp only [List.length_cons]
      omega

/-- A node that comes to be put together has the fragments of all its operands on the stack. -/
theorem operands_le (h : s.Balanced) {op : ExpressionOp} {tasks : List Task}
    (htasks : s.tasks = .assemble op :: tasks) : op.usedSlots.length ≤ s.fragments.length := by
  cases h with
  | visit => cases htasks
  | operand => cases htasks
  | @fragment depth tasks fragments fragment hpending hdepth =>
      simp only [List.length_cons]
      generalize fragments.length = held at hpending
      cases hpending with
      | root => cases htasks
      | only hop _ =>
          cases htasks
          rw [(ExpressionOp.usedSlots_of_not_isBinary hop).1]
          exact Nat.succ_le_succ (Nat.zero_le _)
      | left => cases htasks
      | right hop _ =>
          cases htasks
          rw [(ExpressionOp.usedSlots_of_isBinary hop).1]
          exact Nat.succ_le_succ (Nat.succ_le_succ (Nat.zero_le _))

end Balanced

end Stacks

namespace Waiting

variable {entry : String} {conditions : Dict Condition}

/-- One turn of the gate: the first node that waits passes by itself, and the nodes in its slots
wait before all others. -/
def Step (entry : String) (conditions : Dict Condition) (waiting next : List Waiting) : Prop :=
  ∃ first others found, waiting = first :: others ∧ first.check entry conditions = .ok found ∧
    next = found.reverse ++ others

/-- The nodes that wait while an expression is checked, before each turn and after the last. -/
def Reached (entry : String) (conditions : Dict Condition) (e : Expression)
    (waiting : List Waiting) : Prop :=
  Relation.ReflTransGen (Step entry conditions) [⟨[], e, 1⟩] waiting

/-- From any node that waits on, no more wait than the node is deep. -/
inductive Tiered : List Waiting → Prop
  | nil : Tiered []
  | cons {w : Waiting} {others : List Waiting} (h : Tiered others)
      (hlength : others.length < w.depth) (hdepth : w.depth ≤ greatestDepth + 1) :
      Tiered (w :: others)

theorem Tiered.length_le {waiting : List Waiting} (h : Tiered waiting) :
    waiting.length ≤ greatestDepth + 1 := by
  cases h with
  | nil => exact Nat.zero_le _
  | cons _ hlength hdepth => exact Nat.le_trans hlength hdepth

theorem Tiered.append {others : List Waiting} (h : Tiered others) {front : List Waiting}
    {depth : Nat} (hfront : ∀ w ∈ front, w.depth = depth)
    (hlength : front.length + others.length ≤ depth) (hdepth : depth ≤ greatestDepth + 1) :
    Tiered (front ++ others) := by
  induction front with
  | nil => exact h
  | cons w front ih =>
      obtain ⟨hw, hfront⟩ := List.forall_mem_cons.mp hfront
      rw [List.length_cons] at hlength
      have hcount : (front ++ others).length < w.depth := by
        rw [List.length_append, hw]
        omega
      exact .cons (ih hfront (by omega)) hcount (hw ▸ hdepth)

theorem length_waiting_le (slot : Slot) (steps : List SlotName) (depth : Nat) :
    (slot.waiting steps depth).length ≤ 1 := by
  cases slot with
  | empty => exact Nat.zero_le 1
  | name named => exact Nat.zero_le 1
  | node op condition left right => exact Nat.le_refl 1

theorem length_children_le (w : Waiting) (names : List SlotName) :
    (w.children names).length ≤ names.length := by
  induction names with
  | nil => exact Nat.le_refl 0
  | cons name names ih =>
      have hslot := length_waiting_le (w.node.slot name) (w.steps ++ [name]) (w.depth + 1)
      have hsplit : w.children (name :: names) =
          (w.node.slot name).waiting (w.steps ++ [name]) (w.depth + 1) ++ w.children names := rfl
      rw [hsplit, List.length_append, List.length_cons]
      omega

theorem depth_of_mem_children {w child : Waiting} {names : List SlotName}
    (h : child ∈ w.children names) : child.depth = w.depth + 1 := by
  obtain ⟨name, -, hchild⟩ := List.mem_flatMap.mp h
  cases hslot : w.node.slot name with
  | empty =>
      rw [hslot] at hchild
      cases hchild
  | name named =>
      rw [hslot] at hchild
      cases hchild
  | node op condition left right =>
      rw [hslot] at hchild
      rw [List.mem_singleton.mp hchild]

theorem length_usedSlots_le (op : ExpressionOp) : op.usedSlots.length ≤ 2 := by
  cases op <;> decide

/-- A turn puts at most two nodes in the place of one, and these are one level deeper. -/
theorem Tiered.step {waiting next : List Waiting} (h : Tiered waiting)
    (hstep : Step entry conditions waiting next) : Tiered next := by
  obtain ⟨first, others, found, rfl, hcheck, rfl⟩ := hstep
  obtain ⟨⟨op, hfits⟩, hfound⟩ := check_eq_ok_iff.mp hcheck
  rw [← children_slots hfits.unused] at hfound
  subst hfound
  cases h with
  | cons hothers hlength hdepth =>
      have hcount := length_children_le first op.usedSlots
      have hslots := length_usedSlots_le op
      refine hothers.append (fun w hw => depth_of_mem_children (List.mem_reverse.mp hw)) ?_
        (Nat.succ_le_succ hfits.depth_le)
      rw [List.length_reverse]
      omega

theorem Reached.tiered {e : Expression} {waiting : List Waiting}
    (h : Reached entry conditions e waiting) : Tiered waiting := by
  induction h with
  | refl => exact .cons .nil Nat.one_pos (Nat.le_add_left 1 greatestDepth)
  | tail _ hstep ih => exact ih.step hstep

/-- A turn is part of the check. -/
theorem Step.checkAll_eq {waiting next : List Waiting} (h : Step entry conditions waiting next) :
    checkAll entry conditions waiting = checkAll entry conditions next := by
  obtain ⟨first, others, found, rfl, hcheck, rfl⟩ := h
  rw [checkAll_cons, hcheck, ok_bind]

theorem Reached.checkAll_eq {e : Expression} {waiting : List Waiting}
    (h : Reached entry conditions e waiting) :
    checkAll entry conditions waiting = e.check entry conditions := by
  induction h with
  | refl => rfl
  | tail _ hstep ih => rw [← hstep.checkAll_eq, ih]

end Waiting

/-- Before each turn of the evaluator, and after the last, what lies finished and what is still open
comes to one more than the nodes that join two, a node on top has the fragments of its operands, and
neither stack is high; and the gate never has many nodes waiting. -/
theorem Expression.stacks_keep_bounds (conditions : Dict Condition) (e : Expression) :
    (∀ s, Stacks.Reached conditions e s →
      s.run conditions = e.evaluate conditions ∧
      (s.fragments.length : Int) + s.tasks.countP Task.isOpen - s.tasks.countP Task.joins = 1 ∧
      (∀ op tasks, s.tasks = .assemble op :: tasks →
        op.usedSlots.length ≤ s.fragments.length) ∧
      s.tasks.length ≤ 129 ∧ s.fragments.length ≤ 65) ∧
    ∀ entry waiting, Waiting.Reached entry conditions e waiting →
      Waiting.checkAll entry conditions waiting = e.check entry conditions ∧
        waiting.length ≤ 65 := by
  constructor
  · intro s hs
    have hbalanced := hs.balanced
    have hcount := hbalanced.balance
    refine ⟨hs.run_eq, by omega, fun op tasks htasks => hbalanced.operands_le htasks,
      hbalanced.tasks_le, hbalanced.fragments_le⟩
  · intro entry waiting hwaiting
    exact ⟨hwaiting.checkAll_eq, hwaiting.tiered.length_le⟩

namespace Expression

/-- A tree in which every branch is as long as the others. -/
def full : Nat → Expression
  | 0 => .unary .use (.name "A")
  | levels + 1 => .binary .and (.node (full levels)) (.node (full levels))

/-- On the way down the left side a node and its right operand are left behind on each level. -/
theorem reached_full (conditions : Dict Condition) {depth levels : Nat}
    (hdepth : depth + levels = greatestDepth) :
    ∃ tasks, tasks.length = 2 * depth ∧ Stacks.Reached conditions (full greatestDepth)
      ⟨.visit (full levels) (depth + 1) :: tasks, []⟩ := by
  induction depth generalizing levels with
  | zero =>
      obtain rfl : levels = greatestDepth := by omega
      exact ⟨[], rfl, .refl⟩
  | succ depth ih =>
      obtain ⟨tasks, hlength, hreached⟩ := @ih (levels + 1) (by omega)
      have hlevel : ¬ depth + 1 > greatestDepth := by omega
      have hvisit : Stacks.perform conditions (.visit (full (levels + 1)) (depth + 1)) ⟨tasks, []⟩ =
          .ok ⟨.operand (.node (full levels)) (depth + 1) ::
            .operand (.node (full levels)) (depth + 1) :: .assemble .and :: tasks, []⟩ := by
        rw [Stacks.perform, if_neg hlevel]
        rfl
      refine ⟨.operand (.node (full levels)) (depth + 1) :: .assemble .and :: tasks, ?_,
        (hreached.tail ⟨_, _, rfl, hvisit⟩).tail ⟨_, _, rfl, rfl⟩⟩
      simp only [List.length_cons]
      omega

/-- On the way down the right side a left node is left behind on each level. -/
theorem reached_full_check (entry : String) (conditions : Dict Condition) {depth levels : Nat}
    (hdepth : depth + levels = greatestDepth) :
    ∃ steps others, others.length = depth ∧ Waiting.Reached entry conditions (full greatestDepth)
      (⟨steps, full levels, depth + 1⟩ :: others) := by
  induction depth generalizing levels with
  | zero =>
      obtain rfl : levels = greatestDepth := by omega
      exact ⟨[], [], rfl, .refl⟩
  | succ depth ih =>
      obtain ⟨steps, others, hlength, hreached⟩ := @ih (levels + 1) (by omega)
      have hlevel : ¬ depth + 1 > greatestDepth := by omega
      have hcheck : Waiting.check entry conditions ⟨steps, full (levels + 1), depth + 1⟩ =
          .ok [⟨steps ++ [.left], full levels, depth + 2⟩,
            ⟨steps ++ [.right], full levels, depth + 2⟩] := by
        rw [Waiting.check, if_neg hlevel]
        rfl
      refine ⟨steps ++ [.right], ⟨steps ++ [.left], full levels, depth + 2⟩ :: others, ?_,
        hreached.tail ⟨_, _, _, rfl, hcheck, rfl⟩⟩
      rw [List.length_cons, hlength]

/-- The tree with one level too many fills the evaluator's tasks and the gate's nodes to the brim,
just before it is found to be too deep. -/
theorem stacks_keep_bounds_full :
    (∃ s, Stacks.Reached .empty (full 64) s ∧ s.tasks.length = 129 ∧
      (s.fragments.length : Int) + s.tasks.countP Task.isOpen - s.tasks.countP Task.joins = 1) ∧
    ∃ waiting, Waiting.Reached "E" .empty (full 64) waiting ∧ waiting.length = 65 ∧
      Waiting.checkAll "E" .empty waiting = (full 64).check "E" .empty := by
  obtain ⟨hevaluator, hgate⟩ := stacks_keep_bounds .empty (full 64)
  constructor
  · obtain ⟨tasks, hlength, hreached⟩ := reached_full .empty (Nat.add_zero greatestDepth)
    refine ⟨_, hreached, ?_, (hevaluator _ hreached).2.1⟩
    rw [List.length_cons, hlength]
    rfl
  · obtain ⟨steps, others, hlength, hreached⟩ :=
      reached_full_check "E" .empty (Nat.add_zero greatestDepth)
    refine ⟨_, hreached, ?_, (hgate _ _ hreached).1⟩
    rw [List.length_cons, hlength]
    rfl

end Expression

end FilterBook
