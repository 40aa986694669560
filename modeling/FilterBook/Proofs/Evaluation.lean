import FilterBook.Evaluate
import FilterBook.Proofs.Resolution

/-!
The fragment of an expression by plain recursion over its tree. The evaluator with its two stacks
returns the same fragment, or the same error, for every tree; so no run ever lacks a fragment or
has one left over.
-/

namespace FilterBook

open Outcome

/-- The fragment of the condition of that name. -/
def Condition.fragmentNamed (conditions : Dict Condition) (name : String) : Except Error Query :=
  match conditions.get? name with
  | none => .error (.unknownCondition name)
  | some condition => condition.fragment

namespace ExpressionOp

/-- The fragment of a node with two operands, in order. The symbol of such an operator is its name
after a dollar sign. -/
def pair (op : ExpressionOp) (left right : Query) : Query :=
  Dict.singleton ("$" ++ op.name) (.array [.ofDict left, .ofDict right])

/-- The fragment of a node with one operand, which `use` hands on as it is. -/
def around (op : ExpressionOp) (operand : Query) : Query :=
  match op.symbol? with
  | none => operand
  | some symbol => Dict.singleton symbol (.ofDict operand)

end ExpressionOp

/-- The fragment of what a slot holds, where a node in it stands at that depth. The operands that a
node asks for must be there before any of them is looked into; an empty slot has no fragment. -/
def Slot.fragment (conditions : Dict Condition) (depth : Nat) : Slot → Except Error Query
  | .empty => .error .fragmentMissing
  | .name named => Condition.fragmentNamed conditions named
  | .node opName condition left right =>
      if depth > greatestDepth then .error .tooDeep
      else do
        let op ← ExpressionOp.parse opName
        if op.isBinary then do
          let _ ← left.require op .left
          let _ ← right.require op .right
          let first ← left.fragment conditions (depth + 1)
          let second ← right.fragment conditions (depth + 1)
          pure (op.pair first second)
        else do
          let _ ← condition.require op .condition
          let operand ← condition.fragment conditions (depth + 1)
          pure (op.around operand)

/-- The fragment of an expression, whose root is at the first level. -/
def Expression.fragment (e : Expression) (conditions : Dict Condition) : Except Error Query :=
  e.toSlot.fragment conditions 1

/-- Whether an error says that the two stacks do not fit each other. -/
def Error.isInternal : Error → Bool
  | .fragmentsLeft _ => true
  | .fragmentMissing => true
  | _ => false

theorem Slot.require_eq_ok_iff {slot : Slot} {op : ExpressionOp} {name : SlotName}
    {operand : Operand} : slot.require op name = .ok operand ↔ slot.operand? = some operand :=
  expect_eq_ok_iff

theorem Slot.exists_require {slot : Slot} (hslot : slot ≠ .empty) (op : ExpressionOp)
    (name : SlotName) : ∃ operand, slot.require op name = .ok operand := by
  cases slot with
  | empty => exact absurd rfl hslot
  | name named => exact ⟨_, rfl⟩
  | node opName condition left right => exact ⟨_, rfl⟩

theorem ExpressionOp.parse_eq_ok_iff {name : String} {op : ExpressionOp} :
    parse name = .ok op ↔ op.name = name :=
  expect_eq_ok_iff.trans ofName?_eq_some_iff

namespace Slot

variable {conditions : Dict Condition} {op : ExpressionOp} {condition left right : Slot}
  {depth : Nat}

/-- A node that has its two operands. -/
theorem fragment_of_isBinary (hop : op.isBinary = true) (hdepth : depth ≤ greatestDepth)
    (hleft : left ≠ .empty) (hright : right ≠ .empty) :
    (Slot.node op.name condition left right).fragment conditions depth = (do
      let first ← left.fragment conditions (depth + 1)
      let second ← right.fragment conditions (depth + 1)
      pure (op.pair first second)) := by
  obtain ⟨_, hfirst⟩ := exists_require hleft op .left
  obtain ⟨_, hsecond⟩ := exists_require hright op .right
  rw [fragment, if_neg (Nat.not_lt.mpr hdepth), ExpressionOp.parse_eq_ok_iff.mpr rfl]
  simp only [ok_bind, hop, if_true, hfirst, hsecond]

/-- A node that has its one operand. -/
theorem fragment_of_not_isBinary (hop : op.isBinary = false) (hdepth : depth ≤ greatestDepth)
    (hcondition : condition ≠ .empty) :
    (Slot.node op.name condition left right).fragment conditions depth = (do
      let operand ← condition.fragment conditions (depth + 1)
      pure (op.around operand)) := by
  obtain ⟨_, hoperand⟩ := exists_require hcondition op .condition
  rw [fragment, if_neg (Nat.not_lt.mpr hdepth), ExpressionOp.parse_eq_ok_iff.mpr rfl]
  simp only [ok_bind, hop, Bool.false_eq_true, if_false, hoperand]

end Slot

namespace Stacks

theorem assemble_pair {op : ExpressionOp} (hop : op.isBinary = true) (left right : Query)
    (rest : List Query) :
    assemble op (right :: left :: rest) = .ok (op.pair left right :: rest) := by
  cases op <;> first | rfl | cases hop

theorem assemble_around {op : ExpressionOp} (hop : op.isBinary = false) (operand : Query)
    (rest : List Query) :
    assemble op (operand :: rest) = .ok (op.around operand :: rest) := by
  cases op <;> first | rfl | cases hop

theorem run_nil (conditions : Dict Condition) (fragments : List Query) :
    run conditions ⟨[], fragments⟩ = result ⟨[], fragments⟩ := by
  rw [run]

theorem run_cons (conditions : Dict Condition) (task : Task) (tasks : List Task)
    (fragments : List Query) :
    run conditions ⟨task :: tasks, fragments⟩ =
      perform conditions task ⟨tasks, fragments⟩ >>= run conditions := by
  rw [run]
  split
  · rename_i heq
    cases heq
  · rename_i heq
    cases heq
    split
    · rename_i next hnext
      exact (congrArg (· >>= run conditions) hnext).symm
    · rename_i fault hfault
      exact (congrArg (· >>= run conditions) hfault).symm

/-- Once a node's operands lie on the stack, the node is put together. -/
theorem run_assemble {conditions : Dict Condition} {op : ExpressionOp} {tasks : List Task}
    {fragments after : List Query} (h : assemble op fragments = .ok after) :
    run conditions ⟨.assemble op :: tasks, fragments⟩ = run conditions ⟨tasks, after⟩ := by
  rw [run_cons, perform, h]
  rfl

/-- The run of a task on an operand: the stacks below are left as they are, and the operand's
fragment comes on top. -/
theorem run_operand {slot : Slot} {operand : Operand} (h : slot.operand? = some operand)
    (conditions : Dict Condition) (depth : Nat) (tasks : List Task) (fragments : List Query) :
    run conditions ⟨.operand operand depth :: tasks, fragments⟩ =
      slot.fragment conditions (depth + 1) >>= fun fragment =>
        run conditions ⟨tasks, fragment :: fragments⟩ := by
  induction slot generalizing operand depth tasks fragments with
  | empty => cases h
  | name name =>
      cases h
      rw [run_cons, perform, Slot.fragment, Condition.fragmentNamed]
      cases conditions.get? name with
      | none => rfl
      | some condition => simp only [bind_assoc, pure_eq_ok, ok_bind]
  | node opName condition left right ihcondition ihleft ihright =>
      cases h
      rw [run_cons, perform, ok_bind, run_cons, perform, Slot.fragment]
      split
      · rfl
      cases hop : ExpressionOp.parse opName with
      | error fault => rfl
      | ok op =>
          simp only [ok_bind, Expression.operands]
          split
          · rename_i hbinary
            cases hleft : left.require op .left with
            | error fault => rfl
            | ok first =>
                cases hright : right.require op .right with
                | error fault => rfl
                | ok second =>
                    simp only [ok_bind, pure_eq_ok, List.map_cons, List.map_nil,
                      List.cons_append, List.nil_append, bind_assoc]
                    rw [ihleft (Slot.require_eq_ok_iff.mp hleft)]
                    congr 1
                    funext leftFragment
                    rw [ihright (Slot.require_eq_ok_iff.mp hright)]
                    congr 1
                    funext rightFragment
                    exact run_assemble (assemble_pair hbinary leftFragment rightFragment fragments)
          · rename_i hunary
            cases hcondition : condition.require op .condition with
            | error fault => rfl
            | ok only =>
                simp only [ok_bind, pure_eq_ok, List.map_cons, List.map_nil, List.cons_append,
                  List.nil_append, bind_assoc]
                rw [ihcondition (Slot.require_eq_ok_iff.mp hcondition)]
                congr 1
                funext fragment
                exact run_assemble (assemble_around (by simpa using hunary) fragment fragments)

end Stacks

theorem Condition.isInternal_of_fragmentNamed {conditions : Dict Condition} {name : String}
    {fault : Error} (h : Condition.fragmentNamed conditions name = .error fault) :
    fault.isInternal = false := by
  unfold Condition.fragmentNamed at h
  split at h
  · cases h
    rfl
  · rcases Condition.fragment_eq_error h with ⟨s, cause, rfl⟩ | rfl
    · rfl
    · rfl

theorem Slot.isInternal_of_require {slot : Slot} {op : ExpressionOp} {name : SlotName}
    {fault : Error} (h : slot.require op name = .error fault) : fault.isInternal = false := by
  obtain ⟨-, rfl⟩ := expect_eq_error_iff.mp h
  rfl

theorem ExpressionOp.isInternal_of_parse {name : String} {fault : Error}
    (h : ExpressionOp.parse name = .error fault) : fault.isInternal = false := by
  obtain ⟨-, rfl⟩ := expect_eq_error_iff.mp h
  rfl

/-- A filled slot never fails for want of a fragment: a node asks for its operands first. -/
theorem Slot.isInternal_of_fragment {slot : Slot} {operand : Operand}
    (hslot : slot.operand? = some operand) {conditions : Dict Condition} {depth : Nat}
    {fault : Error} (h : slot.fragment conditions depth = .error fault) :
    fault.isInternal = false := by
  induction slot generalizing operand depth with
  | empty => cases hslot
  | name name => exact Condition.isInternal_of_fragmentNamed h
  | node opName condition left right ihcondition ihleft ihright =>
      rw [Slot.fragment] at h
      split at h
      · cases h
        rfl
      rcases bind_eq_error_iff.mp h with hop | ⟨op, -, h⟩
      · exact ExpressionOp.isInternal_of_parse hop
      split at h
      · rcases bind_eq_error_iff.mp h with hleft | ⟨first, hleft, h⟩
        · exact Slot.isInternal_of_require hleft
        rcases bind_eq_error_iff.mp h with hright | ⟨second, hright, h⟩
        · exact Slot.isInternal_of_require hright
        rcases bind_eq_error_iff.mp h with h | ⟨_, -, h⟩
        · exact ihleft (Slot.require_eq_ok_iff.mp hleft) h
        rcases bind_eq_error_iff.mp h with h | ⟨_, -, h⟩
        · exact ihright (Slot.require_eq_ok_iff.mp hright) h
        · cases h
      · rcases bind_eq_error_iff.mp h with hcondition | ⟨only, hcondition, h⟩
        · exact Slot.isInternal_of_require hcondition
        rcases bind_eq_error_iff.mp h with h | ⟨_, -, h⟩
        · exact ihcondition (Slot.require_eq_ok_iff.mp hcondition) h
        · cases h

/-- The stacks compute what the recursion over the tree does. -/
theorem Expression.evaluate_eq_fragment (e : Expression) (conditions : Dict Condition) :
    e.evaluate conditions = e.fragment conditions := by
  have hroot : e.toSlot.operand? = some (.node e) := rfl
  calc e.evaluate conditions
      = Stacks.run conditions ⟨[.operand (.node e) 0], []⟩ := by
        rw [Stacks.run_cons]
        rfl
    _ = e.toSlot.fragment conditions 1 >>= fun fragment =>
          Stacks.run conditions ⟨[], [fragment]⟩ := Stacks.run_operand hroot conditions 0 [] []
    _ = e.toSlot.fragment conditions 1 := by
        simp only [Stacks.run_nil, Stacks.result]
        exact bind_pure _

/-- Evaluation by two stacks is the recursion over the tree, for the fragment of every tree and for
its error, and no run finds the stacks at odds with each other. -/
theorem Expression.evaluate_is_recursive (e : Expression) (conditions : Dict Condition) :
    e.evaluate conditions = e.fragment conditions ∧
      ¬ ∃ fault, e.evaluate conditions = .error fault ∧ fault.isInternal = true := by
  refine ⟨e.evaluate_eq_fragment conditions, ?_⟩
  rintro ⟨fault, h, hinternal⟩
  rw [e.evaluate_eq_fragment conditions] at h
  have hnot := Slot.isInternal_of_fragment (rfl : e.toSlot.operand? = some (.node e)) h
  rw [hnot] at hinternal
  cases hinternal

end FilterBook
