import FilterBook.Proofs.Soundness

/-!
What the gate refuses although it could be compiled: an expression with a stray slot, which is
filled though the operator of its node does not use it. Evaluation never looks into such a slot.
Whatever else the gate asks of an expression, evaluation asks as well, so an expression with a
fragment is refused for a stray slot only, and the violation names one.
-/

namespace FilterBook

open Outcome

/-- The nodes of a tree that evaluation comes to, each with the slots that lead down to it: the
root, and what is in the slots that the operators on the way use. -/
inductive Slot.Reaches : Slot → List SlotName → Expression → Prop
  | root {op : String} {condition left right : Slot} :
      Reaches (.node op condition left right) [] ⟨op, condition, left, right⟩
  | down {opName : String} {condition left right : Slot} {op : ExpressionOp} {name : SlotName}
      {steps : List SlotName} {node : Expression}
      (hop : ExpressionOp.ofName? opName = some op) (hname : name ∈ op.usedSlots)
      (hbelow : Reaches (Expression.slot ⟨opName, condition, left, right⟩ name) steps node) :
      Reaches (.node opName condition left right) (name :: steps) node

namespace Expression

def Reaches (e : Expression) (steps : List SlotName) (node : Expression) : Prop :=
  e.toSlot.Reaches steps node

/-- A slot of a node that is filled though its operator does not use it. -/
structure Stray (node : Expression) (op : ExpressionOp) (name : SlotName) : Prop where
  known : ExpressionOp.ofName? node.op = some op
  unused : name ∈ op.unusedSlots
  filled : node.slot name ≠ .empty

end Expression

namespace Slot

variable {entry : String} {conditions : Dict Condition}

theorem filled_of_fragment {slot : Slot} {depth : Nat} {fragment : Query}
    (h : slot.fragment conditions depth = .ok fragment) : slot.Filled conditions := by
  cases slot with
  | empty => cases h
  | name named =>
      obtain ⟨c, hget, -⟩ := Condition.fragmentNamed_eq_ok_iff.mp h
      exact List.mem_map_of_mem (Dict.mem_entries_of_get? hget)
  | node op condition left right => exact filled_node

theorem depth_le_of_fragment {op : String} {condition left right : Slot} {depth : Nat}
    {fragment : Query}
    (h : (Slot.node op condition left right).fragment conditions depth = .ok fragment) :
    depth ≤ greatestDepth := by
  apply Nat.le_of_not_lt
  intro hdeep
  rw [Slot.fragment, if_pos hdeep] at h
  cases h

/-- What the operator of a node with a fragment uses is compiled on its own, one level below. -/
theorem fragment_slot {opName : String} {condition left right : Slot} {depth : Nat}
    {fragment : Query} {op : ExpressionOp}
    (h : (Slot.node opName condition left right).fragment conditions depth = .ok fragment)
    (hop : ExpressionOp.ofName? opName = some op) {name : SlotName} (hname : name ∈ op.usedSlots) :
    ∃ below, (Expression.slot ⟨opName, condition, left, right⟩ name).fragment conditions
      (depth + 1) = .ok below := by
  obtain ⟨op', hop', hcase⟩ := fragment_node_eq_ok h
  obtain rfl : op = op' := Option.some.inj (hop.symm.trans hop')
  rcases hcase with ⟨hbinary, first, second, hfirst, hsecond, -⟩ | ⟨hunary, operand, hoperand, -⟩
  · rw [(ExpressionOp.usedSlots_of_isBinary hbinary).1, List.mem_cons, List.mem_singleton] at hname
    rcases hname with rfl | rfl
    · exact ⟨first, hfirst⟩
    · exact ⟨second, hsecond⟩
  · rw [(ExpressionOp.usedSlots_of_not_isBinary hunary).1] at hname
    obtain rfl := List.mem_singleton.mp hname
    exact ⟨operand, hoperand⟩

end Slot

namespace ExpressionOp

/-- Every slot is used or unused. -/
theorem mem_usedSlots_or_mem_unusedSlots (op : ExpressionOp) (name : SlotName) :
    name ∈ op.usedSlots ∨ name ∈ op.unusedSlots := by
  cases op <;> cases name <;> decide

end ExpressionOp

namespace Waiting

variable {conditions : Dict Condition}

/-- A node with a fragment passes by itself, unless one of its slots is a stray. -/
theorem check_of_fragment (entry : String) (steps : List SlotName) {opName : String}
    {condition left right : Slot} {depth : Nat} {fragment : Query}
    (h : (Slot.node opName condition left right).fragment conditions depth = .ok fragment) :
    (∃ op, Fits conditions ⟨steps, ⟨opName, condition, left, right⟩, depth⟩ op) ∨
      ∃ op name, Expression.Stray ⟨opName, condition, left, right⟩ op name ∧
        check entry conditions ⟨steps, ⟨opName, condition, left, right⟩, depth⟩ =
          .error (.schemaViolation ⟨entry, steps, some (.slot name)⟩ (.notAllowed op)) := by
  have hdepth : depth ≤ greatestDepth := Slot.depth_le_of_fragment h
  obtain ⟨op, hop, -⟩ := Slot.fragment_node_eq_ok h
  let node : Expression := ⟨opName, condition, left, right⟩
  cases hstray : op.unusedSlots.find? fun name => !(node.slot name).isEmpty with
  | none =>
      refine Or.inl ⟨op, ExpressionOp.ofName?_eq_some_iff.mp hop, hdepth, ?_, ?_⟩
      · intro name hname
        have hempty := List.find?_eq_none.mp hstray name hname
        simpa [Slot.isEmpty_iff] using hempty
      · intro name hname
        obtain ⟨below, hbelow⟩ := Slot.fragment_slot h hop hname
        exact Slot.filled_of_fragment hbelow
  | some name =>
      have hfilled : node.slot name ≠ .empty := by
        have hfound := List.find?_some hstray
        intro hempty
        simp [hempty, Slot.isEmpty] at hfound
      refine Or.inr ⟨op, name, ⟨hop, List.mem_of_find?_eq_some hstray, hfilled⟩, ?_⟩
      rw [check, if_neg (Nat.not_lt.mpr hdepth), hop]
      simp only [node] at hstray
      simp only [hstray, refuse]

end Waiting

namespace Slot

variable {entry : String} {conditions : Dict Condition}

/-- Where the gate accepts, it has been at every node that evaluation comes to. -/
theorem not_stray_of_check {slot : Slot} {steps path : List SlotName} {depth : Nat}
    {node : Expression} (h : slot.check entry conditions steps depth = .ok ())
    (hreaches : slot.Reaches path node) (op : ExpressionOp) (name : SlotName) :
    ¬ node.Stray op name := by
  induction hreaches generalizing steps depth with
  | root =>
      obtain ⟨⟨known, hfits⟩, -⟩ := check_node_eq_ok_iff.mp h
      rintro ⟨hknown, hunused, hfilled⟩
      obtain rfl : op = known :=
        Option.some.inj (hknown.symm.trans (ExpressionOp.ofName?_eq_some_iff.mpr hfits.known))
      exact hfilled (hfits.unused name hunused)
  | @down opName condition left right op' next path node hop hnext hbelow ih =>
      obtain ⟨-, hright, hleft, hcondition⟩ := check_node_eq_ok_iff.mp h
      cases next with
      | condition => exact ih hcondition
      | left => exact ih hleft
      | right => exact ih hright

/-- A violation in a stray slot of a node that evaluation comes to. The steps before it lead to the
slot in which the tree stands. -/
def NamesStray (entry : String) (steps : List SlotName) (slot : Slot) (fault : Error) : Prop :=
  ∃ path node op name, slot.Reaches path node ∧ node.Stray op name ∧
    fault = .schemaViolation ⟨entry, steps ++ path, some (.slot name)⟩ (.notAllowed op)

/-- What is a stray below a slot is one below its node, if the node's operator uses the slot. -/
theorem NamesStray.up {opName : String} {condition left right : Slot} {op : ExpressionOp}
    {steps : List SlotName} {fault : Error} (hop : ExpressionOp.ofName? opName = some op)
    {name : SlotName} (hname : name ∈ op.usedSlots)
    (h : NamesStray entry (steps ++ [name])
      (Expression.slot ⟨opName, condition, left, right⟩ name) fault) :
    NamesStray entry steps (.node opName condition left right) fault := by
  obtain ⟨path, node, op', stray, hreaches, hstray, rfl⟩ := h
  refine ⟨name :: path, node, op', stray, .down hop hname hreaches, hstray, ?_⟩
  rw [List.append_assoc, List.singleton_append]

/-- A slot in which something is refused is filled, so the operator of its node uses it. -/
theorem used_of_check_error {w : Waiting} {op : ExpressionOp} (hfits : w.Fits conditions op)
    {name : SlotName} {steps : List SlotName} {depth : Nat} {fault : Error}
    (h : (w.node.slot name).check entry conditions steps depth = .error fault) :
    name ∈ op.usedSlots := by
  refine (op.mem_usedSlots_or_mem_unusedSlots name).resolve_right fun hunused => ?_
  rw [hfits.unused name hunused] at h
  cases h

/-- What is refused of a tree with a fragment is a stray slot of a node that evaluation comes to. -/
theorem namesStray_of_check {slot : Slot} {steps : List SlotName} {depth : Nat} {fragment : Query}
    {fault : Error} (hfragment : slot.fragment conditions depth = .ok fragment)
    (h : slot.check entry conditions steps depth = .error fault) :
    NamesStray entry steps slot fault := by
  induction slot generalizing steps depth fragment with
  | empty => cases h
  | name named => cases h
  | node opName condition left right ihcondition ihleft ihright =>
      rw [check] at h
      rcases Waiting.check_of_fragment entry steps hfragment with
        ⟨op, hfits⟩ | ⟨op, name, hstray, hcheck⟩
      · have hop : ExpressionOp.ofName? opName = some op :=
          ExpressionOp.ofName?_eq_some_iff.mpr hfits.known
        rw [Waiting.check_eq_ok_iff.mpr ⟨⟨op, hfits⟩, rfl⟩, ok_bind] at h
        rcases bind_eq_error_iff.mp h with h | ⟨_, -, h⟩
        · have hname : SlotName.right ∈ op.usedSlots := used_of_check_error hfits h
          obtain ⟨below, hbelow⟩ := fragment_slot hfragment hop hname
          exact (ihright hbelow h).up hop hname
        rcases bind_eq_error_iff.mp h with h | ⟨_, -, h⟩
        · have hname : SlotName.left ∈ op.usedSlots := used_of_check_error hfits h
          obtain ⟨below, hbelow⟩ := fragment_slot hfragment hop hname
          exact (ihleft hbelow h).up hop hname
        · have hname : SlotName.condition ∈ op.usedSlots := used_of_check_error hfits h
          obtain ⟨below, hbelow⟩ := fragment_slot hfragment hop hname
          exact (ihcondition hbelow h).up hop hname
      · rw [hcheck] at h
        cases h
        exact ⟨[], _, op, name, .root, hstray, by rw [List.append_nil]⟩

end Slot

/-- An expression with a fragment passes the gate exactly when no node that evaluation comes to has
a stray slot. If it does not pass, the violation is in a stray slot, and says that its operator does
not allow it. -/
theorem Expression.gate_refuses_only_strays {e : Expression} {conditions : Dict Condition}
    {fragment : Query} (h : e.evaluate conditions = .ok fragment) (entry : String) :
    (e.check entry conditions = .ok () ↔
      ∀ steps node, e.Reaches steps node → ∀ op name, ¬ node.Stray op name) ∧
    ∀ fault, e.check entry conditions = .error fault →
      ∃ steps node op name, e.Reaches steps node ∧ node.Stray op name ∧
        fault = .schemaViolation ⟨entry, steps, some (.slot name)⟩ (.notAllowed op) := by
  rw [e.evaluate_eq_fragment] at h
  rw [e.check_eq_check]
  have hrefused : ∀ fault, e.toSlot.check entry conditions [] 1 = .error fault →
      ∃ steps node op name, e.Reaches steps node ∧ node.Stray op name ∧
        fault = .schemaViolation ⟨entry, steps, some (.slot name)⟩ (.notAllowed op) :=
    fun fault hfault => Slot.namesStray_of_check h hfault
  refine ⟨⟨fun hcheck steps node hreaches => Slot.not_stray_of_check hcheck hreaches, ?_⟩, hrefused⟩
  intro hnone
  cases hcheck : e.toSlot.check entry conditions [] 1 with
  | ok => rfl
  | error fault =>
      obtain ⟨steps, node, op, name, hreaches, hstray, -⟩ := hrefused fault hcheck
      exact absurd hstray (hnone steps node hreaches op name)

namespace Expression

/-- A stray in a node below the root, which fills the slot `left` with a name that is not defined,
and another one below that stray. -/
def withStrays : Expression :=
  .binary .or (.name "A")
    (.node ⟨"not", .name "A", .node "and" (.name "B") .empty .empty, .empty⟩)

def oneCondition : Dict Condition :=
  Dict.ofList [("A", ⟨"a", "equals", .scalar (.bool true), false⟩)]

theorem gate_refuses_only_strays_withStrays :
    withStrays.evaluate oneCondition =
        .ok (Dict.singleton "$or" (.array [.object [("a", .bool true)],
          .object [("$not", .object [("a", .bool true)])]])) ∧
      ∃ steps node op name, withStrays.Reaches steps node ∧ node.Stray op name ∧
        Error.schemaViolation ⟨"E", [.right], some (.slot .left)⟩ (.notAllowed .not) =
          .schemaViolation ⟨"E", steps, some (.slot name)⟩ (.notAllowed op) := by
  have hevaluate : withStrays.evaluate oneCondition =
      .ok (Dict.singleton "$or" (.array [.object [("a", .bool true)],
        .object [("$not", .object [("a", .bool true)])]])) := by
    rw [evaluate_eq_fragment]
    rfl
  have hcheck : withStrays.check "E" oneCondition =
      .error (.schemaViolation ⟨"E", [.right], some (.slot .left)⟩ (.notAllowed .not)) := by
    rw [check_eq_check]
    rfl
  exact ⟨hevaluate, (gate_refuses_only_strays hevaluate "E").2 _ hcheck⟩

end Expression

end FilterBook
