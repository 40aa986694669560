import FilterBook.Proofs.Soundness
import Mathlib.Data.List.Nodup
import Mathlib.Data.Set.Function

/-!
Other names for the entries of a definition. Whatever reads an expression asks of a name only what
the conditions hold under it, so a renamed expression over renamed conditions gives the renamed
outcome: the same value, and the same error in the new names. The query of a definition does not
depend on its names, nor does the kind of its error.
-/

namespace FilterBook

open Outcome

/-- The slot with every name of a condition in it, and below it, replaced. -/
def Slot.rename (f : String → String) : Slot → Slot
  | .empty => .empty
  | .name named => .name (f named)
  | .node op condition left right =>
      .node op (condition.rename f) (left.rename f) (right.rename f)

def Expression.rename (f : String → String) (e : Expression) : Expression where
  op := e.op
  condition := e.condition.rename f
  left := e.left.rename f
  right := e.right.rename f

def Reason.rename (f : String → String) : Reason → Reason
  | .undefined named => .undefined (f named)
  | other => other

namespace Error

/-- The error in other names: `g` is for the entry in which a violation stands, and `f` for
conditions. -/
def rename (g f : String → String) : Error → Error
  | .schemaViolation place reason =>
      .schemaViolation { place with entry := g place.entry } (reason.rename f)
  | .unknownCondition named => .unknownCondition (f named)
  | other => other

/-- What remains of an error when all names are blotted out. -/
def nameless (fault : Error) : Error :=
  fault.rename (fun _ => "") fun _ => ""

/-- The kinds of errors, whatever they say in detail. -/
inductive Kind where
  | emptyInput
  | schemaViolation
  | unknownOperator
  | unknownCondition
  | missingOperand
  | invalidDate
  | tooDeep
  | internal
  | unreadable
  | json
  | yaml
deriving DecidableEq, Repr

def kind : Error → Kind
  | .emptyInput _ => .emptyInput
  | .schemaViolation _ _ => .schemaViolation
  | .unknownConditionOp _ => .unknownOperator
  | .unknownExpressionOp _ => .unknownOperator
  | .unknownCondition _ => .unknownCondition
  | .missingOperand _ _ => .missingOperand
  | .invalidDate _ _ => .invalidDate
  | .tooDeep => .tooDeep
  | .fragmentsLeft _ => .internal
  | .fragmentMissing => .internal
  | .unreadable => .unreadable
  | .json _ => .json
  | .yaml => .yaml

theorem rename_id : rename id id = id := by
  funext fault
  cases fault with
  | schemaViolation place reason => cases reason <;> rfl
  | _ => rfl

theorem nameless_rename (g f : String → String) (fault : Error) :
    (fault.rename g f).nameless = fault.nameless := by
  cases fault with
  | schemaViolation place reason => cases reason <;> rfl
  | _ => rfl

theorem kind_nameless (fault : Error) : fault.nameless.kind = fault.kind := by
  cases fault <;> rfl

theorem nameless_eq_invalidDate_iff {fault : Error} {s : Scalar} {cause : DateFault} :
    fault.nameless = .invalidDate s cause ↔ fault = .invalidDate s cause := by
  cases fault <;> simp [nameless, rename]

end Error

namespace Slot

theorem rename_id (s : Slot) : s.rename id = s := by
  induction s with
  | empty => rfl
  | name named => rfl
  | node op condition left right ihcondition ihleft ihright =>
      rw [rename, ihcondition, ihleft, ihright]

theorem forall_references_node {P : String → Prop} {op : String} {condition left right : Slot} :
    (∀ name ∈ (node op condition left right).references, P name) ↔
      (∀ name ∈ condition.references, P name) ∧ (∀ name ∈ left.references, P name) ∧
        ∀ name ∈ right.references, P name := by
  rw [references, List.forall_mem_append, List.forall_mem_append, and_assoc]

theorem isEmpty_rename (f : String → String) (s : Slot) : (s.rename f).isEmpty = s.isEmpty := by
  cases s <;> rfl

/-- Whether a slot is filled does not depend on the name in it. -/
theorem require_rename_bind {β : Type} (f : String → String) (s : Slot) (op : ExpressionOp)
    (name : SlotName) (next : Except Error β) :
    ((s.rename f).require op name >>= fun _ => next) = s.require op name >>= fun _ => next := by
  cases s <;> rfl

theorem mapError_require (g f : String → String) (s : Slot) (op : ExpressionOp)
    (name : SlotName) : (s.require op name).mapError (Error.rename g f) = s.require op name := by
  cases s <;> rfl

end Slot

theorem Expression.rename_id (e : Expression) : e.rename id = e := by
  simp only [rename, Slot.rename_id]

theorem Expression.slot_rename (f : String → String) (e : Expression) (name : SlotName) :
    (e.rename f).slot name = (e.slot name).rename f := by
  cases name <;> rfl

theorem Expression.mem_references_of_slot {e : Expression} {name : SlotName} {named : String}
    (h : e.slot name = .name named) : named ∈ e.references := by
  have hnamed : named ∈ (e.slot name).references := by
    rw [h]
    exact List.mem_singleton.mpr rfl
  simp only [references, toSlot, Slot.references, List.mem_append]
  cases name with
  | condition => exact Or.inl (Or.inl hnamed)
  | left => exact Or.inl (Or.inr hnamed)
  | right => exact Or.inr hnamed

theorem Condition.mapError_fragment (g f : String → String) (c : Condition) :
    c.fragment.mapError (Error.rename g f) = c.fragment := by
  cases hc : c.fragment with
  | ok fragment => rfl
  | error fault =>
      rcases Condition.fragment_eq_error hc with ⟨s, cause, rfl⟩ | rfl
      · rfl
      · rfl

theorem ExpressionOp.mapError_parse (g f : String → String) (name : String) :
    (ExpressionOp.parse name).mapError (Error.rename g f) = ExpressionOp.parse name := by
  unfold ExpressionOp.parse
  cases ExpressionOp.ofName? name <;> rfl

section Evaluation

variable {g f : String → String} {conditions others : Dict Condition}

theorem Condition.fragmentNamed_rename {named : String}
    (h : others.get? (f named) = conditions.get? named) :
    Condition.fragmentNamed others (f named) =
      (Condition.fragmentNamed conditions named).mapError (Error.rename g f) := by
  rw [Condition.fragmentNamed, Condition.fragmentNamed, h]
  cases conditions.get? named with
  | none => rfl
  | some condition => exact (condition.mapError_fragment g f).symm

/-- The fragment of a renamed slot, where the other conditions hold under the new names what these
hold under the old ones. -/
theorem Slot.fragment_rename {s : Slot}
    (h : ∀ named ∈ s.references, others.get? (f named) = conditions.get? named) (depth : Nat) :
    (s.rename f).fragment others depth =
      (s.fragment conditions depth).mapError (Error.rename g f) := by
  induction s generalizing depth with
  | empty => rfl
  | name named => exact Condition.fragmentNamed_rename (h named (List.mem_singleton.mpr rfl))
  | node opName condition left right ihcondition ihleft ihright =>
      obtain ⟨hcondition, hleft, hright⟩ := forall_references_node.mp h
      rw [rename, fragment, fragment]
      split
      · rfl
      rw [mapError_bind, ExpressionOp.mapError_parse]
      congr 1
      funext op
      split
      · simp only [require_rename_bind, mapError_bind, mapError_require, ihleft hleft,
          ihright hright]
        rfl
      · simp only [require_rename_bind, mapError_bind, mapError_require, ihcondition hcondition]
        rfl

theorem Expression.evaluate_rename {e : Expression}
    (h : ∀ named ∈ e.references, others.get? (f named) = conditions.get? named) :
    (e.rename f).evaluate others = (e.evaluate conditions).mapError (Error.rename g f) := by
  rw [evaluate_eq_fragment, evaluate_eq_fragment]
  exact Slot.fragment_rename h 1

/-- The names of expressions are of no account to a merge. -/
theorem mergeFragments_rename {entries : List (String × Expression)} (query : Query)
    (k : String → String)
    (h : ∀ entry ∈ entries, ∀ named ∈ entry.2.references,
      others.get? (f named) = conditions.get? named) :
    mergeFragments others query (entries.map fun entry => (k entry.1, entry.2.rename f)) =
      (mergeFragments conditions query entries).mapError (Error.rename g f) := by
  induction entries generalizing query with
  | nil => rfl
  | cons entry entries ih =>
      obtain ⟨hentry, hentries⟩ := List.forall_mem_cons.mp h
      rw [List.map_cons, mergeFragments, mergeFragments, mapError_bind,
        Expression.evaluate_rename hentry]
      congr 1
      funext fragment
      exact ih _ hentries

end Evaluation

section Check

variable {entry renamedEntry : String} {f : String → String} {conditions others : Dict Condition}

namespace Waiting

theorem verdict_operands_rename {w : Waiting} {op : ExpressionOp} {names : List SlotName}
    (h : ∀ named ∈ w.node.references, others.contains (f named) = conditions.contains named) :
    verdict (operands renamedEntry others { w with node := w.node.rename f } op names) =
      (verdict (w.operands entry conditions op names)).mapError
        (Error.rename (fun _ => renamedEntry) f) := by
  induction names with
  | nil => rfl
  | cons name names ih =>
      rw [operands, operands, Expression.slot_rename]
      cases hslot : w.node.slot name with
      | empty => rfl
      | name named =>
          have hmem : named ∈ w.node.references := Expression.mem_references_of_slot hslot
          simp only [Slot.rename, Slot.operand?, h named hmem]
          split
          · exact ih
          · rfl
      | node opName condition left right =>
          simp only [Slot.rename, Slot.operand?, verdict_bind_pure]
          exact ih

/-- A renamed node is checked as the node is. -/
theorem verdict_check_rename (w : Waiting)
    (h : ∀ named ∈ w.node.references, others.contains (f named) = conditions.contains named) :
    verdict (check renamedEntry others { w with node := w.node.rename f }) =
      (verdict (w.check entry conditions)).mapError (Error.rename (fun _ => renamedEntry) f) := by
  simp only [check, Expression.slot_rename, Slot.isEmpty_rename]
  split
  · rfl
  have hop : (w.node.rename f).op = w.node.op := rfl
  rw [hop]
  split
  · rfl
  split
  · rfl
  · exact verdict_operands_rename h

end Waiting

theorem Slot.check_rename {s : Slot}
    (h : ∀ named ∈ s.references, others.contains (f named) = conditions.contains named)
    (steps : List SlotName) (depth : Nat) :
    (s.rename f).check renamedEntry others steps depth =
      (s.check entry conditions steps depth).mapError
        (Error.rename (fun _ => renamedEntry) f) := by
  induction s generalizing steps depth with
  | empty => rfl
  | name named => rfl
  | node op condition left right ihcondition ihleft ihright =>
      have hnode : ∀ named ∈ Expression.references ⟨op, condition, left, right⟩,
          others.contains (f named) = conditions.contains named := h
      obtain ⟨hcondition, hleft, hright⟩ := forall_references_node.mp h
      rw [rename, check, check, ← verdict_bind_const,
        ← verdict_bind_const (Waiting.check entry conditions _)]
      simp only [mapError_bind, ihcondition hcondition, ihleft hleft, ihright hright]
      congr 1
      exact Waiting.verdict_check_rename ⟨steps, ⟨op, condition, left, right⟩, depth⟩ hnode

/-- A renamed expression is checked as the expression is, under the name of its new entry. -/
theorem Expression.check_rename {e : Expression}
    (h : ∀ named ∈ e.references, others.contains (f named) = conditions.contains named) :
    (e.rename f).check renamedEntry others =
      (e.check entry conditions).mapError (Error.rename (fun _ => renamedEntry) f) := by
  rw [check_eq_check, check_eq_check]
  exact Slot.check_rename h [] 1

/-- But for names, the answer is the same. -/
theorem Expression.nameless_check_rename {e : Expression}
    (h : ∀ named ∈ e.references, others.contains (f named) = conditions.contains named) :
    ((e.rename f).check renamedEntry others).mapError Error.nameless =
      (e.check entry conditions).mapError Error.nameless := by
  have hrenamed : (e.rename f).check renamedEntry others =
      (e.check entry conditions).mapError (Error.rename (fun _ => renamedEntry) f) :=
    check_rename h
  rw [hrenamed, mapError_mapError]
  simp only [Error.nameless_rename]

theorem Condition.nameless_check (entry renamedEntry : String) (c : Condition) :
    (c.check renamedEntry).mapError Error.nameless = (c.check entry).mapError Error.nameless := by
  unfold check
  split
  · rfl
  split
  · rfl
  split
  · rfl
  · rfl
  · split <;> rfl

end Check

namespace Dict

variable {α β : Type}

/-- The same values in the same order, each changed by `g`, under other names. -/
def rename (d : Dict α) (f : String → String) (hf : Set.InjOn f {name | name ∈ d.names})
    (g : α → β) : Dict β where
  entries := d.entries.map fun entry => (f entry.1, g entry.2)
  nodup := by
    have hnames : (d.entries.map fun entry => (f entry.1, g entry.2)).map Prod.fst =
        d.names.map f := by
      simp [names]
    rw [hnames]
    exact d.nodup.map_on fun _ hx _ hy heq => hf hx hy heq

theorem lookup_map {f : String → String} {g : α → β} {entries : List (String × α)} {name : String}
    (h : ∀ other ∈ entries.map Prod.fst, f other = f name → other = name) :
    (entries.map fun entry => (f entry.1, g entry.2)).lookup (f name) =
      (entries.lookup name).map g := by
  induction entries with
  | nil => rfl
  | cons entry rest ih =>
      obtain ⟨other, value⟩ := entry
      rw [List.map_cons, List.forall_mem_cons] at h
      rw [List.map_cons, List.lookup_cons, List.lookup_cons]
      by_cases hname : name = other
      · subst hname
        simp
      · have hrenamed : f name ≠ f other := fun heq => hname (h.1 heq.symm).symm
        rw [beq_false_of_ne hname, beq_false_of_ne hrenamed]
        exact ih h.2

/-- What a name stands for does not change with the name, as long as no other name takes its
place. -/
theorem get?_rename {d : Dict α} {f : String → String}
    (hf : Set.InjOn f {name | name ∈ d.names}) {g : α → β} {name : String}
    (h : ∀ other ∈ d.names, f other = f name → other = name) :
    (d.rename f hf g).get? (f name) = (d.get? name).map g :=
  lookup_map h

end Dict

namespace Definition

variable {d : Definition}

/-- A name that stands for a condition: it has one, or it is an operand. -/
def NamesCondition (d : Definition) (name : String) : Prop :=
  name ∈ d.conditions.names ∨ d.References name

/-- New names for a definition. No two names of its expressions become one, and no two of its
conditions, be they defined or only referred to. -/
structure Renaming (d : Definition) where
  expression : String → String
  condition : String → String
  expression_injOn : Set.InjOn expression {name | name ∈ d.expressions.names}
  condition_injOn : Set.InjOn condition {name | d.NamesCondition name}

theorem Renaming.defined_injOn {d : Definition} (r : d.Renaming) :
    Set.InjOn r.condition {name | name ∈ d.conditions.names} :=
  r.condition_injOn.mono fun _ hname => Or.inl hname

/-- The definition in its new names: those of its entries, and those of all operands. -/
def rename (d : Definition) (r : d.Renaming) : Definition where
  expressions :=
    d.expressions.rename r.expression r.expression_injOn (Expression.rename r.condition)
  conditions := d.conditions.rename r.condition r.defined_injOn id

namespace Renaming

variable (r : d.Renaming)

theorem get?_conditions {name : String} (h : d.References name) :
    (d.rename r).conditions.get? (r.condition name) = d.conditions.get? name := by
  have hother : ∀ other ∈ d.conditions.names,
      r.condition other = r.condition name → other = name :=
    fun other hmem heq => r.condition_injOn (Or.inl hmem) (Or.inr h) heq
  calc (d.rename r).conditions.get? (r.condition name)
      = (d.conditions.get? name).map id := Dict.get?_rename r.defined_injOn hother
    _ = d.conditions.get? name := congrFun Option.map_id _

theorem contains_conditions {name : String} (h : d.References name) :
    (d.rename r).conditions.contains (r.condition name) = d.conditions.contains name := by
  rw [Dict.contains, Dict.contains, r.get?_conditions h]

/-- The gate gives the same answer, but for names. -/
theorem nameless_check :
    (d.rename r).check.mapError Error.nameless = d.check.mapError Error.nameless := by
  have hexpressions : (d.rename r).expressions.isEmpty = d.expressions.isEmpty := List.isEmpty_map
  have hconditions : (d.rename r).conditions.isEmpty = d.conditions.isEmpty := List.isEmpty_map
  rw [check, check, hexpressions, hconditions]
  split
  · rfl
  split
  · rfl
  simp only [List.forM_eq_forM, mapError_bind, mapError_forM]
  congr 1
  · refine List.forM_map.trans (forM_congr fun entry hentry => ?_)
    apply Expression.nameless_check_rename
    exact fun name hname => r.contains_conditions ⟨entry, hentry, hname⟩
  · funext _
    refine List.forM_map.trans (forM_congr fun entry _ => ?_)
    exact entry.2.nameless_check _ _

/-- So does compilation. -/
theorem nameless_compile :
    (compileExpressions (d.rename r).expressions (d.rename r).conditions).mapError
        Error.nameless =
      (compileExpressions d.expressions d.conditions).mapError Error.nameless := by
  have hreferences : ∀ entry ∈ d.expressions.entries, ∀ name ∈ entry.2.references,
      (d.rename r).conditions.get? (r.condition name) = d.conditions.get? name :=
    fun entry hentry name hname => r.get?_conditions ⟨entry, hentry, hname⟩
  calc (compileExpressions (d.rename r).expressions (d.rename r).conditions).mapError
          Error.nameless
      = ((compileExpressions d.expressions d.conditions).mapError
          (Error.rename id r.condition)).mapError Error.nameless :=
        congrArg (Except.mapError Error.nameless)
          (mergeFragments_rename .empty r.expression hreferences)
    _ = (compileExpressions d.expressions d.conditions).mapError Error.nameless := by
        rw [mapError_mapError]
        simp only [Error.nameless_rename]

theorem nameless_build :
    (d.rename r).build.mapError Error.nameless = d.build.mapError Error.nameless := by
  rw [build, build, mapError_bind, mapError_bind, r.nameless_check]
  congr 1
  funext _
  exact r.nameless_compile

end Renaming

/-- Building a definition in new names gives the same query, or an error of the same kind; a value
that is no date is reported in the same words. -/
theorem build_rename (d : Definition) (r : d.Renaming) :
    (∀ query, (d.rename r).build = .ok query ↔ d.build = .ok query) ∧
    (∀ fault, d.build = .error fault →
      ∃ other, (d.rename r).build = .error other ∧ other.kind = fault.kind) ∧
    (∀ s cause, (d.rename r).build = .error (.invalidDate s cause) ↔
      d.build = .error (.invalidDate s cause)) := by
  have hbuild := r.nameless_build
  refine ⟨fun query => ?_, fun fault hfault => ?_, fun s cause => ?_⟩
  · rw [← mapError_eq_ok_iff Error.nameless, hbuild, mapError_eq_ok_iff]
  · rw [hfault, mapError_error, mapError_eq_error_iff] at hbuild
    obtain ⟨other, hother, hnameless⟩ := hbuild
    refine ⟨other, hother, ?_⟩
    rw [← other.kind_nameless, hnameless, fault.kind_nameless]
  · have hdate (x : Except Error Query) :
        x.mapError Error.nameless = .error (.invalidDate s cause) ↔
        x = .error (.invalidDate s cause) := by
      rw [mapError_eq_error_iff]
      simp only [Error.nameless_eq_invalidDate_iff, exists_eq_right]
    rw [← hdate, hbuild, hdate]

/-- A definition that refers to a condition it does not define. -/
def dangling : Definition where
  expressions := Dict.ofList [("E", .binary .or (.name "A") (.node (.unary .not (.name "B"))))]
  conditions := Dict.ofList [("A", ⟨"a", "equals", .scalar (.bool true), false⟩)]

/-- All names with something in front. -/
def danglingRenaming : dangling.Renaming where
  expression name := "e:" ++ name
  condition name := "c:" ++ name
  expression_injOn _ _ _ _ h := by simpa using h
  condition_injOn _ _ _ _ h := by simpa using h

theorem build_rename_dangling :
    dangling.build = .error (.schemaViolation
        ⟨"expressions.E", [.right], some (.slot .condition)⟩ (.undefined "B")) ∧
      ∃ other, (dangling.rename danglingRenaming).build = .error other ∧
        other.kind = .schemaViolation := by
  have hcheck : dangling.check = .error (.schemaViolation
      ⟨"expressions.E", [.right], some (.slot .condition)⟩ (.undefined "B")) := by
    rw [check_of_ne (by decide) (by decide)]
    simp only [Expression.check_eq_check]
    rfl
  have hbuild := build_of_check_error hcheck
  exact ⟨hbuild, (build_rename dangling danglingRenaming).2.1 _ hbuild⟩

end Definition

end FilterBook
