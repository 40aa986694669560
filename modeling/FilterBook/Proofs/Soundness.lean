import FilterBook.Proofs.Grammar
import FilterBook.Proofs.Merge

/-!
What can still go wrong with a definition that the gate has accepted: a scalar that should be a date
and is none. The scalars are met in the order of the expressions, depth first and left before
right, and the first that is no date is the one that is reported.
-/

namespace FilterBook

open Outcome

namespace Slot

/-- The names of conditions in a slot and below it, from left to right. -/
def references : Slot → List String
  | .empty => []
  | .name named => [named]
  | .node _ condition left right => condition.references ++ left.references ++ right.references

/-- The scalars that are read as dates on the way through a slot, in order. -/
def dates (conditions : Dict Condition) (slot : Slot) : List Scalar :=
  slot.references.flatMap fun name =>
    match conditions.get? name with
    | some condition => condition.dates
    | none => []

end Slot

/-- The names of conditions in an expression, at whichever depth. -/
def Expression.references (e : Expression) : List String :=
  e.toSlot.references

/-- The scalars that are read as dates when a definition is compiled, in order. -/
def Definition.dates (d : Definition) : List Scalar :=
  d.expressions.entries.flatMap fun entry => entry.2.toSlot.dates d.conditions

namespace Condition

theorem Grammatical.parse {c : Condition} (h : c.Grammatical) :
    ∃ op, ConditionOp.parse c.op = .ok op := by
  obtain ⟨op, -, hop⟩ := List.mem_map.mp h.op_known
  exact ⟨op, ConditionOp.parse_eq_ok_iff.mpr hop⟩

/-- A condition that follows the grammar fails only at a scalar that is no date. -/
theorem Grammatical.verdict_fragment {c : Condition} (h : c.Grammatical) :
    verdict c.fragment = forM c.dates Scalar.checkDate := by
  obtain ⟨op, hop⟩ := h.parse
  rw [c.verdict_fragment, verdict_resolve, hop]
  exact bind_pure _

end Condition

namespace Slot

variable {conditions : Dict Condition}

theorem Derivable.ne_empty {slot : Slot} (h : slot.Derivable conditions) : slot ≠ .empty := by
  rintro rfl
  cases h

theorem dates_node (op : String) (condition left right : Slot) :
    (Slot.node op condition left right).dates conditions =
      condition.dates conditions ++ left.dates conditions ++ right.dates conditions := by
  simp only [dates, references, List.flatMap_append]

/-- What the rules derive fails only at a scalar that is no date, and at the first of them. -/
theorem Derivable.verdict_fragment {slot : Slot} (h : slot.Derivable conditions)
    (hconditions : ∀ entry ∈ conditions.entries, entry.2.Grammatical) {depth : Nat}
    (hdepth : slot.depth + depth ≤ greatestDepth + 1) :
    verdict (slot.fragment conditions depth) = forM (slot.dates conditions) Scalar.checkDate := by
  induction h generalizing depth with
  | @name named hnamed =>
      obtain ⟨condition, hget⟩ := Dict.exists_get?_of_mem_names hnamed
      have hgrammar := hconditions _ (Dict.mem_entries_of_get? hget)
      rw [fragment, Condition.fragmentNamed, dates, references, List.flatMap_singleton, hget]
      exact hgrammar.verdict_fragment
  | @binary op left right hop hleft hright ihleft ihright =>
      obtain ⟨known, rfl, hbinary⟩ := ExpressionOp.exists_binary hop
      simp only [Slot.depth] at hdepth
      have hlevel : depth ≤ greatestDepth := by omega
      calc verdict ((Slot.node known.name .empty left right).fragment conditions depth)
          = left.fragment conditions (depth + 1) >>= fun _ =>
              verdict (right.fragment conditions (depth + 1)) := by
            rw [fragment_of_isBinary hbinary hlevel hleft.ne_empty hright.ne_empty, verdict_bind]
            simp only [verdict_bind_pure]
        _ = forM (left.dates conditions) Scalar.checkDate >>= fun _ =>
              forM (right.dates conditions) Scalar.checkDate := by
            rw [← verdict_bind_const, ihleft (by omega), ihright (by omega)]
        _ = forM ((Slot.node known.name .empty left right).dates conditions) Scalar.checkDate := by
            rw [dates_node, List.forM_append, List.forM_append]
            rfl
  | @unary op condition hop hcondition ihcondition =>
      obtain ⟨known, rfl, hunary⟩ := ExpressionOp.exists_unary hop
      simp only [Slot.depth] at hdepth
      have hlevel : depth ≤ greatestDepth := by omega
      rw [fragment_of_not_isBinary hunary hlevel hcondition.ne_empty, verdict_bind_pure,
        ihcondition (by omega), dates_node]
      simp only [dates, references, List.flatMap_nil, List.append_nil]

end Slot

namespace Definition

variable {d : Definition}

/-- Whether a name is an operand in some expression. -/
def References (d : Definition) (name : String) : Prop :=
  ∃ entry ∈ d.expressions.entries, name ∈ entry.2.references

theorem mem_dates_iff {s : Scalar} :
    s ∈ d.dates ↔ ∃ name c, d.References name ∧ d.conditions.get? name = some c ∧
      c.isDate = true ∧ s ∈ c.value.scalars := by
  simp only [dates, Slot.dates, List.mem_flatMap]
  constructor
  · rintro ⟨entry, hentry, name, hname, hs⟩
    cases hget : d.conditions.get? name with
    | none => simp [hget] at hs
    | some c =>
        simp only [hget, Condition.dates] at hs
        split at hs
        · rename_i hdate
          exact ⟨name, c, ⟨entry, hentry, hname⟩, hget, hdate, hs⟩
        · cases hs
  · rintro ⟨name, c, ⟨entry, hentry, hname⟩, hget, hdate, hs⟩
    refine ⟨entry, hentry, name, hname, ?_⟩
    simpa [hget, Condition.dates, hdate] using hs

/-- Once the gate has accepted, compilation is a walk over the dates. -/
theorem Grammatical.verdict_compile (h : d.Grammatical) :
    verdict (compileExpressions d.expressions d.conditions) = forM d.dates Scalar.checkDate := by
  rw [compileExpressions, verdict_mergeFragments, dates, forM_flatMap]
  apply forM_congr
  intro entry hentry
  have hgrammar := h.expressions entry hentry
  rw [Expression.evaluate_eq_fragment]
  exact hgrammar.derivable.verdict_fragment h.conditions (Nat.succ_le_succ hgrammar.depth_le)

theorem Grammatical.compile_eq_error_iff (h : d.Grammatical) {fault : Error} :
    compileExpressions d.expressions d.conditions = .error fault ↔
      ∃ s cause, Scalar.FirstNonDate d.dates s cause ∧ fault = .invalidDate s cause := by
  rw [← verdict_eq_error_iff, h.verdict_compile, Scalar.forM_checkDate_eq_error_iff]

theorem Grammatical.compile_eq_ok_iff (h : d.Grammatical) :
    (∃ query, compileExpressions d.expressions d.conditions = .ok query) ↔
      ∀ s ∈ d.dates, s.Convertible := by
  rw [← verdict_eq_ok_iff, h.verdict_compile, Scalar.forM_checkDate_eq_ok_iff]

theorem build_of_check (h : d.check = .ok ()) :
    d.build = compileExpressions d.expressions d.conditions := by
  rw [build, h]
  rfl

theorem build_of_check_error {fault : Error} (h : d.check = .error fault) :
    d.build = .error fault := by
  rw [build, h]
  rfl

theorem compile_of_build {query : Query} (h : d.build = .ok query) :
    compileExpressions d.expressions d.conditions = .ok query := by
  cases hcheck : d.check with
  | error fault =>
      rw [build_of_check_error hcheck] at h
      cases h
  | ok => rwa [build_of_check hcheck] at h

theorem FirstFault.kind {fault : Error} (h : d.FirstFault fault) :
    (∃ table, fault = .emptyInput table) ∨
      ∃ place reason, fault = .schemaViolation place reason := by
  cases h with
  | noExpressions => exact Or.inl ⟨_, rfl⟩
  | noConditions => exact Or.inl ⟨_, rfl⟩
  | expression => exact Or.inr ⟨_, _, rfl⟩
  | condition => exact Or.inr ⟨_, _, rfl⟩

/-- What the gate accepts fails in compilation exactly when a condition that is referenced should be
a date and has a scalar that is none, and then with the first such scalar. So building has a
query, or an empty table, a violation or such a scalar to report, and nothing else. -/
theorem gate_leaves_only_dates (d : Definition) :
    (d.check = .ok () →
      (∀ fault, compileExpressions d.expressions d.conditions = .error fault ↔
        ∃ s cause, Scalar.FirstNonDate d.dates s cause ∧ fault = .invalidDate s cause) ∧
      ((∃ fault, compileExpressions d.expressions d.conditions = .error fault) ↔
        ∃ name c, d.References name ∧ d.conditions.get? name = some c ∧ c.isDate = true ∧
          ∃ s ∈ c.value.scalars, ¬ s.Convertible)) ∧
    ((∃ query, d.build = .ok query) ∨ (∃ table, d.build = .error (.emptyInput table)) ∨
      (∃ place reason, d.build = .error (.schemaViolation place reason)) ∨
      ∃ s cause, d.build = .error (.invalidDate s cause)) := by
  refine ⟨fun hcheck => ?_, ?_⟩
  · have hgrammar := check_eq_ok_iff.mp hcheck
    refine ⟨fun fault => hgrammar.compile_eq_error_iff, ?_⟩
    have hnotAll : (∃ fault, compileExpressions d.expressions d.conditions = .error fault) ↔
        ¬ ∀ s ∈ d.dates, s.Convertible := by
      rw [← hgrammar.compile_eq_ok_iff]
      cases compileExpressions d.expressions d.conditions with
      | error fault => simp
      | ok query => simp
    rw [hnotAll]
    constructor
    · intro hnot
      obtain ⟨s, hs⟩ := Classical.not_forall.mp hnot
      obtain ⟨hs, hconvertible⟩ := Classical.not_imp.mp hs
      obtain ⟨name, c, hname, hget, hdate, hs⟩ := mem_dates_iff.mp hs
      exact ⟨name, c, hname, hget, hdate, s, hs, hconvertible⟩
    · rintro ⟨name, c, hname, hget, hdate, s, hs, hconvertible⟩ hall
      exact hconvertible (hall s (mem_dates_iff.mpr ⟨name, c, hname, hget, hdate, hs⟩))
  · cases hcheck : d.check with
    | error fault =>
        rw [build_of_check_error hcheck]
        rcases (firstFault_of_check hcheck).kind with ⟨table, rfl⟩ | ⟨place, reason, rfl⟩
        · exact Or.inr (Or.inl ⟨table, rfl⟩)
        · exact Or.inr (Or.inr (Or.inl ⟨place, reason, rfl⟩))
    | ok =>
        have hgrammar := check_eq_ok_iff.mp hcheck
        rw [build_of_check hcheck]
        cases hcompile : compileExpressions d.expressions d.conditions with
        | ok query => exact Or.inl ⟨query, rfl⟩
        | error fault =>
            obtain ⟨s, cause, -, rfl⟩ := hgrammar.compile_eq_error_iff.mp hcompile
            exact Or.inr (Or.inr (Or.inr ⟨s, cause, rfl⟩))

/-- A definition that passes the gate and fails at a date: that of the left operand, whose condition
is defined last. -/
def lateFault : Definition where
  expressions := Dict.ofList [("E", .binary .and (.node (.unary .not (.name "B"))) (.name "A"))]
  conditions := Dict.ofList
    [("A", ⟨"a", "equals", .scalar (.bool false), true⟩),
      ("B", ⟨"b", "is_one_of", .list [.bool true], true⟩)]

theorem gate_leaves_only_dates_lateFault :
    lateFault.check = .ok () ∧
      compileExpressions lateFault.expressions lateFault.conditions =
        .error (.invalidDate (.bool true) .boolean) := by
  have hcheck : lateFault.check = .ok () := check_of_walks (by decide) (by decide) rfl rfl
  have hfirst : Scalar.FirstNonDate lateFault.dates (.bool true) .boolean :=
    ⟨[], [.bool false], rfl, by simp, rfl⟩
  exact ⟨hcheck, (((gate_leaves_only_dates lateFault).1 hcheck).1 _).mpr ⟨_, _, hfirst, rfl⟩⟩

end Definition

end FilterBook
