import FilterBook.Proofs.Conversion
import FilterBook.Proofs.Nesting

/-!
How deep a query nests. A field takes four levels at the most: its own object, an operator's, a list
and a date in it. A node of an expression adds two at the most, the object of its operator and the
list of its operands. The limit on expressions is thus a limit on queries, and a definition that the
gate lets pass comes up to it. Its query nests deeper than any text that may be read as JSON.
-/

namespace FilterBook

open Outcome

namespace Json

theorem fieldsNesting_le_iff {fields : List (String × Json)} {bound : Nat} :
    fieldsNesting fields ≤ bound ↔ ∀ field ∈ fields, field.2.nesting ≤ bound := by
  induction fields with
  | nil => simp [fieldsNesting]
  | cons field fields ih => rw [fieldsNesting, Nat.max_le, List.forall_mem_cons, ih]

/-- An object with one field is one level around its value. -/
theorem nesting_single (key : String) (value : Json) :
    (object [(key, value)]).nesting = value.nesting + 1 := by
  simp only [nesting, fieldsNesting, Nat.max_zero]

theorem nesting_singleton (key : String) (value : Json) :
    (ofDict (Dict.singleton key value)).nesting = value.nesting + 1 :=
  nesting_single key value

end Json

section Fields

theorem Scalar.Copied.nesting_eq {s : Scalar} {j : Json} (h : s.Copied j) : j.nesting = 0 := by
  cases h <;> rfl

theorem Scalar.Dated.nesting_eq {s : Scalar} {j : Json} (h : s.Dated j) : j.nesting = 1 := by
  cases h
  rfl

/-- A list adds one level to its elements. -/
theorem ConditionValue.Becomes.nesting_le {element : Scalar → Json → Prop} {bound : Nat}
    (helement : ∀ s j, element s j → j.nesting ≤ bound) {v : ConditionValue} {j : Json}
    (h : v.Becomes element j) : j.nesting ≤ bound + 1 := by
  cases h with
  | scalar hs => exact Nat.le_succ_of_le (helement _ _ hs)
  | list hlist =>
      refine Nat.succ_le_succ ?_
      induction hlist with
      | nil => exact Nat.zero_le bound
      | cons hs _ ih => exact Nat.max_le.mpr ⟨helement _ _ hs, ih⟩

theorem Condition.Converts.nesting_le {c : Condition} {j : Json} (h : c.Converts j) :
    j.nesting ≤ 2 := by
  unfold Condition.Converts at h
  have helement : ∀ s j, (if c.isDate then Scalar.Dated else Scalar.Copied) s j →
      j.nesting ≤ 1 := by
    intro s j hj
    split at hj
    · exact hj.nesting_eq.le
    · exact hj.nesting_eq.le.trans (Nat.zero_le 1)
  exact h.nesting_le helement

theorem ConditionOp.Around.nesting_le {op : ConditionOp} {value json : Json}
    (h : op.Around value json) : json.nesting ≤ value.nesting + 1 := by
  cases h with
  | bare => exact Nat.le_succ _
  | key => exact (Json.nesting_single _ _).le

/-- The deepest field is a list of dates within an operator. -/
theorem Condition.nesting_fragment_le {c : Condition} {fragment : Query}
    (h : c.fragment = .ok fragment) : (Json.ofDict fragment).nesting ≤ 4 := by
  obtain ⟨json, hresolve, rfl⟩ := Condition.fragment_eq_ok_iff.mp h
  obtain ⟨value, op, hvalue, -, rfl⟩ := Condition.resolve_eq_ok_iff.mp hresolve
  have hconverted := (Condition.converts_of_converted hvalue).nesting_le
  have hwrapped := (op.around_wrap value).nesting_le
  rw [Json.nesting_singleton]
  omega

end Fields

namespace ExpressionOp

theorem nesting_pair (op : ExpressionOp) (left right : Query) :
    (Json.ofDict (op.pair left right)).nesting =
      max (Json.ofDict left).nesting (Json.ofDict right).nesting + 2 := by
  rw [pair, Json.nesting_singleton, Json.nesting]
  simp only [Json.itemsNesting, Nat.max_zero]

theorem nesting_around_le (op : ExpressionOp) (operand : Query) :
    (Json.ofDict (op.around operand)).nesting ≤ (Json.ofDict operand).nesting + 1 := by
  unfold around
  split
  · exact Nat.le_succ _
  · exact (Json.nesting_singleton _ _).le

end ExpressionOp

/-- A fragment has two levels for each node on the way down and four for the field at its end, and
there are no more nodes than the limit leaves room for. -/
theorem Slot.nesting_fragment_le {conditions : Dict Condition} {slot : Slot} {depth : Nat}
    {fragment : Query} (h : slot.fragment conditions depth = .ok fragment) :
    (Json.ofDict fragment).nesting ≤ 2 * min slot.depth (greatestDepth + 1 - depth) + 4 := by
  induction slot generalizing depth fragment with
  | empty => cases h
  | name named =>
      obtain ⟨c, -, hc⟩ := Condition.fragmentNamed_eq_ok_iff.mp h
      exact (Condition.nesting_fragment_le hc).trans (Nat.le_add_left 4 _)
  | node opName condition left right ihcondition ihleft ihright =>
      have hdepth := Slot.depth_le_of_fragment h
      obtain ⟨op, -, ⟨-, first, second, hfirst, hsecond, rfl⟩ | ⟨-, operand, hoperand, rfl⟩⟩ :=
        Slot.fragment_node_eq_ok h
      · have hleft := ihleft hfirst
        have hright := ihright hsecond
        rw [op.nesting_pair, Slot.depth]
        omega
      · have hcondition := ihcondition hoperand
        have haround := op.nesting_around_le operand
        rw [Slot.depth]
        omega

theorem Expression.nesting_evaluate_le {e : Expression} {conditions : Dict Condition}
    {fragment : Query} (h : e.evaluate conditions = .ok fragment) :
    (Json.ofDict fragment).nesting ≤ 2 * min e.depth greatestDepth + 4 := by
  rw [evaluate_eq_fragment] at h
  exact Slot.nesting_fragment_le h

/-- Merging puts fields side by side, so a query is as deep as the deepest of its fragments. -/
theorem nesting_compileExpressions_le {expressions : Dict Expression} {conditions : Dict Condition}
    {query : Query} (h : compileExpressions expressions conditions = .ok query) :
    (Json.ofDict query).nesting ≤ 2 * greatestDepth + 4 := by
  refine Nat.succ_le_succ (Json.fieldsNesting_le_iff.mpr ?_)
  rintro ⟨key, value⟩ hmem
  obtain ⟨before, entry, after, -, hyields, -⟩ := (mem_entries_compileExpressions h).mp hmem
  have hfragment := Expression.nesting_evaluate_le hyields
  rw [Json.nesting_singleton] at hfragment
  show value.nesting ≤ 2 * greatestDepth + 3
  omega

section Tower

/-- A condition whose field takes four levels. -/
def listOfDates : Condition :=
  ⟨"at", "is_one_of", .list [.string "1970-01-01"], true⟩

/-- The field of that condition. -/
def fieldOfDates : Query :=
  Dict.singleton "at" (.object [("$in", .array [dateJson "1970-01-01T00:00:00.000Z".toList])])

def towerConditions : Dict Condition :=
  Dict.ofList [("D", listOfDates)]

/-- That many `and` nodes, each but the last with the next one for its left operand. -/
def Slot.tower : Nat → Slot
  | 0 => .name "D"
  | nodes + 1 => .node ExpressionOp.and.name .empty (tower nodes) (.name "D")

/-- The expression of a tower with one more node. -/
def Expression.tower (nodes : Nat) : Expression :=
  ⟨ExpressionOp.and.name, .empty, .tower nodes, .name "D"⟩

/-- The highest tower that is not too deep. -/
def Definition.tower : Definition where
  expressions := Dict.ofList [("E", .tower 63)]
  conditions := towerConditions

theorem Slot.tower_ne_empty (nodes : Nat) : tower nodes ≠ .empty := by
  cases nodes <;> exact nofun

theorem Slot.depth_tower (nodes : Nat) : (tower nodes).depth = nodes := by
  induction nodes with
  | zero => rfl
  | succ nodes ih =>
      simp only [tower, Slot.depth, ih]
      omega

theorem Slot.derivable_tower (nodes : Nat) : (tower nodes).Derivable towerConditions := by
  have hleaf : (Slot.name "D").Derivable towerConditions := .name (by decide)
  induction nodes with
  | zero => exact hleaf
  | succ nodes ih => exact .binary (by decide) ih hleaf

theorem Slot.fragment_leaf (depth : Nat) :
    (Slot.name "D").fragment towerConditions depth = .ok fieldOfDates := rfl

theorem nesting_fieldOfDates : (Json.ofDict fieldOfDates).nesting = 4 := rfl

/-- A tower takes as many levels as its nodes and its fields may take. -/
theorem Slot.exists_fragment_tower {nodes depth : Nat} (h : nodes + depth ≤ greatestDepth + 1) :
    ∃ fragment, (tower nodes).fragment towerConditions depth = .ok fragment ∧
      (Json.ofDict fragment).nesting = 2 * nodes + 4 := by
  induction nodes generalizing depth with
  | zero => exact ⟨fieldOfDates, fragment_leaf depth, nesting_fieldOfDates⟩
  | succ nodes ih =>
      obtain ⟨left, hleft, hlevels⟩ := @ih (depth + 1) (by omega)
      have hdepth : depth ≤ greatestDepth := by omega
      have hbinary : ExpressionOp.and.isBinary = true := rfl
      have hleaf : Slot.name "D" ≠ .empty := nofun
      refine ⟨ExpressionOp.and.pair left fieldOfDates, ?_, ?_⟩
      · rw [tower, fragment_of_isBinary hbinary hdepth (tower_ne_empty nodes) hleaf, hleft,
          fragment_leaf]
        rfl
      · rw [ExpressionOp.nesting_pair, hlevels, nesting_fieldOfDates]
        omega

theorem Expression.depth_tower (nodes : Nat) : (tower nodes).depth = nodes + 1 :=
  Slot.depth_tower (nodes + 1)

/-- A tower that is not too deep takes all the levels that its depth allows. -/
theorem Expression.exists_evaluate_tower {nodes : Nat} (h : nodes < greatestDepth) :
    ∃ fragment, (tower nodes).evaluate towerConditions = .ok fragment ∧
      (Json.ofDict fragment).nesting = 2 * (tower nodes).depth + 4 := by
  rw [evaluate_eq_fragment, depth_tower]
  exact Slot.exists_fragment_tower (show nodes + 1 + 1 ≤ greatestDepth + 1 by omega)

theorem Definition.grammatical_tower : Definition.tower.Grammatical where
  expressions_ne := nofun
  conditions_ne := nofun
  expressions := List.forall_mem_singleton.mpr
    ⟨Slot.derivable_tower 64, (Expression.depth_tower 63).le⟩
  conditions := List.forall_mem_singleton.mpr
    ⟨by decide, by decide, nofun, fun _ => ⟨_, rfl⟩⟩

theorem Definition.exists_compile_tower :
    ∃ query, compileExpressions Definition.tower.expressions Definition.tower.conditions =
        .ok query ∧ (Json.ofDict query).nesting = 132 := by
  obtain ⟨fragment, hfragment, hnesting⟩ :=
    Expression.exists_evaluate_tower (show 63 < greatestDepth by decide)
  obtain ⟨key, value, rfl, -⟩ := Expression.exists_yields hfragment
  refine ⟨Dict.singleton key value, ?_, ?_⟩
  · show mergeFragments towerConditions .empty [("E", .tower 63)] = _
    rw [mergeFragments, hfragment]
    rfl
  · rw [hnesting, Expression.depth_tower]

end Tower

/-- A fragment nests at most twice as deep as its expression, and four levels more. So no query
nests deeper than 132 levels, and there is one that does so, of a definition that the gate accepts.
-/
theorem query_nesting_bounded :
    (∀ (e : Expression) (conditions : Dict Condition) (fragment : Query),
      e.evaluate conditions = .ok fragment →
        (Json.ofDict fragment).nesting ≤ 2 * e.depth + 4) ∧
    (∀ (expressions : Dict Expression) (conditions : Dict Condition) (query : Query),
      compileExpressions expressions conditions = .ok query →
        (Json.ofDict query).nesting ≤ 132) ∧
    ∃ d : Definition, d.check = .ok () ∧
      ∃ query, compileExpressions d.expressions d.conditions = .ok query ∧
        (Json.ofDict query).nesting = 132 := by
  refine ⟨fun e conditions fragment h => ?_, fun expressions conditions query h => ?_,
    Definition.tower, Definition.check_eq_ok_iff.mpr Definition.grammatical_tower,
    Definition.exists_compile_tower⟩
  · have hbound := Expression.nesting_evaluate_le h
    omega
  · exact nesting_compileExpressions_le h

/-- The bound holds of the highest tower's fragment and query, which come up to it. -/
theorem query_nesting_bounded_tower :
    (∃ fragment, (Expression.tower 63).evaluate towerConditions = .ok fragment ∧
      (Json.ofDict fragment).nesting = 132 ∧
      (Json.ofDict fragment).nesting ≤ 2 * (Expression.tower 63).depth + 4) ∧
    ∃ query, compileExpressions Definition.tower.expressions Definition.tower.conditions =
        .ok query ∧ (Json.ofDict query).nesting = 132 ∧ (Json.ofDict query).nesting ≤ 132 := by
  obtain ⟨hfragments, hqueries, -⟩ := query_nesting_bounded
  obtain ⟨fragment, hfragment, hnesting⟩ :=
    Expression.exists_evaluate_tower (show 63 < greatestDepth by decide)
  obtain ⟨query, hquery, hlevels⟩ := Definition.exists_compile_tower
  rw [Expression.depth_tower] at hnesting
  exact ⟨⟨fragment, hfragment, hnesting, hfragments _ _ _ hfragment⟩,
    query, hquery, hlevels, hqueries _ _ _ hquery⟩

end FilterBook
