import FilterBook.Proofs.Renaming

/-!
Which conditions matter to an expression: those that its operands name. Over two tables of
conditions that hold the same under these names, the expression has the same fragment or the same
error; and the gate asks of them only whether they are there. So a query depends on the conditions
that are referenced, and on nothing else in the table.
-/

namespace FilterBook

open Outcome

variable {conditions others : Dict Condition}

/-- Two tables that hold the same under the names of some expressions give them the same query. -/
theorem mergeFragments_congr {entries : List (String × Expression)} (query : Query)
    (h : ∀ entry ∈ entries, ∀ name ∈ entry.2.references,
      conditions.get? name = others.get? name) :
    mergeFragments conditions query entries = mergeFragments others query entries := by
  have hentries : entries.map (fun entry => (id entry.1, entry.2.rename id)) = entries := by
    simp only [id, Expression.rename_id, Prod.mk.eta, List.map_id']
  calc mergeFragments conditions query entries
      = mergeFragments conditions query
          (entries.map fun entry => (id entry.1, entry.2.rename id)) := by rw [hentries]
    _ = (mergeFragments others query entries).mapError (Error.rename id id) :=
        mergeFragments_rename query id h
    _ = mergeFragments others query entries := by rw [Error.rename_id, mapError_id]

/-- The gate asks of a condition only whether it is there. -/
theorem Expression.check_congr {e : Expression} {entry : String}
    (h : ∀ name ∈ e.references, conditions.contains name = others.contains name) :
    e.check entry conditions = e.check entry others := by
  have hrenamed : (e.rename id).check entry conditions =
      (e.check entry others).mapError (Error.rename (fun _ => entry) id) := check_rename h
  rw [e.rename_id] at hrenamed
  rw [hrenamed]
  cases hcheck : e.check entry others with
  | ok => rfl
  | error fault =>
      -- A violation names the entry, so it keeps its place.
      rw [check_eq_check] at hcheck
      obtain ⟨steps, part, reason, rfl⟩ := Slot.check_eq_error hcheck
      cases reason <;> rfl

namespace Dict

variable {α : Type} {d other : Dict α} {name : String}

/-- Two tables with the same bindings of a name hold the same under it. -/
theorem get?_congr (h : ∀ value, (name, value) ∈ d.entries ↔ (name, value) ∈ other.entries) :
    d.get? name = other.get? name := by
  apply Option.ext
  intro value
  rw [get?_eq_some_iff, get?_eq_some_iff]
  exact h value

theorem contains_congr (h : name ∈ d.names ↔ name ∈ other.names) :
    d.contains name = other.contains name := by
  apply Bool.eq_iff_iff.mpr
  rw [contains_iff_mem_names, contains_iff_mem_names]
  exact h

end Dict

namespace Definition

variable {d other : Definition}

theorem compile_congr (hexpressions : d.expressions = other.expressions)
    (h : ∀ name, d.References name → ∀ c,
      (name, c) ∈ d.conditions.entries ↔ (name, c) ∈ other.conditions.entries) :
    d.buildUnchecked = other.buildUnchecked := by
  rw [buildUnchecked, buildUnchecked, ← hexpressions]
  apply mergeFragments_congr
  exact fun entry hentry name hname => Dict.get?_congr (h name ⟨entry, hentry, hname⟩)

/-- The order of the conditions is of no account to a query, nor to whether there is one. -/
theorem build_eq_ok_iff_of_perm (hexpressions : d.expressions = other.expressions)
    (hconditions : d.conditions.entries.Perm other.conditions.entries) {query : Query} :
    d.build = .ok query ↔ other.build = .ok query := by
  have hcompile : d.buildUnchecked = other.buildUnchecked :=
    compile_congr hexpressions fun _ _ _ => hconditions.mem_iff
  have hcheck : d.check = .ok () ↔ other.check = .ok () := by
    rw [check_eq_ok_iff, check_eq_ok_iff]
    have hentries : d.expressions.entries.Perm other.expressions.entries := by rw [hexpressions]
    exact ⟨Grammatical.perm hentries hconditions, Grammatical.perm hentries.symm hconditions.symm⟩
  rw [build, build, bind_eq_ok_iff, bind_eq_ok_iff, hcompile]
  constructor
  · rintro ⟨_, hok, hquery⟩
    exact ⟨_, hcheck.mp hok, hquery⟩
  · rintro ⟨_, hok, hquery⟩
    exact ⟨_, hcheck.mpr hok, hquery⟩

end Definition

/-- Compilation sees of the conditions only those that operands name, and the gate sees of these
only whether they are there. So another order of the conditions, or any change to those that are
not referenced, leaves the query as it is. -/
theorem only_references_matter :
    (∀ (expressions : Dict Expression) (conditions others : Dict Condition),
      (∀ entry ∈ expressions.entries, ∀ name ∈ entry.2.references,
        conditions.get? name = others.get? name) →
      compileExpressions expressions conditions = compileExpressions expressions others) ∧
    (∀ (entry : String) (e : Expression) (conditions others : Dict Condition),
      (∀ name ∈ e.references, (name ∈ conditions.names ↔ name ∈ others.names)) →
      e.check entry conditions = e.check entry others) ∧
    (∀ d other : Definition, d.expressions = other.expressions →
      d.conditions.entries.Perm other.conditions.entries →
      ∀ query, d.build = .ok query ↔ other.build = .ok query) ∧
    (∀ d other : Definition, d.expressions = other.expressions →
      (∀ name, d.References name → ∀ c,
        (name, c) ∈ d.conditions.entries ↔ (name, c) ∈ other.conditions.entries) →
      d.buildUnchecked = other.buildUnchecked ∧
        ∀ query otherQuery, d.build = .ok query → other.build = .ok otherQuery →
          query = otherQuery) := by
  refine ⟨fun expressions conditions others h => mergeFragments_congr .empty h,
    fun entry e conditions others h => ?_, fun d other hexpressions hconditions query => ?_,
    fun d other hexpressions h => ?_⟩
  · exact Expression.check_congr fun name hname => Dict.contains_congr (h name hname)
  · exact Definition.build_eq_ok_iff_of_perm hexpressions hconditions
  · have hcompile := Definition.compile_congr hexpressions h
    refine ⟨hcompile, fun query otherQuery hquery hother => ?_⟩
    have hd : d.buildUnchecked = .ok query := Definition.compile_of_build hquery
    have ho : other.buildUnchecked = .ok otherQuery := Definition.compile_of_build hother
    rw [hcompile, ho] at hd
    exact (Except.ok.inj hd).symm

namespace Definition

/-- One expression, and a condition that it does not refer to. -/
def withSpare : Definition where
  expressions := Dict.ofList [("E", .unary .not (.name "A"))]
  conditions := Dict.ofList
    [("A", ⟨"a", "equals", .scalar (.bool true), false⟩),
      ("B", ⟨"b", "equals", .scalar (.bool true), false⟩)]

/-- The spare condition is changed, another one is added, and the order is turned round. -/
def withOtherSpares : Definition where
  expressions := Dict.ofList [("E", .unary .not (.name "A"))]
  conditions := Dict.ofList
    [("C", ⟨"c", "exists", .scalar (.bool false), false⟩),
      ("B", ⟨"", "unknown", .list [], true⟩),
      ("A", ⟨"a", "equals", .scalar (.bool true), false⟩)]

theorem only_references_matter_withSpare :
    withOtherSpares.buildUnchecked =
        .ok (Dict.singleton "$not" (.object [("a", .bool true)])) ∧
      (Expression.unary .not (.name "A")).check "E" withOtherSpares.conditions = .ok () := by
  have hentries : withSpare.expressions.entries = [("E", .unary .not (.name "A"))] := rfl
  have hcompile : withSpare.buildUnchecked =
      .ok (Dict.singleton "$not" (.object [("a", .bool true)])) := by
    rw [buildUnchecked, compileExpressions, hentries]
    simp only [mergeFragments, Expression.evaluate_eq_fragment]
    rfl
  have hcheck : (Expression.unary .not (.name "A")).check "E" withSpare.conditions = .ok () := by
    rw [Expression.check_eq_check]
    rfl
  have hsame : withSpare.buildUnchecked = withOtherSpares.buildUnchecked :=
    only_references_matter.1 withSpare.expressions withSpare.conditions withOtherSpares.conditions
      (by decide)
  have hsameCheck : (Expression.unary .not (.name "A")).check "E" withSpare.conditions =
      (Expression.unary .not (.name "A")).check "E" withOtherSpares.conditions :=
    only_references_matter.2.1 _ _ _ _ (by decide)
  exact ⟨hsame ▸ hcompile, hsameCheck ▸ hcheck⟩

end Definition

end FilterBook
