import FilterBook.Compile
import FilterBook.Proofs.Evaluation

/-!
The merge of fragments. The fragment of an expression has one key, and the query has under each key
what the last expression that produces it gives.
-/

namespace FilterBook

open Outcome

/-- The fragment of a condition is its field. -/
theorem Condition.fragment_eq_ok_iff {c : Condition} {fragment : Query} :
    c.fragment = .ok fragment ↔
      ∃ value, c.resolve = .ok value ∧ fragment = Dict.singleton c.prop value := by
  rw [Condition.fragment, bind_eq_ok_iff]
  simp only [pure_eq_ok, Except.ok.injEq, eq_comm (a := fragment)]

theorem Condition.fragmentNamed_eq_ok_iff {conditions : Dict Condition} {name : String}
    {fragment : Query} :
    Condition.fragmentNamed conditions name = .ok fragment ↔
      ∃ c, conditions.get? name = some c ∧ c.fragment = .ok fragment := by
  unfold Condition.fragmentNamed
  cases conditions.get? name with
  | none => simp
  | some c => simp

/-- What a node with a fragment has: a known operator, and operands with fragments of their own. -/
theorem Slot.fragment_node_eq_ok {conditions : Dict Condition} {opName : String}
    {condition left right : Slot} {depth : Nat} {fragment : Query}
    (h : (Slot.node opName condition left right).fragment conditions depth = .ok fragment) :
    ∃ op, ExpressionOp.ofName? opName = some op ∧
      ((op.isBinary = true ∧ ∃ first second,
          left.fragment conditions (depth + 1) = .ok first ∧
          right.fragment conditions (depth + 1) = .ok second ∧ fragment = op.pair first second) ∨
        (op.isBinary = false ∧ ∃ operand,
          condition.fragment conditions (depth + 1) = .ok operand ∧
          fragment = op.around operand)) := by
  rw [Slot.fragment] at h
  split at h
  · cases h
  obtain ⟨op, hop, h⟩ := bind_eq_ok_iff.mp h
  refine ⟨op, ExpressionOp.ofName?_eq_some_iff.mpr (ExpressionOp.parse_eq_ok_iff.mp hop), ?_⟩
  split at h
  · rename_i hbinary
    obtain ⟨_, -, h⟩ := bind_eq_ok_iff.mp h
    obtain ⟨_, -, h⟩ := bind_eq_ok_iff.mp h
    obtain ⟨first, hfirst, h⟩ := bind_eq_ok_iff.mp h
    obtain ⟨second, hsecond, h⟩ := bind_eq_ok_iff.mp h
    cases h
    exact Or.inl ⟨hbinary, first, second, hfirst, hsecond, rfl⟩
  · rename_i hunary
    obtain ⟨_, -, h⟩ := bind_eq_ok_iff.mp h
    obtain ⟨operand, hoperand, h⟩ := bind_eq_ok_iff.mp h
    cases h
    exact Or.inr ⟨by simpa using hunary, operand, hoperand, rfl⟩

/-- A fragment has one key. -/
theorem Slot.fragment_single {conditions : Dict Condition} {slot : Slot} {depth : Nat}
    {fragment : Query} (h : slot.fragment conditions depth = .ok fragment) :
    ∃ key value, fragment = Dict.singleton key value := by
  induction slot generalizing depth fragment with
  | empty => cases h
  | name named =>
      obtain ⟨c, -, hc⟩ := Condition.fragmentNamed_eq_ok_iff.mp h
      obtain ⟨value, -, rfl⟩ := Condition.fragment_eq_ok_iff.mp hc
      exact ⟨c.prop, value, rfl⟩
  | node opName condition left right ihcondition ihleft ihright =>
      obtain ⟨op, -, ⟨-, first, second, -, -, rfl⟩ | ⟨-, operand, hoperand, rfl⟩⟩ :=
        Slot.fragment_node_eq_ok h
      · exact ⟨_, _, rfl⟩
      · unfold ExpressionOp.around
        split
        · exact ihcondition hoperand
        · exact ⟨_, _, rfl⟩

namespace Expression

/-- The binding that an expression adds to a query. -/
def Yields (conditions : Dict Condition) (e : Expression) (key : String) (value : Json) : Prop :=
  e.evaluate conditions = .ok (Dict.singleton key value)

/-- The key under which an expression stands in a query. -/
def Produces (conditions : Dict Condition) (e : Expression) (key : String) : Prop :=
  ∃ value, e.Yields conditions key value

theorem exists_yields {conditions : Dict Condition} {e : Expression} {fragment : Query}
    (h : e.evaluate conditions = .ok fragment) :
    ∃ key value, fragment = Dict.singleton key value ∧ e.Yields conditions key value := by
  have hfragment := h
  rw [evaluate_eq_fragment] at hfragment
  obtain ⟨key, value, rfl⟩ := Slot.fragment_single hfragment
  exact ⟨key, value, rfl, h⟩

theorem Yields.unique {conditions : Dict Condition} {e : Expression} {key key' : String}
    {value value' : Json} (h : e.Yields conditions key value)
    (h' : e.Yields conditions key' value') : key = key' ∧ value = value' := by
  have hfragments := Except.ok.inj (h.symm.trans h')
  have hentries := congrArg Dict.entries hfragments
  simpa only [Dict.entries_singleton, List.cons.injEq, Prod.mk.injEq, and_true] using hentries

theorem Yields.produces {conditions : Dict Condition} {e : Expression} {key : String} {value : Json}
    (h : e.Yields conditions key value) : e.Produces conditions key :=
  ⟨value, h⟩

end Expression

/-- The merge fails with the first expression that has no fragment. -/
theorem verdict_mergeFragments (conditions : Dict Condition) (query : Query)
    (entries : List (String × Expression)) :
    verdict (mergeFragments conditions query entries) =
      forM entries fun entry => verdict (entry.2.evaluate conditions) := by
  induction entries generalizing query with
  | nil => rfl
  | cons entry entries ih =>
      rw [mergeFragments, verdict_bind, List.forM_cons, verdict_bind_const]
      simp only [ih]

/-- A binding of some expressions that none of the later ones replaces. -/
def LastBinding (conditions : Dict Condition) (entries : List (String × Expression)) (key : String)
    (value : Json) : Prop :=
  ∃ before entry after, entries = before ++ entry :: after ∧
    entry.2.Yields conditions key value ∧ ∀ later ∈ after, ¬ later.2.Produces conditions key

/-- The bindings of a merge: the last of each key, or what the query had where no expression
produces the key. -/
theorem mem_entries_mergeFragments {conditions : Dict Condition} {query result : Query}
    {entries : List (String × Expression)}
    (h : mergeFragments conditions query entries = .ok result) {key : String} {value : Json} :
    (key, value) ∈ result.entries ↔
      LastBinding conditions entries key value ∨
        ((∀ entry ∈ entries, ¬ entry.2.Produces conditions key) ∧
          (key, value) ∈ query.entries) := by
  induction entries generalizing query with
  | nil =>
      cases h
      simp [LastBinding]
  | cons entry entries ih =>
      rw [mergeFragments] at h
      obtain ⟨fragment, hevaluate, hrest⟩ := bind_eq_ok_iff.mp h
      obtain ⟨own, ownValue, rfl, hyields⟩ := Expression.exists_yields hevaluate
      have hinsert : query.insertAll (Dict.singleton own ownValue).entries =
          query.insert own ownValue := rfl
      rw [hinsert] at hrest
      rw [ih hrest, Dict.mem_entries_insert]
      constructor
      · rintro (⟨before, last, after, rfl, hlast, hafter⟩ | ⟨hnone, ⟨rfl, rfl⟩ | ⟨hne, hmem⟩⟩)
        · exact Or.inl ⟨entry :: before, last, after, rfl, hlast, hafter⟩
        · exact Or.inl ⟨[], entry, entries, rfl, hyields, hnone⟩
        · refine Or.inr ⟨List.forall_mem_cons.mpr ⟨?_, hnone⟩, hmem⟩
          rintro ⟨other, hother⟩
          exact hne (hother.unique hyields).1
      · rintro (⟨before, last, after, hsplit, hlast, hafter⟩ | ⟨hnone, hmem⟩)
        · cases before with
          | nil =>
              cases hsplit
              obtain ⟨rfl, rfl⟩ := hlast.unique hyields
              exact Or.inr ⟨hafter, Or.inl ⟨rfl, rfl⟩⟩
          | cons first before =>
              cases hsplit
              exact Or.inl ⟨before, last, after, rfl, hlast, hafter⟩
        · obtain ⟨hentry, hentries⟩ := List.forall_mem_cons.mp hnone
          refine Or.inr ⟨hentries, Or.inr ⟨?_, hmem⟩⟩
          rintro rfl
          exact hentry hyields.produces

/-- The bindings of a query are the last ones of their keys. -/
theorem mem_entries_compileExpressions {expressions : Dict Expression} {conditions : Dict Condition}
    {query : Query} (h : compileExpressions expressions conditions = .ok query) {key : String}
    {value : Json} :
    (key, value) ∈ query.entries ↔ LastBinding conditions expressions.entries key value := by
  rw [mem_entries_mergeFragments h]
  simp only [Dict.empty, List.not_mem_nil, and_false, or_false]

/-- Every expression of a query that was compiled has a binding. -/
theorem exists_yields_of_compile {expressions : Dict Expression} {conditions : Dict Condition}
    {query : Query} (h : compileExpressions expressions conditions = .ok query) :
    ∀ entry ∈ expressions.entries, ∃ key value, entry.2.Yields conditions key value := by
  intro entry hentry
  have hverdict := verdict_mergeFragments conditions .empty expressions.entries
  rw [← compileExpressions, h, verdict_ok] at hverdict
  obtain ⟨fragment, hfragment⟩ :=
    verdict_eq_ok_iff.mp (forM_eq_ok_iff.mp hverdict.symm entry hentry)
  obtain ⟨key, value, -, hyields⟩ := Expression.exists_yields hfragment
  exact ⟨key, value, hyields⟩

/-- What an expression adds to a query: the binding of its fragment, or nothing if it has none. -/
def Expression.bindings (conditions : Dict Condition) (e : Expression) : List (String × Json) :=
  match e.evaluate conditions with
  | .ok fragment => fragment.entries
  | .error _ => []

theorem Expression.bindings_of_evaluate {conditions : Dict Condition} {e : Expression}
    {fragment : Query} (h : e.evaluate conditions = .ok fragment) :
    e.bindings conditions = fragment.entries := by
  rw [bindings, h]

/-- A merge adds the bindings of all expressions to the query, one after the other. -/
theorem mergeFragments_eq_insertAll {conditions : Dict Condition} {query result : Query}
    {entries : List (String × Expression)}
    (h : mergeFragments conditions query entries = .ok result) :
    result = query.insertAll (entries.flatMap fun entry => entry.2.bindings conditions) := by
  induction entries generalizing query with
  | nil =>
      cases h
      rfl
  | cons entry entries ih =>
      rw [mergeFragments] at h
      obtain ⟨fragment, hevaluate, hrest⟩ := bind_eq_ok_iff.mp h
      rw [List.flatMap_cons, Expression.bindings_of_evaluate hevaluate, Dict.insertAll_append]
      exact ih hrest

/-- The names of a query are the keys of the fragments, each where it comes first. -/
theorem names_compileExpressions {expressions : Dict Expression} {conditions : Dict Condition}
    {query : Query} (h : compileExpressions expressions conditions = .ok query) :
    query.names =
      ((expressions.entries.flatMap fun entry =>
        entry.2.bindings conditions).map Prod.fst).eraseDups := by
  have hall (keys : List String) : keys.removeAll [] = keys := List.removeAll_nil
  calc query.names
      = Dict.empty.names ++ (((expressions.entries.flatMap fun entry =>
          entry.2.bindings conditions).map Prod.fst).removeAll Dict.empty.names).eraseDups := by
        rw [mergeFragments_eq_insertAll h, Dict.names_insertAll]
    _ = ((expressions.entries.flatMap fun entry =>
          entry.2.bindings conditions).map Prod.fst).eraseDups := by
        exact congrArg List.eraseDups (hall _)

theorem compileExpressions_eq_ok_iff {expressions : Dict Expression} {conditions : Dict Condition} :
    (∃ query, compileExpressions expressions conditions = .ok query) ↔
      ∀ entry ∈ expressions.entries, ∃ fragment, entry.2.evaluate conditions = .ok fragment := by
  rw [← verdict_eq_ok_iff, compileExpressions, verdict_mergeFragments, forM_eq_ok_iff]
  simp only [verdict_eq_ok_iff]

theorem compileExpressions_eq_error_iff {expressions : Dict Expression}
    {conditions : Dict Condition} {fault : Error} :
    compileExpressions expressions conditions = .error fault ↔
      ∃ before entry after, expressions.entries = before ++ entry :: after ∧
        (∀ earlier ∈ before, ∃ fragment, earlier.2.evaluate conditions = .ok fragment) ∧
        entry.2.evaluate conditions = .error fault := by
  rw [← verdict_eq_error_iff, compileExpressions, verdict_mergeFragments, forM_eq_error_iff]
  simp only [verdict_eq_ok_iff, verdict_eq_error_iff]

theorem Expression.names_of_evaluate {conditions : Dict Condition} {e : Expression}
    {fragment : Query} (h : e.evaluate conditions = .ok fragment) :
    ∃ key, fragment.names = [key] := by
  obtain ⟨key, value, rfl, -⟩ := exists_yields h
  exact ⟨key, rfl⟩

/-- Compilation has a query exactly when every expression has a fragment, and fails with the first
that has none. Every fragment has one key; the query has these keys in the order in which they come
first, and under each what the last expression with that key gives. -/
theorem compileExpressions_merges (expressions : Dict Expression) (conditions : Dict Condition) :
    ((∃ query, compileExpressions expressions conditions = .ok query) ↔
      ∀ entry ∈ expressions.entries, ∃ fragment, entry.2.evaluate conditions = .ok fragment) ∧
    (∀ (e : Expression) (fragment : Query), e.evaluate conditions = .ok fragment →
      ∃ key, fragment.names = [key]) ∧
    (∀ query, compileExpressions expressions conditions = .ok query →
      query.names =
        ((expressions.entries.flatMap fun entry =>
          entry.2.bindings conditions).map Prod.fst).eraseDups ∧
      query.names.Nodup ∧
      ∀ key value, query.get? key = some value ↔
        LastBinding conditions expressions.entries key value) ∧
    (∀ fault, compileExpressions expressions conditions = .error fault ↔
      ∃ before entry after, expressions.entries = before ++ entry :: after ∧
        (∀ earlier ∈ before, ∃ fragment, earlier.2.evaluate conditions = .ok fragment) ∧
        entry.2.evaluate conditions = .error fault) := by
  refine ⟨compileExpressions_eq_ok_iff, fun e fragment => e.names_of_evaluate, ?_,
    fun fault => compileExpressions_eq_error_iff⟩
  intro query hquery
  refine ⟨names_compileExpressions hquery, query.nodup, fun key value => ?_⟩
  rw [Dict.get?_eq_some_iff, mem_entries_compileExpressions hquery]

/-- Three expressions, of which the last has the key of the first. -/
def colliding : Dict Expression :=
  Dict.ofList
    [("FIRST", .unary .use (.name "A")), ("OTHER", .unary .use (.name "B")),
      ("LAST", .unary .use (.name "C"))]

def collidingConditions : Dict Condition :=
  Dict.ofList
    [("A", ⟨"country", "equals", .scalar (.string "USA"), false⟩),
      ("B", ⟨"model", "equals", .scalar (.string "X"), false⟩),
      ("C", ⟨"country", "equals", .scalar (.string "UK"), false⟩)]

def collidingQuery : Query :=
  Dict.ofList [("country", .string "UK"), ("model", .string "X")]

theorem compileExpressions_merges_colliding :
    compileExpressions colliding collidingConditions = .ok collidingQuery ∧
      LastBinding collidingConditions colliding.entries "country" (.string "UK") := by
  have hentries : colliding.entries =
      [("FIRST", .unary .use (.name "A")), ("OTHER", .unary .use (.name "B")),
        ("LAST", .unary .use (.name "C"))] := rfl
  have hcompile : compileExpressions colliding collidingConditions = .ok collidingQuery := by
    rw [compileExpressions, hentries]
    simp only [mergeFragments, Expression.evaluate_eq_fragment]
    rfl
  have hmerged := (compileExpressions_merges colliding collidingConditions).2.2.1 _ hcompile
  exact ⟨hcompile, (hmerged.2.2 "country" (.string "UK")).mp rfl⟩

end FilterBook
