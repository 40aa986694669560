import FilterBook.Proofs.Soundness

/-!
What queries and expressions say about documents. Both are read over the same interpretation, a
query from its JSON and an expression from its tree; an expression and its fragment mean the same,
and a query means what the expressions do that no later one replaces.
-/

namespace FilterBook

open Outcome

/-- What the meaning of a query depends on: the documents of which a field fragment is true, and
what `$elemMatch` makes of the meaning of its argument. -/
structure Interpretation (Document : Type) where
  field : String → Json → Document → Prop
  element : (Document → Prop) → Document → Prop

/-- The keys under which a query does not hold a field. -/
def ExpressionOp.symbols : List String :=
  ["$and", "$or", "$nor", "$not", "$elemMatch"]

namespace Interpretation

variable {Document : Type} (i : Interpretation Document)

/-- The meaning of an object with one key. What is no such object is true of no document. -/
def json : Json → Document → Prop
  | .object [("$and", .array [left, right])] => fun document =>
      json left document ∧ json right document
  | .object [("$or", .array [left, right])] => fun document =>
      json left document ∨ json right document
  | .object [("$nor", .array [left, right])] => fun document =>
      ¬ json left document ∧ ¬ json right document
  | .object [("$not", operand)] => fun document => ¬ json operand document
  | .object [("$elemMatch", operand)] => i.element (json operand)
  | .object [(prop, value)] => i.field prop value
  | _ => fun _ => False

/-- A query is true where all its entries are. -/
def query (q : Query) (document : Document) : Prop :=
  ∀ binding ∈ q.entries, i.json (.object [binding]) document

/-- The meaning of what a slot holds: a name stands for the field of its condition. -/
def slot (conditions : Dict Condition) : Slot → Document → Prop
  | .empty => fun _ => False
  | .name named =>
      match conditions.get? named with
      | none => fun _ => False
      | some condition =>
          match condition.resolve with
          | .error _ => fun _ => False
          | .ok value => i.field condition.prop value
  | .node opName condition left right =>
      match ExpressionOp.ofName? opName with
      | none => fun _ => False
      | some .use => slot conditions condition
      | some .and => fun document =>
          slot conditions left document ∧ slot conditions right document
      | some .or => fun document =>
          slot conditions left document ∨ slot conditions right document
      | some .nor => fun document =>
          ¬ slot conditions left document ∧ ¬ slot conditions right document
      | some .not => fun document => ¬ slot conditions condition document
      | some .matchElement => i.element (slot conditions condition)

/-- The meaning of an expression. -/
def expression (conditions : Dict Condition) (e : Expression) : Document → Prop :=
  i.slot conditions e.toSlot

attribute [local simp] json

theorem json_field {prop : String} (hprop : prop ∉ ExpressionOp.symbols) (value : Json) :
    i.json (.object [(prop, value)]) = i.field prop value := by
  simp only [ExpressionOp.symbols, List.mem_cons, List.not_mem_nil, or_false, not_or] at hprop
  obtain ⟨hand, hor, hnor, hnot, helement⟩ := hprop
  rw [json]
  · exact fun _ _ h _ => hand h
  · exact fun _ _ h _ => hor h
  · exact fun _ _ h _ => hnor h
  · exact hnot
  · exact helement

theorem json_and (left right : Query) :
    i.json (.ofDict (ExpressionOp.and.pair left right)) = fun document =>
      i.json (.ofDict left) document ∧ i.json (.ofDict right) document := by
  show i.json (.object [("$and", .array [.ofDict left, .ofDict right])]) = _
  simp

theorem json_or (left right : Query) :
    i.json (.ofDict (ExpressionOp.or.pair left right)) = fun document =>
      i.json (.ofDict left) document ∨ i.json (.ofDict right) document := by
  show i.json (.object [("$or", .array [.ofDict left, .ofDict right])]) = _
  simp

theorem json_nor (left right : Query) :
    i.json (.ofDict (ExpressionOp.nor.pair left right)) = fun document =>
      ¬ i.json (.ofDict left) document ∧ ¬ i.json (.ofDict right) document := by
  show i.json (.object [("$nor", .array [.ofDict left, .ofDict right])]) = _
  simp

theorem json_not (operand : Query) :
    i.json (.ofDict (ExpressionOp.not.around operand)) = fun document =>
      ¬ i.json (.ofDict operand) document := by
  show i.json (.object [("$not", .ofDict operand)]) = _
  simp

theorem json_matchElement (operand : Query) :
    i.json (.ofDict (ExpressionOp.matchElement.around operand)) =
      i.element (i.json (.ofDict operand)) := by
  show i.json (.object [("$elemMatch", .ofDict operand)]) = _
  simp

/-- A fragment means what the tree does from which it was made. -/
theorem json_fragment {conditions : Dict Condition} {s : Slot} {depth : Nat} {fragment : Query}
    (h : s.fragment conditions depth = .ok fragment)
    (hprops : ∀ name ∈ s.references, ∀ c, conditions.get? name = some c →
      c.prop ∉ ExpressionOp.symbols) :
    i.json (.ofDict fragment) = i.slot conditions s := by
  induction s generalizing depth fragment with
  | empty => cases h
  | name named =>
      obtain ⟨c, hget, hc⟩ := Condition.fragmentNamed_eq_ok_iff.mp h
      obtain ⟨value, hresolve, rfl⟩ := Condition.fragment_eq_ok_iff.mp hc
      have hprop := hprops named (List.mem_singleton.mpr rfl) c hget
      rw [slot, hget]
      simp only [hresolve]
      exact i.json_field hprop value
  | node opName condition left right ihcondition ihleft ihright =>
      simp only [Slot.references, List.mem_append] at hprops
      obtain ⟨op, hop, ⟨hbinary, first, second, hfirst, hsecond, rfl⟩ |
        ⟨hunary, operand, hoperand, rfl⟩⟩ := Slot.fragment_node_eq_ok h
      · have hleft := ihleft hfirst fun name hname => hprops name (Or.inl (Or.inr hname))
        have hright := ihright hsecond fun name hname => hprops name (Or.inr hname)
        rw [slot, hop, ← hleft, ← hright]
        cases op with
        | and => exact i.json_and first second
        | or => exact i.json_or first second
        | nor => exact i.json_nor first second
        | use => cases hbinary
        | not => cases hbinary
        | matchElement => cases hbinary
      · have hcondition := ihcondition hoperand fun name hname =>
          hprops name (Or.inl (Or.inl hname))
        rw [slot, hop, ← hcondition]
        cases op with
        | use => rfl
        | not => exact i.json_not operand
        | matchElement => exact i.json_matchElement operand
        | and => cases hunary
        | or => cases hunary
        | nor => cases hunary

end Interpretation

namespace Definition

/-- No condition that is referenced has an operator symbol for its field. -/
def PlainFields (d : Definition) : Prop :=
  ∀ name, d.References name → ∀ c, d.conditions.get? name = some c → c.prop ∉ ExpressionOp.symbols

/-- Whether no later expression produces the key of an entry. -/
def Survives (d : Definition) (entry : String × Expression) : Prop :=
  ∃ before after, d.expressions.entries = before ++ entry :: after ∧
    ∀ key, entry.2.Produces d.conditions key →
      ∀ later ∈ after, ¬ later.2.Produces d.conditions key

/-- Whether no two expressions produce the same key. -/
def DistinctKeys (d : Definition) : Prop :=
  d.expressions.entries.Pairwise fun entry later =>
    ∀ key, entry.2.Produces d.conditions key → ¬ later.2.Produces d.conditions key

variable {Document : Type} {d : Definition}

theorem Survives.mem {entry : String × Expression} (h : d.Survives entry) :
    entry ∈ d.expressions.entries := by
  obtain ⟨before, after, hentries, -⟩ := h
  simp [hentries]

theorem DistinctKeys.survives (h : d.DistinctKeys) {entry : String × Expression}
    (hentry : entry ∈ d.expressions.entries) : d.Survives entry := by
  obtain ⟨before, after, hentries⟩ := List.append_of_mem hentry
  rw [DistinctKeys, hentries] at h
  have hafter := (List.pairwise_cons.mp (List.pairwise_append.mp h).2.1).1
  exact ⟨before, after, hentries, fun key hkey later hlater => hafter later hlater key hkey⟩

/-- The one binding of an expression means what the expression does. -/
theorem PlainFields.json_binding (h : d.PlainFields) (i : Interpretation Document)
    {entry : String × Expression} (hentry : entry ∈ d.expressions.entries) {key : String}
    {value : Json} (hyields : entry.2.Yields d.conditions key value) :
    i.json (.object [(key, value)]) = i.expression d.conditions entry.2 := by
  have hfragment := hyields
  rw [Expression.Yields, Expression.evaluate_eq_fragment] at hfragment
  exact i.json_fragment hfragment fun name hname => h name ⟨entry, hentry, hname⟩

/-- A compiled query means the conjunction of the expressions whose keys no later one produces: of
all of them, when no two produce the same key. -/
theorem query_meaning (i : Interpretation Document) {query : Query} (hbuild : d.build = .ok query)
    (hfields : d.PlainFields) (document : Document) :
    (i.query query document ↔
      ∀ entry, d.Survives entry → i.expression d.conditions entry.2 document) ∧
    (d.DistinctKeys → (i.query query document ↔
      ∀ entry ∈ d.expressions.entries, i.expression d.conditions entry.2 document)) := by
  have hcompile := compile_of_build hbuild
  have hsurvivors : i.query query document ↔
      ∀ entry, d.Survives entry → i.expression d.conditions entry.2 document := by
    constructor
    · intro hquery entry hsurvives
      obtain ⟨key, value, hyields⟩ := exists_yields_of_compile hcompile entry hsurvives.mem
      obtain ⟨before, after, hentries, hlater⟩ := hsurvives
      have hbinding : (key, value) ∈ query.entries :=
        (mem_entries_compileExpressions hcompile).mpr
          ⟨before, entry, after, hentries, hyields, hlater key hyields.produces⟩
      have hentry : entry ∈ d.expressions.entries := by simp [hentries]
      rw [← hfields.json_binding i hentry hyields]
      exact hquery _ hbinding
    · rintro hall ⟨key, value⟩ hbinding
      obtain ⟨before, entry, after, hentries, hyields, hlater⟩ :=
        (mem_entries_compileExpressions hcompile).mp hbinding
      have hsurvives : d.Survives entry := by
        refine ⟨before, after, hentries, fun other hother => ?_⟩
        obtain ⟨otherValue, hother⟩ := hother
        obtain ⟨rfl, -⟩ := hother.unique hyields
        exact hlater
      rw [hfields.json_binding i hsurvives.mem hyields]
      exact hall entry hsurvives
  refine ⟨hsurvivors, fun hdistinct => hsurvivors.trans ?_⟩
  constructor
  · intro hall entry hentry
    exact hall entry (hdistinct.survives hentry)
  · intro hall entry hsurvives
    exact hall entry hsurvives.mem

/-- Two expressions with the same key, of which the last remains. -/
def shadowing : Definition where
  expressions := Dict.ofList [("E", .unary .not (.name "A")), ("F", .unary .not (.name "B"))]
  conditions := Dict.ofList
    [("A", ⟨"a", "equals", .scalar (.bool true), false⟩),
      ("B", ⟨"b", "equals", .scalar (.bool true), false⟩)]

def shadowingQuery : Query :=
  Dict.singleton "$not" (.object [("b", .bool true)])

/-- A document is the one field that it has, whatever the value. -/
def fieldNames : Interpretation String where
  field prop _ document := prop = document
  element meaning := meaning

theorem query_meaning_shadowing :
    shadowing.build = .ok shadowingQuery ∧ shadowing.PlainFields ∧
      fieldNames.query shadowingQuery "a" ∧
      ∀ entry, shadowing.Survives entry →
        fieldNames.expression shadowing.conditions entry.2 "a" := by
  have hcheck : shadowing.check = .ok () := check_of_walks (by decide) (by decide) rfl rfl
  have hentries : shadowing.expressions.entries =
      [("E", .unary .not (.name "A")), ("F", .unary .not (.name "B"))] := rfl
  have hbuild : shadowing.build = .ok shadowingQuery := by
    rw [build_of_check hcheck, compileExpressions, hentries]
    simp only [mergeFragments, Expression.evaluate_eq_fragment]
    rfl
  have hprops : ∀ entry ∈ shadowing.conditions.entries, entry.2.prop ∉ ExpressionOp.symbols := by
    decide
  have hfields : shadowing.PlainFields := fun _ _ _ hget =>
    hprops _ (Dict.mem_entries_of_get? hget)
  have hquery : fieldNames.query shadowingQuery "a" := by
    intro binding hbinding
    obtain rfl := List.mem_singleton.mp hbinding
    simp [Interpretation.json, fieldNames]
  exact ⟨hbuild, hfields, hquery, ((query_meaning fieldNames hbuild hfields "a").1).mp hquery⟩

end Definition

end FilterBook
