import FilterBook.Proofs.Validity

/-!
What the schemas of definitions admit, each at some depth, in terms of the schemas that it refers to
and of the form of the document.
-/

namespace FilterBook

open Schema Schema.Keyword

/-- Whether one of the schemas of definitions admits a document. -/
def Described (depth : Nat) (schema : Schema) (j : Json) : Prop :=
  Admits Schema.book.toJson depth (Schema.toJson schema) j

namespace Described

variable {depth : Nat} {j : Json}

theorem succ_iff {schema : Schema} (h : ∀ keyword ∈ schema, keyword.name ≠ "$ref") :
    Described (depth + 1) schema j ↔
      ∀ keyword ∈ schema, keyword.Means (Admits Schema.book.toJson depth) schema.describes j :=
  admits_toJson h

/-- What is described at all is described at a depth of at least one. -/
theorem exists_succ {schema : Schema} (h : Described depth schema j) :
    ∃ below, depth = below + 1 := by
  cases depth with
  | zero => exact absurd h id
  | succ below => exact ⟨below, rfl⟩

theorem reference_iff {name : String} {schema : Schema}
    (hname : Schema.book.definitions.lookup name = some schema) :
    Described (depth + 1) [.reference name] j ↔ Described depth schema j := by
  rw [Described, admits_reference (by decide), hname]
  simp [Described]

theorem kind_iff {k : Kind} : Described (depth + 1) [.kind k] j ↔ Kind.of j = k := by
  rw [succ_iff (by simp [Keyword.name]), List.forall_mem_singleton, Means]

theorem explainedKind_iff {text : String} {k : Kind} :
    Described (depth + 1) [.description text, .kind k] j ↔ Kind.of j = k := by
  rw [succ_iff (by simp [Keyword.name]), List.forall_mem_cons, List.forall_mem_singleton, Means,
    Means, true_and]

theorem scalar_iff : Described (depth + 1) scalar j ↔
    Described depth [.kind .boolean] j ∨ Described depth [.kind .number] j ∨
      Described depth [.kind .string] j := by
  rw [succ_iff (by decide)]
  simp [scalar, Means, Described]

theorem conditionValue_iff : Described (depth + 1) conditionValue j ↔
    Described depth [.reference "Scalar"] j ∨
      Described depth [.kind .array, .items [.reference "Scalar"]] j := by
  rw [succ_iff (by decide)]
  simp [conditionValue, Means, Described]

theorem scalars_iff : Described (depth + 1) [.kind .array, .items [.reference "Scalar"]] j ↔
    ∃ items, j = .array items ∧ ∀ item ∈ items, Described depth [.reference "Scalar"] item := by
  rw [succ_iff (by decide), List.forall_mem_cons, List.forall_mem_singleton, Means, Means]
  constructor
  · rintro ⟨hkind, hitems⟩
    cases j with
    | array items => exact ⟨items, rfl, hitems items rfl⟩
    | _ => cases hkind
  · rintro ⟨items, rfl, hitems⟩
    refine ⟨rfl, fun others hothers => ?_⟩
    cases hothers
    exact hitems

theorem slot_iff : Described (depth + 1) Schema.slot j ↔
    Described depth [.reference "Operand"] j ∨ Described depth [.kind .null] j := by
  rw [succ_iff (by decide)]
  simp [Schema.slot, Means, Described]

theorem operand_iff : Described (depth + 1) Schema.operand j ↔
    Described depth [.kind .string] j ∨ Described depth [.reference "Expression"] j := by
  rw [succ_iff (by decide)]
  simp [Schema.operand, Means, Described]

theorem oneString_iff {text : String} {texts : List String} :
    Described (depth + 1) [.description text, .kind .string, .oneString texts] j ↔
      ∃ name ∈ texts, j = .string name := by
  rw [succ_iff (by simp [Keyword.name])]
  simp only [List.forall_mem_cons, List.not_mem_nil, false_implies, implies_true, and_true, Means,
    true_and]
  constructor
  · rintro ⟨-, hname⟩
    exact hname
  · rintro ⟨name, hname, rfl⟩
    exact ⟨rfl, name, hname, rfl⟩

theorem expressionOp_iff : Described (depth + 1) Schema.expressionOp j ↔
    ∃ op : ExpressionOp, j = .string op.name := by
  have hall (op : ExpressionOp) : op ∈ ExpressionOp.all := by
    cases op <;> decide
  rw [Schema.expressionOp, oneString_iff]
  constructor
  · rintro ⟨_, hname, rfl⟩
    obtain ⟨op, -, rfl⟩ := List.mem_map.mp hname
    exact ⟨op, rfl⟩
  · rintro ⟨op, rfl⟩
    exact ⟨_, List.mem_map_of_mem (hall op), rfl⟩

theorem conditionOpName_iff {op : ConditionOp} : Described (depth + 1) (conditionOpName op) j ↔
    j = .string op.name := by
  rw [conditionOpName, oneString_iff]
  simp

theorem exists_conditionOp (h : Described depth Schema.conditionOp j) :
    ∃ op : ConditionOp, j = .string op.name := by
  obtain ⟨below, rfl⟩ := h.exists_succ
  rw [succ_iff (by decide), Schema.conditionOp, List.forall_mem_cons,
    List.forall_mem_singleton] at h
  obtain ⟨before, schema, after, hschemas, hdescribed, -⟩ := h.2
  have hmem : schema ∈ ConditionOp.all.map conditionOpName :=
    hschemas ▸ List.mem_append_right before List.mem_cons_self
  obtain ⟨op, -, rfl⟩ := List.mem_map.mp hmem
  obtain ⟨below, rfl⟩ := exists_succ hdescribed
  exact ⟨op, conditionOpName_iff.mp hdescribed⟩

/-- The operators have different names, so a name is admitted as one of them only. -/
theorem conditionOp_name (op : ConditionOp) :
    Described (depth + 2) Schema.conditionOp (.string op.name) := by
  have hall : op ∈ ConditionOp.all := by
    cases op <;> decide
  have hnodup : ConditionOp.all.Nodup := by decide
  obtain ⟨before, after, hsplit⟩ := List.append_of_mem hall
  rw [succ_iff (by decide), Schema.conditionOp, List.forall_mem_cons, List.forall_mem_singleton]
  refine ⟨trivial, before.map conditionOpName, conditionOpName op, after.map conditionOpName, ?_,
    conditionOpName_iff.mpr rfl, ?_⟩
  · rw [hsplit, List.map_append, List.map_cons]
  · rw [← List.map_append, List.forall_mem_map]
    intro other hother hdescribed
    have hname : Json.string op.name = .string other.name := conditionOpName_iff.mp hdescribed
    obtain rfl : op = other := ConditionOp.name_tellsApart.inj (Json.string.inj hname)
    rw [hsplit, List.perm_middle.nodup_iff, List.nodup_cons] at hnodup
    exact hnodup.1 hother

/-- The fields that are described, and no others. -/
theorem fields_iff {fields : List (String × Schema)} (hnodup : (fields.map Prod.fst).Nodup)
    {entries : List (String × Json)} :
    (properties fields).Means (Admits Schema.book.toJson depth) (fields.map Prod.fst)
          (.object entries) ∧
        noOtherFields.Means (Admits Schema.book.toJson depth) (fields.map Prod.fst)
          (.object entries) ↔
      ∀ entry ∈ entries, ∃ schema, (entry.1, schema) ∈ fields ∧
        Described depth schema entry.2 := by
  have hfalse (j : Json) : ¬ Admits Schema.book.toJson depth (.bool false) j := by
    cases depth with
    | zero => exact id
    | succ depth =>
        intro h
        cases h
  simp only [Means, Json.object.injEq]
  constructor
  · rintro ⟨hdescribed, hothers⟩ entry hentry
    by_cases hname : entry.1 ∈ fields.map Prod.fst
    · obtain ⟨⟨name, schema⟩, hfield, hname⟩ := List.mem_map.mp hname
      cases hname
      exact ⟨schema, hfield, hdescribed _ rfl entry hentry schema
        ((Dict.lookup_eq_some_iff_mem hnodup).mpr hfield)⟩
    · exact absurd (hothers _ rfl entry hentry hname) (hfalse _)
  · intro h
    refine ⟨?_, ?_⟩
    · rintro _ rfl entry hentry schema hschema
      obtain ⟨known, hknown, hdescribed⟩ := h entry hentry
      rw [(Dict.lookup_eq_some_iff_mem hnodup).mpr hknown] at hschema
      cases hschema
      exact hdescribed
    · rintro _ rfl entry hentry hname
      obtain ⟨schema, hschema, -⟩ := h entry hentry
      exact absurd (List.mem_map_of_mem hschema) hname

/-- A schema of records admits the objects that have all required fields and no others than the ones
it describes. -/
theorem record_iff {text : String} {names : List String} {fields : List (String × Schema)}
    (hnodup : (fields.map Prod.fst).Nodup) :
    Described (depth + 1)
        [.description text, .kind .object, .required names, .properties fields, .noOtherFields] j ↔
      ∃ entries, j = .object entries ∧ (∀ name ∈ names, name ∈ entries.map Prod.fst) ∧
        ∀ entry ∈ entries, ∃ schema, (entry.1, schema) ∈ fields ∧
          Described depth schema entry.2 := by
  have hdescribes : describes [.description text, .kind .object, .required names,
      .properties fields, .noOtherFields] = fields.map Prod.fst := by
    show (propertyFields fields).map Prod.fst = _
    rw [propertyFields_eq_map, List.map_map]
    rfl
  rw [succ_iff (by simp [Keyword.name]), hdescribes]
  simp only [List.forall_mem_cons, List.not_mem_nil, false_implies, implies_true, and_true]
  constructor
  · rintro ⟨-, hkind, hrequired, hdescribed⟩
    cases j with
    | object entries =>
        exact ⟨entries, rfl, hrequired entries rfl, (fields_iff hnodup).mp hdescribed⟩
    | _ => cases hkind
  · rintro ⟨entries, rfl, hrequired, hdescribed⟩
    refine ⟨trivial, rfl, fun others hothers => ?_, (fields_iff hnodup).mpr hdescribed⟩
    cases hothers
    exact hrequired

theorem table_iff {name : String} : Described (depth + 1) (table name) j ↔
    ∃ entries, j = .object entries ∧
      ∀ entry ∈ entries, Described depth [.reference name] entry.2 := by
  have hdescribes : describes (table name) = [] := rfl
  rw [succ_iff (by simp [table, Keyword.name]), hdescribes]
  simp only [table, List.forall_mem_cons, List.not_mem_nil, false_implies, implies_true, and_true]
  constructor
  · rintro ⟨-, hkind, hothers⟩
    cases j with
    | object entries =>
        exact ⟨entries, rfl, fun entry hentry => hothers _ rfl entry hentry List.not_mem_nil⟩
    | _ => cases hkind
  · rintro ⟨entries, rfl, hentries⟩
    refine ⟨trivial, rfl, fun others hothers entry hentry _ => ?_⟩
    cases hothers
    exact hentries entry hentry

theorem root_iff : Admits Schema.book.toJson (depth + 1) Schema.book.toJson j ↔
    ∃ entries, j = .object entries ∧ ∀ entry ∈ entries, ∃ schema,
      (entry.1, schema) ∈ [("conditions", table "Condition"), ("expressions", table "Expression")] ∧
        Described depth schema entry.2 := by
  have hdescribes : describes Schema.book.root = ["conditions", "expressions"] := rfl
  rw [admits_root (by decide), hdescribes]
  simp only [Schema.book, Schema.definition, List.forall_mem_cons, List.not_mem_nil, false_implies,
    implies_true, and_true]
  constructor
  · rintro ⟨-, hkind, hdescribed⟩
    cases j with
    | object entries => exact ⟨entries, rfl, (fields_iff (by decide)).mp hdescribed⟩
    | _ => cases hkind
  · rintro ⟨entries, rfl, hdescribed⟩
    exact ⟨trivial, rfl, (fields_iff (by decide)).mpr hdescribed⟩

theorem of_reference {name : String} {schema : Schema}
    (hname : Schema.book.definitions.lookup name = some schema)
    (h : Described depth [.reference name] j) : ∃ below < depth, Described below schema j := by
  obtain ⟨below, rfl⟩ := h.exists_succ
  exact ⟨below, Nat.lt_succ_self below, (reference_iff hname).mp h⟩

theorem of_kind {k : Kind} (h : Described depth [.kind k] j) : Kind.of j = k := by
  obtain ⟨below, rfl⟩ := h.exists_succ
  exact kind_iff.mp h

end Described

end FilterBook
