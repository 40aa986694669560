import FilterBook.CommandLine
import FilterBook.Proofs.Acceptance
import FilterBook.Proofs.Nesting
import FilterBook.Proofs.Soundness

/-!
The schema that the program prints, against what the program does. A definition whose operators are
all known is valid as a document; and a valid document, unless it repeats a key or nests too deep,
is read as a definition whose operators are all known.
-/

namespace FilterBook

open Json Outcome Schema

section Known

theorem Slot.Derivable.operatorsKnown {conditions : Dict Condition} {s : Slot}
    (h : s.Derivable conditions) : s.OperatorsKnown := by
  induction h with
  | name => trivial
  | binary hop _ _ ihleft ihright =>
      obtain ⟨op, rfl, -⟩ := ExpressionOp.exists_binary hop
      exact ⟨⟨op, ExpressionOp.parse_eq_ok_iff.mpr rfl⟩, trivial, ihleft, ihright⟩
  | unary hop _ ihcondition =>
      obtain ⟨op, rfl, -⟩ := ExpressionOp.exists_unary hop
      exact ⟨⟨op, ExpressionOp.parse_eq_ok_iff.mpr rfl⟩, ihcondition, trivial, trivial⟩

/-- What passes the gate declares known operators only. -/
theorem Definition.Grammatical.operatorsKnown {d : Definition} (h : d.Grammatical) :
    d.OperatorsKnown where
  expressions entry hentry := (h.expressions entry hentry).derivable.operatorsKnown
  conditions entry hentry := (h.conditions entry hentry).parse

end Known

section Writing

variable {depth : Nat}

theorem Scalar.described (s : Scalar) : Described (depth + 2) Schema.scalar s.toJson := by
  rw [Described.scalar_iff]
  cases s with
  | bool value => exact Or.inl (Described.kind_iff.mpr rfl)
  | number value => exact Or.inr (Or.inl (Described.kind_iff.mpr rfl))
  | string text => exact Or.inr (Or.inr (Described.kind_iff.mpr rfl))

theorem ConditionValue.described (v : ConditionValue) :
    Described (depth + 5) Schema.conditionValue v.toJson := by
  rw [Described.conditionValue_iff]
  cases v with
  | scalar value => exact Or.inl ((Described.reference_iff rfl).mpr value.described)
  | list values =>
      refine Or.inr (Described.scalars_iff.mpr ⟨_, rfl, ?_⟩)
      rw [List.forall_mem_map]
      exact fun value _ => (Described.reference_iff rfl).mpr value.described

theorem Condition.described {c : Condition} (h : ∃ op, ConditionOp.parse c.op = .ok op) :
    Described (depth + 7) Schema.condition c.toJson := by
  obtain ⟨op, hop⟩ := h
  have hname : c.op = op.name := (ConditionOp.parse_eq_ok_iff.mp hop).symm
  rw [Schema.condition, Described.record_iff (by decide)]
  refine ⟨_, rfl, ?_, ?_⟩
  · simp
  · rw [List.forall_mem_append]
    refine ⟨?_, ?_⟩
    · rw [List.forall_mem_cons, List.forall_mem_cons, List.forall_mem_singleton]
      refine ⟨⟨_, .tail _ (.tail _ (.head _)), ?_⟩, ⟨_, .tail _ (.head _), ?_⟩,
        ⟨_, .tail _ (.tail _ (.tail _ (.head _))), ?_⟩⟩
      · exact Described.explainedKind_iff.mpr rfl
      · rw [hname]
        exact (Described.reference_iff rfl).mpr (Described.conditionOp_name op)
      · exact (Described.reference_iff rfl).mpr c.value.described
    · cases hdate : c.isDate with
      | false =>
          rw [if_neg (by decide)]
          exact List.forall_mem_nil _
      | true =>
          rw [if_pos rfl, List.forall_mem_singleton]
          exact ⟨_, .head _, Described.explainedKind_iff.mpr rfl⟩

theorem described_slotField {name : String} {s : Slot} (h : s.isEmpty = false →
      Described depth [.reference "Operand"] s.toJson) :
    ∀ entry ∈ slotField name s s.toJson,
      entry.1 = name ∧ Described (depth + 1) Schema.slot entry.2 := by
  unfold slotField
  split
  · exact List.forall_mem_nil _
  · rename_i hfilled
    rw [List.forall_mem_singleton]
    exact ⟨rfl, Described.slot_iff.mpr (Or.inl (h (by simpa using hfilled)))⟩

/-- A node is described two levels above its slots. -/
theorem Slot.described_node {opName : String} {condition left right : Slot}
    (hop : ∃ op, ExpressionOp.parse opName = .ok op)
    (hslots : ∀ s ∈ [condition, left, right], s.isEmpty = false →
      Described (depth + 1) [.reference "Operand"] s.toJson) :
    Described (depth + 3) Schema.expression (Slot.node opName condition left right).toJson := by
  obtain ⟨op, hop⟩ := hop
  have hname : opName = op.name := (ExpressionOp.parse_eq_ok_iff.mp hop).symm
  rw [List.forall_mem_cons, List.forall_mem_cons, List.forall_mem_singleton] at hslots
  obtain ⟨hcondition, hleft, hright⟩ := hslots
  rw [Schema.expression, Described.record_iff (by decide)]
  refine ⟨_, rfl, ?_, ?_⟩
  · simp
  · rw [List.forall_mem_cons, List.forall_mem_append, List.forall_mem_append]
    refine ⟨⟨_, .tail _ (.tail _ (.head _)), ?_⟩, fun entry hentry => ?_, fun entry hentry => ?_,
      fun entry hentry => ?_⟩
    · exact (Described.reference_iff rfl).mpr
        (Described.expressionOp_iff.mpr ⟨op, congrArg Json.string hname⟩)
    · obtain ⟨hfield, hdescribed⟩ := described_slotField hcondition entry hentry
      exact ⟨_, hfield ▸ .head _, hdescribed⟩
    · obtain ⟨hfield, hdescribed⟩ := described_slotField hleft entry hentry
      exact ⟨_, hfield ▸ .tail _ (.head _), hdescribed⟩
    · obtain ⟨hfield, hdescribed⟩ := described_slotField hright entry hentry
      exact ⟨_, hfield ▸ .tail _ (.tail _ (.tail _ (.head _))), hdescribed⟩

/-- Each level of nodes takes five levels of schemas: that of the node, and from there those of a
slot, of its operand and of the node below, with a reference to each of the last two. -/
theorem Slot.described {s : Slot} (h : s.OperatorsKnown) (hfilled : s.isEmpty = false)
    (hdepth : 5 * s.depth + 3 ≤ depth) : Described depth [.reference "Operand"] s.toJson := by
  induction s generalizing depth with
  | empty => cases hfilled
  | name named =>
      obtain ⟨below, rfl⟩ : ∃ below, depth = below + 3 := ⟨depth - 3, by omega⟩
      refine (Described.reference_iff rfl).mpr (Described.operand_iff.mpr (Or.inl ?_))
      exact Described.kind_iff.mpr rfl
  | node opName condition left right ihcondition ihleft ihright =>
      obtain ⟨hop, hcondition, hleft, hright⟩ := h
      rw [Slot.depth] at hdepth
      obtain ⟨below, rfl⟩ : ∃ below, depth = below + 6 := ⟨depth - 6, by omega⟩
      refine (Described.reference_iff rfl).mpr (Described.operand_iff.mpr (Or.inr ?_))
      refine (Described.reference_iff rfl).mpr (Slot.described_node hop ?_)
      rw [List.forall_mem_cons, List.forall_mem_cons, List.forall_mem_singleton]
      exact ⟨fun hfilled => ihcondition hcondition hfilled (by omega),
        fun hfilled => ihleft hleft hfilled (by omega),
        fun hfilled => ihright hright hfilled (by omega)⟩

/-- An expression is what its slot holds as an operand, and no string. -/
theorem Expression.described {e : Expression} (h : e.toSlot.OperatorsKnown)
    (hdepth : 5 * e.depth ≤ depth) : Described depth Schema.expression e.toJson := by
  have hoperand : Described (depth + 3) [.reference "Operand"] e.toSlot.toJson :=
    Slot.described h rfl (Nat.add_le_add_right hdepth 3)
  rcases Described.operand_iff.mp ((Described.reference_iff rfl).mp hoperand) with hstring | hnode
  · cases Described.kind_iff.mp hstring
  · exact (Described.reference_iff rfl).mp hnode

theorem exists_depth_le (entries : List (String × Expression)) :
    ∃ bound, ∀ entry ∈ entries, entry.2.depth ≤ bound := by
  induction entries with
  | nil => exact ⟨0, List.forall_mem_nil _⟩
  | cons entry entries ih =>
      obtain ⟨bound, hbound⟩ := ih
      refine ⟨max entry.2.depth bound, List.forall_mem_cons.mpr ⟨Nat.le_max_left .., ?_⟩⟩
      exact fun other hother => Nat.le_trans (hbound other hother) (Nat.le_max_right ..)

/-- A definition whose operators are known is valid as a document. -/
theorem Definition.OperatorsKnown.valid {d : Definition} (h : d.OperatorsKnown) :
    Valid Schema.book.toJson d.toJson := by
  obtain ⟨bound, hbound⟩ := exists_depth_le d.expressions.entries
  refine ⟨5 * bound + 10, fun depth hdepth => ?_⟩
  obtain ⟨below, rfl⟩ : ∃ below, depth = below + 10 := ⟨depth - 10, by omega⟩
  refine Described.root_iff.mpr ⟨_, rfl, ?_⟩
  rw [List.forall_mem_cons, List.forall_mem_singleton]
  refine ⟨⟨_, .tail _ (.head _), Described.table_iff.mpr ⟨_, rfl, ?_⟩⟩,
    ⟨_, .head _, Described.table_iff.mpr ⟨_, rfl, ?_⟩⟩⟩
  · rw [List.forall_mem_map]
    intro entry hentry
    have hdeep := hbound entry hentry
    exact (Described.reference_iff rfl).mpr
      (Expression.described (h.expressions entry hentry) (by omega))
  · rw [List.forall_mem_map]
    intro entry hentry
    exact (Described.reference_iff rfl).mpr (Condition.described (h.conditions entry hentry))

end Writing

section Keys

theorem ConditionValue.keysDistinct (v : ConditionValue) : v.toJson.KeysDistinct := by
  have hscalar (s : Scalar) : s.toJson.KeysDistinct := by
    cases s with
    | bool value => exact .bool value
    | number value => exact .number value
    | string text => exact .string text
  cases v with
  | scalar value => exact hscalar value
  | list values =>
      refine .array ?_
      rw [List.forall_mem_map]
      exact fun value _ => hscalar value

theorem Condition.keysDistinct (c : Condition) : c.toJson.KeysDistinct := by
  obtain ⟨prop, op, value, isDate⟩ := c
  have hvalue := value.keysDistinct
  cases isDate with
  | false =>
      refine .object (show ["prop", "op", "value"].Nodup by decide) ?_
      show ∀ field ∈ [("prop", Json.string prop), ("op", .string op), ("value", value.toJson)],
        field.2.KeysDistinct
      rw [List.forall_mem_cons, List.forall_mem_cons, List.forall_mem_singleton]
      exact ⟨.string prop, .string op, hvalue⟩
  | true =>
      refine .object (show ["prop", "op", "value", "isDate"].Nodup by decide) ?_
      show ∀ field ∈ [("prop", Json.string prop), ("op", .string op), ("value", value.toJson),
        ("isDate", .bool true)], field.2.KeysDistinct
      rw [List.forall_mem_cons, List.forall_mem_cons, List.forall_mem_cons,
        List.forall_mem_singleton]
      exact ⟨.string prop, .string op, hvalue, .bool true⟩

theorem names_slotField (name : String) (s : Slot) (json : Json) :
    ((slotField name s json).map Prod.fst).Sublist [name] := by
  unfold slotField
  split
  · exact List.nil_sublist _
  · exact List.Sublist.refl _

theorem Slot.keysDistinct (s : Slot) : s.toJson.KeysDistinct := by
  have hfield {name : String} {s : Slot} (h : s.toJson.KeysDistinct) :
      ∀ field ∈ slotField name s s.toJson, field.2.KeysDistinct := by
    unfold slotField
    split
    · exact List.forall_mem_nil _
    · exact List.forall_mem_singleton.mpr h
  induction s with
  | empty => exact .null
  | name named => exact .string named
  | node op condition left right hcondition hleft hright =>
      refine .object ?_ ?_
      · have hsublist : (((("op", Json.string op) ::
            (slotField "condition" condition condition.toJson ++
              (slotField "left" left left.toJson ++ slotField "right" right right.toJson)))).map
            Prod.fst).Sublist ["op", "condition", "left", "right"] := by
          simp only [List.map_cons, List.map_append]
          exact ((names_slotField ..).append
            ((names_slotField ..).append (names_slotField ..))).cons_cons "op"
        exact hsublist.nodup (by decide)
      · rw [List.forall_mem_cons, List.forall_mem_append, List.forall_mem_append]
        exact ⟨.string op, hfield hcondition, hfield hleft, hfield hright⟩

/-- A definition is written without repeating a key. -/
theorem Definition.keysDistinct (d : Definition) : d.toJson.KeysDistinct := by
  have hentries {α : Type} (dict : Dict α) {json : α → Json} (h : ∀ a, (json a).KeysDistinct) :
      (Json.object (dict.entries.map fun entry => (entry.1, json entry.2))).KeysDistinct := by
    refine .object ?_ ?_
    · rw [List.map_map]
      exact dict.nodup
    · rw [List.forall_mem_map]
      exact fun entry _ => h entry.2
  refine .object (show ["expressions", "conditions"].Nodup by decide) ?_
  rw [List.forall_mem_cons, List.forall_mem_singleton]
  exact ⟨hentries d.expressions fun e => e.toSlot.keysDistinct,
    hentries d.conditions Condition.keysDistinct⟩

end Keys

namespace Definition

/-- The schema that the program prints agrees with it. A definition that passes the gate is valid as
a document; and a valid document that repeats no key is taken as a definition all of whose operators
are known, and from each of its texts if it does not nest too deep. -/
theorem schema_agrees :
    (∀ files service,
      CommandLine.run files ["schema"] service = .success Schema.book.toJson.pretty) ∧
      (∀ d : Definition, d.check = .ok () → Valid Schema.book.toJson d.toJson) ∧
      ∀ j : Json, Valid Schema.book.toJson j → j.KeysDistinct →
        ∃ d, d.OperatorsKnown ∧ Definition.take (.ofJson j) = .ok d ∧
          (j.nesting ≤ greatestNesting →
            ∀ text, IsTextOf text j → Definition.ofText .json text = .ok d) := by
  refine ⟨fun files service => rfl, fun d hcheck => ?_, fun j hvalid hkeys => ?_⟩
  · exact (check_eq_ok_iff.mp hcheck).operatorsKnown.valid
  · obtain ⟨d, htake, hknown⟩ := exists_definition hvalid hkeys
    refine ⟨d, hknown, htake, fun hnesting text htext => ?_⟩
    rw [ofText, ofJsonText, htext.decode_eq hnesting, htake]

theorem schema_agrees_twoByTwo :
    twoByTwo.check = .ok () ∧ Valid Schema.book.toJson twoByTwo.toJson ∧
      twoByTwo.toJson.KeysDistinct ∧ twoByTwo.toJson.nesting ≤ greatestNesting ∧
      IsTextOf twoByTwo.toJson.compact twoByTwo.toJson ∧
      ∃ d, d.OperatorsKnown ∧ ofText .json twoByTwo.toJson.compact = .ok d := by
  have hcheck : twoByTwo.check = .ok () := check_of_walks (by decide) (by decide) rfl rfl
  have hvalid : Valid Schema.book.toJson twoByTwo.toJson := schema_agrees.2.1 twoByTwo hcheck
  have hnesting : twoByTwo.toJson.nesting ≤ greatestNesting := by decide
  have htext : IsTextOf twoByTwo.toJson.compact twoByTwo.toJson :=
    (fits (d := twoByTwo) (by decide) (by decide)).isTextOf_compact
  obtain ⟨d, hknown, -, hread⟩ := schema_agrees.2.2 twoByTwo.toJson hvalid twoByTwo.keysDistinct
  exact ⟨hcheck, hvalid, twoByTwo.keysDistinct, hnesting, htext, d, hknown, hread hnesting _ htext⟩

end Definition

end FilterBook
