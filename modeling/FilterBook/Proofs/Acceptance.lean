import FilterBook.Proofs.Description
import FilterBook.Proofs.Evaluation
import FilterBook.Proofs.RoundTrip

/-!
A document that the schemas describe is taken as what they say, if it repeats no key: its fields are
taken one after the other, and whatever was read before a field has left the place for it free.
-/

namespace FilterBook

open Json Outcome Schema

section Known

/-- Every operator in a slot is one of those that an expression may declare, also where evaluation
never looks. -/
def Slot.OperatorsKnown : Slot → Prop
  | .empty => True
  | .name _ => True
  | .node op condition left right =>
      (∃ known, ExpressionOp.parse op = .ok known) ∧ condition.OperatorsKnown ∧
        left.OperatorsKnown ∧ right.OperatorsKnown

/-- Every operator of a definition is one of those that it may declare. -/
structure Definition.OperatorsKnown (d : Definition) : Prop where
  expressions : ∀ entry ∈ d.expressions.entries, entry.2.toSlot.OperatorsKnown
  conditions : ∀ entry ∈ d.conditions.entries, ∃ op, ConditionOp.parse entry.2.op = .ok op

end Known

/-- A document none of whose objects has a key twice. -/
inductive Json.KeysDistinct : Json → Prop
  | null : KeysDistinct .null
  | bool (value : Bool) : KeysDistinct (.bool value)
  | number (value : Number) : KeysDistinct (.number value)
  | string (text : String) : KeysDistinct (.string text)
  | array {items : List Json} (hitems : ∀ item ∈ items, KeysDistinct item) :
      KeysDistinct (.array items)
  | object {fields : List (String × Json)} (hnodup : (fields.map Prod.fst).Nodup)
      (hfields : ∀ field ∈ fields, KeysDistinct field.2) : KeysDistinct (.object fields)

section Values

variable {depth : Nat} {j : Json}

theorem Described.exists_scalar (h : Described depth Schema.scalar j) :
    ∃ s, Scalar.ofJson? j = some s := by
  obtain ⟨below, rfl⟩ := h.exists_succ
  have hkind : Kind.of j = .boolean ∨ Kind.of j = .number ∨ Kind.of j = .string :=
    (scalar_iff.mp h).imp of_kind (Or.imp of_kind of_kind)
  cases j with
  | bool value => exact ⟨.bool value, rfl⟩
  | number value => exact ⟨.number value, rfl⟩
  | string text => exact ⟨.string text, rfl⟩
  | null => simp [Kind.of] at hkind
  | array items => simp [Kind.of] at hkind
  | object fields => simp [Kind.of] at hkind

theorem ConditionValue.ofJson?_of_scalar {s : Scalar} (h : Scalar.ofJson? j = some s) :
    ConditionValue.ofJson? j = some (.scalar s) := by
  cases j with
  | bool value => cases h; rfl
  | number value => cases h; rfl
  | string text => cases h; rfl
  | null => cases h
  | array items => cases h
  | object fields => cases h

theorem Described.exists_value (h : Described depth Schema.conditionValue j) :
    ∃ v, ConditionValue.ofJson? j = some v := by
  obtain ⟨below, rfl⟩ := h.exists_succ
  rcases conditionValue_iff.mp h with hscalar | hlist
  · obtain ⟨_, -, hscalar⟩ := hscalar.of_reference rfl
    obtain ⟨s, hs⟩ := hscalar.exists_scalar
    exact ⟨.scalar s, ConditionValue.ofJson?_of_scalar hs⟩
  · obtain ⟨below, rfl⟩ := hlist.exists_succ
    obtain ⟨items, rfl, hitems⟩ := scalars_iff.mp hlist
    obtain ⟨values, hvalues⟩ := exists_mapM_of_forall fun item hitem => by
      obtain ⟨_, -, hscalar⟩ := (hitems item hitem).of_reference rfl
      exact hscalar.exists_scalar
    exact ⟨.list values, by rw [ConditionValue.ofJson?, hvalues]; rfl⟩

end Values

/-- A reader of fields comes to an end, if it goes on past each field whose key has not been seen
before. `Ends read fields last` says that it goes from what it has read through the fields to what
it has read at last. -/
theorem exists_end {α : Type} (Ends : α → List (String × Json) → α → Prop)
    {Tracks : List String → α → Prop} {Field : String → Json → Prop}
    (hnil : ∀ read, Ends read [] read)
    (hcons : ∀ {seen read field fields}, Tracks seen read → field.1 ∉ seen →
      Field field.1 field.2 → ∃ next, Tracks (field.1 :: seen) next ∧
        ∀ last, Ends next fields last → Ends read (field :: fields) last)
    {fields : List (String × Json)} (hnodup : (fields.map Prod.fst).Nodup)
    (hfields : ∀ field ∈ fields, Field field.1 field.2) {seen : List String}
    (hseen : ∀ field ∈ fields, field.1 ∉ seen) {read : α} (h : Tracks seen read) :
    ∃ last, Ends read fields last ∧ Tracks ((fields.map Prod.fst).reverse ++ seen) last := by
  induction fields generalizing seen read with
  | nil => exact ⟨read, hnil read, h⟩
  | cons field fields ih =>
      obtain ⟨hfield, hrest⟩ := List.forall_mem_cons.mp hfields
      obtain ⟨hnew, hseen⟩ := List.forall_mem_cons.mp hseen
      obtain ⟨hother, hnodup⟩ := List.nodup_cons.mp hnodup
      obtain ⟨next, htracks, hnext⟩ := hcons h hnew hfield
      have hseenNext : ∀ other ∈ fields, other.1 ∉ field.1 :: seen := by
        intro other hmem hcons
        rcases List.mem_cons.mp hcons with heq | hcons
        · exact hother (heq ▸ List.mem_map_of_mem hmem)
        · exact hseen other hmem hcons
      obtain ⟨last, hlast, hall⟩ := ih hnodup hrest hseenNext htracks
      refine ⟨last, hnext last hlast, ?_⟩
      rw [List.map_cons, List.reverse_cons, List.append_assoc, List.singleton_append]
      exact hall

/-- The fields of an object are taken one after the other, as long as no key comes again. -/
theorem exists_foldlM_take {α : Type} {take : α → String → Reading → Except Fault α}
    {Tracks : List String → α → Prop} {Field : String → Json → Prop}
    (hstep : ∀ {seen read name j}, Tracks seen read → name ∉ seen → Field name j →
      ∃ next, take read name (.ofJson j) = .ok next ∧ Tracks (name :: seen) next)
    {fields : List (String × Json)} (hnodup : (fields.map Prod.fst).Nodup)
    (hfields : ∀ field ∈ fields, Field field.1 field.2) {read : α} (h : Tracks [] read) :
    ∃ last, (Reading.ofFields fields).foldlM (fun read field => take read field.1 field.2) read =
        .ok last ∧ Tracks (fields.map Prod.fst).reverse last := by
  have hend := exists_end
    (fun read fields last => (Reading.ofFields fields).foldlM
      (fun read field => take read field.1 field.2) read = .ok last)
    (fun _ => rfl) (fun htracks hnew hfield => ?_) hnodup hfields (fun _ _ => List.not_mem_nil) h
  · rwa [List.append_nil] at hend
  · obtain ⟨next, hnext, htracks⟩ := hstep htracks hnew hfield
    refine ⟨next, htracks, fun last hlast => ?_⟩
    rw [Reading.ofFields, List.foldlM_cons, hnext, ok_bind, hlast]

section Conditions

/-- The fields of a condition, as the schema describes them. -/
inductive ConditionField : String → Json → Prop
  | prop (text : String) : ConditionField "prop" (.string text)
  | op (op : ConditionOp) : ConditionField "op" (.string op.name)
  | value {j : Json} {v : ConditionValue} (h : ConditionValue.ofJson? j = some v) :
      ConditionField "value" j
  | isDate (flag : Bool) : ConditionField "isDate" (.bool flag)

theorem Described.condition_fields {depth : Nat} {j : Json}
    (h : Described depth Schema.condition j) :
    ∃ fields, j = .object fields ∧ (∀ name ∈ ["op", "prop", "value"], name ∈ fields.map Prod.fst) ∧
      ∀ field ∈ fields, ConditionField field.1 field.2 := by
  obtain ⟨below, rfl⟩ := h.exists_succ
  rw [Schema.condition, record_iff (by decide)] at h
  obtain ⟨fields, rfl, hrequired, hfields⟩ := h
  refine ⟨fields, rfl, hrequired, fun ⟨name, j⟩ hfield => ?_⟩
  obtain ⟨schema, hschema, hdescribed⟩ := hfields _ hfield
  obtain ⟨below, rfl⟩ := hdescribed.exists_succ
  simp only [List.mem_cons, Prod.mk.injEq, List.not_mem_nil, or_false] at hschema hdescribed ⊢
  rcases hschema with ⟨rfl, rfl⟩ | ⟨rfl, rfl⟩ | ⟨rfl, rfl⟩ | ⟨rfl, rfl⟩
  · have hkind := explainedKind_iff.mp hdescribed
    cases j with
    | bool flag => exact .isDate flag
    | _ => cases hkind
  · obtain ⟨_, -, hop⟩ := hdescribed.of_reference rfl
    obtain ⟨op, rfl⟩ := hop.exists_conditionOp
    exact .op op
  · have hkind := explainedKind_iff.mp hdescribed
    cases j with
    | string text => exact .prop text
    | _ => cases hkind
  · obtain ⟨_, -, hvalue⟩ := hdescribed.of_reference rfl
    obtain ⟨v, hv⟩ := hvalue.exists_value
    exact .value hv

/-- Which fields of a condition have been read: those whose keys have been seen. The operator, once
read, is a known one. -/
structure ConditionFields.Tracks (seen : List String) (read : ConditionFields) : Prop where
  prop : read.prop.isSome = true ↔ "prop" ∈ seen
  op : read.op.isSome = true ↔ "op" ∈ seen
  value : read.value.isSome = true ↔ "value" ∈ seen
  isDate : read.isDate.isSome = true ↔ "isDate" ∈ seen
  known : ∀ op, read.op = some op → ∃ known, ConditionOp.parse op = .ok known

theorem ConditionFields.tracks_none : ConditionFields.none.Tracks [] where
  prop := by simp [none]
  op := by simp [none]
  value := by simp [none]
  isDate := by simp [none]
  known := nofun

theorem eq_none_of_not_mem {α : Type} {part : Option α} {name : String} {seen : List String}
    (h : part.isSome = true ↔ name ∈ seen) (hname : name ∉ seen) : part = none :=
  Option.not_isSome_iff_eq_none.mp fun hsome => hname (h.mp hsome)

/-- A field of a key that has not been seen is taken. -/
theorem ConditionFields.Tracks.take {seen : List String} {read : ConditionFields} {name : String}
    {j : Json} (h : read.Tracks seen) (hname : name ∉ seen) (hfield : ConditionField name j) :
    ∃ next, read.take name (.ofJson j) = .ok next ∧ next.Tracks (name :: seen) := by
  obtain ⟨hprop, hop, hvalue, hisDate, hknown⟩ := h
  cases hfield with
  | prop text =>
      refine ⟨{ read with prop := some text }, ?_, ?_⟩
      · rw [ConditionFields.take, if_pos rfl, eq_none_of_not_mem hprop hname]
        rfl
      · exact ⟨by simp, by simp [hop], by simp [hvalue], by simp [hisDate], hknown⟩
  | op known =>
      refine ⟨{ read with op := some known.name }, ?_, ?_⟩
      · rw [ConditionFields.take, if_neg (by decide), if_pos rfl, eq_none_of_not_mem hop hname]
        rfl
      · refine ⟨by simp [hprop], by simp, by simp [hvalue], by simp [hisDate], ?_⟩
        intro op hread
        cases hread
        exact ⟨known, ConditionOp.parse_eq_ok_iff.mpr rfl⟩
  | @value j v hv =>
      have htake : ConditionValue.take (.ofJson j) = .ok v := takeChoice_ofJson hv
      refine ⟨{ read with value := some v }, ?_, ?_⟩
      · rw [ConditionFields.take, if_neg (by decide), if_neg (by decide), if_pos rfl,
          eq_none_of_not_mem hvalue hname, setOnce_none _ htake]
        rfl
      · exact ⟨by simp [hprop], by simp [hop], by simp, by simp [hisDate], hknown⟩
  | isDate flag =>
      refine ⟨{ read with isDate := some flag }, ?_, ?_⟩
      · rw [ConditionFields.take, if_neg (by decide), if_neg (by decide), if_neg (by decide),
          if_pos rfl, eq_none_of_not_mem hisDate hname]
        rfl
      · exact ⟨by simp [hprop], by simp [hop], by simp [hvalue], by simp, hknown⟩

theorem Described.exists_condition {depth : Nat} {j : Json}
    (h : Described depth Schema.condition j) (hkeys : j.KeysDistinct) :
    ∃ c, Condition.take (.ofJson j) = .ok c ∧ ∃ op, ConditionOp.parse c.op = .ok op := by
  obtain ⟨fields, rfl, hrequired, hfields⟩ := h.condition_fields
  cases hkeys with
  | object hnodup _ =>
      obtain ⟨last, hlast, htracks⟩ :=
        exists_foldlM_take ConditionFields.Tracks.take hnodup hfields ConditionFields.tracks_none
      have hread (name : String) (hname : name ∈ ["op", "prop", "value"]) :
          name ∈ (fields.map Prod.fst).reverse :=
        List.mem_reverse.mpr (hrequired name hname)
      obtain ⟨prop, hprop⟩ := Option.isSome_iff_exists.mp
        (htracks.prop.mpr (hread "prop" (by decide)))
      obtain ⟨op, hop⟩ := Option.isSome_iff_exists.mp (htracks.op.mpr (hread "op" (by decide)))
      obtain ⟨value, hvalue⟩ := Option.isSome_iff_exists.mp
        (htracks.value.mpr (hread "value" (by decide)))
      refine ⟨⟨prop, op, value, last.isDate.getD false⟩, ?_, htracks.known op hop⟩
      rw [Condition.take, Reading.ofJson, takeRecord, takeFields, hlast]
      simp only [ok_bind, pure_eq_ok, ConditionFields.finish, hprop, hop, hvalue, needField]

end Conditions

section Nodes

/-- The fields of a node, as the schema describes them. -/
inductive NodeField : String → Json → Prop
  | op (op : ExpressionOp) : NodeField "op" (.string op.name)
  | slot {name : String} {j : Json} {s : Slot} (hname : name ∈ ["condition", "left", "right"])
      (h : Slot.ofJson? j = some s) (hknown : s.OperatorsKnown) : NodeField name j

/-- Which fields of a node have been read: those whose keys have been seen. What has been read has
known operators only. -/
structure NodeFields.Tracks (seen : List String) (read : NodeFields) : Prop where
  op : read.op.isSome = true ↔ "op" ∈ seen
  condition : read.condition.isSome = true ↔ "condition" ∈ seen
  left : read.left.isSome = true ↔ "left" ∈ seen
  right : read.right.isSome = true ↔ "right" ∈ seen
  known : ∀ op, read.op = some op → ∃ known, ExpressionOp.parse op = .ok known
  slots : ∀ slot ∈ [read.condition, read.left, read.right], (slot.getD .empty).OperatorsKnown

theorem NodeFields.tracks_none : NodeFields.none.Tracks [] where
  op := by simp [none]
  condition := by simp [none]
  left := by simp [none]
  right := by simp [none]
  known := nofun
  slots := by simp [none, Slot.OperatorsKnown]

theorem NodeFields.Tracks.set? {seen : List String} {read : NodeFields} {name : String} {j : Json}
    (h : read.Tracks seen) (hname : name ∉ seen) (hfield : NodeField name j) :
    ∃ next, next.Tracks (name :: seen) ∧
      read.set? name (stringOf? j) (Slot.ofJson? j) = some next := by
  obtain ⟨hop, hcondition, hleft, hright, hknown, hslots⟩ := h
  simp only [List.forall_mem_cons, List.not_mem_nil, false_implies, implies_true, and_true]
    at hslots
  obtain ⟨hknownCondition, hknownLeft, hknownRight⟩ := hslots
  cases hfield with
  | op known =>
      refine ⟨{ read with op := some known.name }, ?_, ?_⟩
      · refine ⟨by simp, by simp [hcondition], by simp [hleft], by simp [hright], ?_, ?_⟩
        · intro op hread
          cases hread
          exact ⟨known, ExpressionOp.parse_eq_ok_iff.mpr rfl⟩
        · simp [hknownCondition, hknownLeft, hknownRight]
      · rw [NodeFields.set?, if_pos rfl, eq_none_of_not_mem hop hname]
        rfl
  | @slot name j s hslot hs hknownSlot =>
      simp only [List.mem_cons, List.not_mem_nil, or_false] at hslot
      rcases hslot with rfl | rfl | rfl
      · refine ⟨{ read with condition := some s }, ?_, ?_⟩
        · refine ⟨by simp [hop], by simp, by simp [hleft], by simp [hright], hknown, ?_⟩
          simp [hknownSlot, hknownLeft, hknownRight]
        · rw [NodeFields.set?, if_neg (by decide), if_pos rfl, eq_none_of_not_mem hcondition hname,
            hs]
          rfl
      · refine ⟨{ read with left := some s }, ?_, ?_⟩
        · refine ⟨by simp [hop], by simp [hcondition], by simp, by simp [hright], hknown, ?_⟩
          simp [hknownSlot, hknownCondition, hknownRight]
        · rw [NodeFields.set?, if_neg (by decide), if_neg (by decide), if_pos rfl,
            eq_none_of_not_mem hleft hname, hs]
          rfl
      · refine ⟨{ read with right := some s }, ?_, ?_⟩
        · refine ⟨by simp [hop], by simp [hcondition], by simp [hleft], by simp, hknown, ?_⟩
          simp [hknownSlot, hknownCondition, hknownLeft]
        · rw [NodeFields.set?, if_neg (by decide), if_neg (by decide), if_neg (by decide),
            if_pos rfl, eq_none_of_not_mem hright hname, hs]
          rfl

/-- An object whose fields are those of a node is one. -/
theorem exists_node_of_fields {fields : List (String × Json)}
    (hnodup : (fields.map Prod.fst).Nodup) (hop : "op" ∈ fields.map Prod.fst)
    (hfields : ∀ field ∈ fields, NodeField field.1 field.2) :
    ∃ read e, nodeOfFields? .none fields = some read ∧ read.node? = some e ∧
      e.toSlot.OperatorsKnown := by
  obtain ⟨last, hlast, htracks⟩ := exists_end
    (fun read fields last => nodeOfFields? read fields = some last) (fun _ => rfl)
    (fun htracks hnew hfield => by
      obtain ⟨next, hnext, hset⟩ := htracks.set? hnew hfield
      refine ⟨next, hnext, fun last hlast => ?_⟩
      rw [nodeOfFields?, hset, Option.bind_some, hlast])
    hnodup hfields (fun _ _ => List.not_mem_nil) NodeFields.tracks_none
  rw [List.append_nil] at htracks
  obtain ⟨op, hread⟩ := Option.isSome_iff_exists.mp (htracks.op.mpr (List.mem_reverse.mpr hop))
  refine ⟨last, _, hlast, by rw [NodeFields.node?, hread]; rfl, ?_⟩
  have hslots := htracks.slots
  simp only [List.forall_mem_cons, List.not_mem_nil, false_implies, implies_true, and_true]
    at hslots
  exact ⟨htracks.known op hread, hslots⟩

theorem Described.expression_fields {depth : Nat} {j : Json}
    (h : Described depth Schema.expression j) :
    ∃ below < depth, ∃ fields, j = .object fields ∧ "op" ∈ fields.map Prod.fst ∧
      ∀ field ∈ fields, (field.1 = "op" ∧ ∃ op : ExpressionOp, field.2 = .string op.name) ∨
        (field.1 ∈ ["condition", "left", "right"] ∧ Described below Schema.slot field.2) := by
  obtain ⟨below, rfl⟩ := h.exists_succ
  rw [Schema.expression, record_iff (by decide)] at h
  obtain ⟨fields, rfl, hrequired, hfields⟩ := h
  refine ⟨below, Nat.lt_succ_self below, fields, rfl, hrequired "op" (by decide),
    fun ⟨name, j⟩ hfield => ?_⟩
  obtain ⟨schema, hschema, hdescribed⟩ := hfields _ hfield
  simp only [List.mem_cons, Prod.mk.injEq, List.not_mem_nil, or_false] at hschema hdescribed ⊢
  rcases hschema with ⟨rfl, rfl⟩ | ⟨rfl, rfl⟩ | ⟨rfl, rfl⟩ | ⟨rfl, rfl⟩
  · exact Or.inr ⟨by simp, hdescribed⟩
  · exact Or.inr ⟨by simp, hdescribed⟩
  · obtain ⟨_, -, hop⟩ := hdescribed.of_reference rfl
    obtain ⟨below, rfl⟩ := hop.exists_succ
    exact Or.inl ⟨rfl, expressionOp_iff.mp hop⟩
  · exact Or.inr ⟨by simp, hdescribed⟩

/-- What may stand in a slot. -/
theorem Described.slot_cases {depth : Nat} {j : Json} (h : Described depth Schema.slot j) :
    j = .null ∨ (∃ name, j = .string name) ∨
      ∃ below < depth, Described below Schema.expression j := by
  obtain ⟨below, rfl⟩ := h.exists_succ
  rcases slot_iff.mp h with hoperand | hnull
  · obtain ⟨depth, hdepth, hoperand⟩ := hoperand.of_reference rfl
    obtain ⟨next, rfl⟩ := hoperand.exists_succ
    rcases operand_iff.mp hoperand with hstring | hnode
    · have hkind := hstring.of_kind
      cases j with
      | string name => exact Or.inr (Or.inl ⟨name, rfl⟩)
      | _ => cases hkind
    · obtain ⟨last, hlast, hnode⟩ := hnode.of_reference rfl
      exact Or.inr (Or.inr ⟨last, by omega, hnode⟩)
  · have hkind := hnull.of_kind
    cases j with
    | null => exact Or.inl rfl
    | _ => cases hkind

theorem Slot.ofJson?_object {fields : List (String × Json)} {read : NodeFields} {e : Expression}
    (hread : nodeOfFields? .none fields = some read) (he : read.node? = some e) :
    Slot.ofJson? (.object fields) = some e.toSlot := by
  rw [Slot.ofJson?, hread, Option.bind_some, NodeFields.slot?, he, Option.map_some]

/-- What stands in a slot is a slot, if the node below is one. -/
theorem Described.slot_field {depth : Nat} {name : String} {j : Json}
    (h : Described depth Schema.slot j) (hname : name ∈ ["condition", "left", "right"])
    (hnode : ∀ below < depth, Described below Schema.expression j →
      ∃ s, Slot.ofJson? j = some s ∧ s.OperatorsKnown) : NodeField name j := by
  rcases h.slot_cases with rfl | ⟨named, rfl⟩ | ⟨below, hbelow, hdescribed⟩
  · have hslot : Slot.ofJson? .null = some .empty := rfl
    exact .slot hname hslot trivial
  · have hslot : Slot.ofJson? (.string named) = some (.name named) := rfl
    exact .slot hname hslot trivial
  · obtain ⟨s, hslot, hknown⟩ := hnode below hbelow hdescribed
    exact .slot hname hslot hknown

/-- Each node within is described at less depth. -/
theorem Described.exists_node {depth : Nat} {j : Json} (h : Described depth Schema.expression j)
    (hkeys : j.KeysDistinct) :
    ∃ fields read e, j = .object fields ∧ nodeOfFields? .none fields = some read ∧
      read.node? = some e ∧ e.toSlot.OperatorsKnown := by
  induction depth using Nat.strongRecOn generalizing j with
  | ind depth ih =>
      obtain ⟨below, hbelow, fields, rfl, hop, hfields⟩ := h.expression_fields
      cases hkeys with
      | object hnodup hkeys =>
          have hnode : ∀ field ∈ fields, NodeField field.1 field.2 := by
            rintro ⟨name, j⟩ hfield
            rcases hfields _ hfield with ⟨rfl, op, rfl⟩ | ⟨hname, hslot⟩
            · exact .op op
            · refine hslot.slot_field hname fun next hnext hnested => ?_
              obtain ⟨inner, read, e, rfl, hread, he, hknown⟩ :=
                ih next (Nat.lt_trans hnext hbelow) hnested (hkeys _ hfield)
              exact ⟨e.toSlot, Slot.ofJson?_object hread he, hknown⟩
          obtain ⟨read, e, hread, he, hknown⟩ := exists_node_of_fields hnodup hop hnode
          exact ⟨fields, read, e, rfl, hread, he, hknown⟩

theorem Described.exists_expression {depth : Nat} {j : Json}
    (h : Described depth Schema.expression j) (hkeys : j.KeysDistinct) :
    ∃ e, Expression.take (.ofJson j) = .ok e ∧ e.toSlot.OperatorsKnown := by
  obtain ⟨fields, read, e, rfl, hread, he, hknown⟩ := h.exists_node hkeys
  exact ⟨e, Expression.take_object hread he, hknown⟩

end Nodes

section Tables

/-- An object is taken as a table if all of its fields are taken, and has then what they have. -/
theorem exists_takeDict {α : Type} {take : Reading → Except Fault α} {P : α → Prop}
    {fields : List (String × Json)}
    (h : ∀ field ∈ fields, ∃ a, take (.ofJson field.2) = .ok a ∧ P a) :
    ∃ dict, takeDict take (.ofJson (.object fields)) = .ok dict ∧
      ∀ entry ∈ dict.entries, P entry.2 := by
  have hfold (dict : Dict α) (hdict : ∀ entry ∈ dict.entries, P entry.2) :
      ∃ last, (Reading.ofFields fields).foldlM
          (fun dict field => (take field.2).map (dict.insert field.1)) dict = .ok last ∧
        ∀ entry ∈ last.entries, P entry.2 := by
    induction fields generalizing dict with
    | nil => exact ⟨dict, rfl, hdict⟩
    | cons field fields ih =>
        obtain ⟨⟨a, ha, hP⟩, hfields⟩ := List.forall_mem_cons.mp h
        have hinsert : ∀ entry ∈ (dict.insert field.1 a).entries, P entry.2 := by
          rintro ⟨name, value⟩ hentry
          rcases Dict.mem_entries_insert.mp hentry with ⟨-, rfl⟩ | ⟨-, hold⟩
          · exact hP
          · exact hdict _ hold
        obtain ⟨last, hlast, hall⟩ := ih hfields (dict.insert field.1 a) hinsert
        refine ⟨last, ?_, hall⟩
        rw [Reading.ofFields, List.foldlM_cons, ha]
        exact hlast
  obtain ⟨last, hlast, hall⟩ := hfold .empty (List.forall_mem_nil _)
  refine ⟨last, ?_, hall⟩
  rw [Reading.ofJson, takeDict, takeFields, hlast]
  rfl

/-- A table is taken if everything is that the schema of its entries describes. -/
theorem Described.exists_table {α : Type} {take : Reading → Except Fault α} {P : α → Prop}
    {depth : Nat} {name : String} {schema : Schema} {j : Json}
    (hname : Schema.book.definitions.lookup name = some schema)
    (h : Described depth (table name) j) (hkeys : j.KeysDistinct)
    (htake : ∀ {depth j}, Described depth schema j → j.KeysDistinct →
      ∃ a, take (.ofJson j) = .ok a ∧ P a) :
    ∃ dict, takeDict take (.ofJson j) = .ok dict ∧ ∀ entry ∈ dict.entries, P entry.2 := by
  obtain ⟨below, rfl⟩ := h.exists_succ
  obtain ⟨entries, rfl, hentries⟩ := table_iff.mp h
  cases hkeys with
  | object _ hkeys =>
      refine exists_takeDict fun entry hentry => ?_
      obtain ⟨_, -, hdescribed⟩ := (hentries entry hentry).of_reference hname
      exact htake hdescribed (hkeys entry hentry)

/-- The fields of a definition, as the schema describes them. -/
inductive DefinitionField : String → Json → Prop
  | expressions {j : Json} {dict : Dict Expression}
      (h : takeDict Expression.take (.ofJson j) = .ok dict)
      (hknown : ∀ entry ∈ dict.entries, entry.2.toSlot.OperatorsKnown) :
      DefinitionField "expressions" j
  | conditions {j : Json} {dict : Dict Condition}
      (h : takeDict Condition.take (.ofJson j) = .ok dict)
      (hknown : ∀ entry ∈ dict.entries, ∃ op, ConditionOp.parse entry.2.op = .ok op) :
      DefinitionField "conditions" j

/-- Which fields of a definition have been read, all of them with known operators only. -/
structure DefinitionFields.Tracks (seen : List String) (read : DefinitionFields) : Prop where
  expressions : read.expressions.isSome = true ↔ "expressions" ∈ seen
  conditions : read.conditions.isSome = true ↔ "conditions" ∈ seen
  known : Definition.OperatorsKnown ⟨read.expressions.getD .empty, read.conditions.getD .empty⟩

theorem DefinitionFields.tracks_none : DefinitionFields.none.Tracks [] where
  expressions := by simp [none]
  conditions := by simp [none]
  known := ⟨List.forall_mem_nil _, List.forall_mem_nil _⟩

theorem DefinitionFields.Tracks.take {seen : List String} {read : DefinitionFields} {name : String}
    {j : Json} (h : read.Tracks seen) (hname : name ∉ seen) (hfield : DefinitionField name j) :
    ∃ next, read.take name (.ofJson j) = .ok next ∧ next.Tracks (name :: seen) := by
  obtain ⟨hexpressions, hconditions, hknown⟩ := h
  cases hfield with
  | @expressions j dict htake hdict =>
      refine ⟨{ read with expressions := some dict }, ?_, ?_⟩
      · rw [DefinitionFields.take, if_pos rfl, eq_none_of_not_mem hexpressions hname,
          setOnce_none _ htake]
        rfl
      · exact ⟨by simp, by simp [hconditions], hdict, hknown.conditions⟩
  | @conditions j dict htake hdict =>
      refine ⟨{ read with conditions := some dict }, ?_, ?_⟩
      · rw [DefinitionFields.take, if_neg (by decide), if_pos rfl,
          eq_none_of_not_mem hconditions hname, setOnce_none _ htake]
        rfl
      · exact ⟨by simp [hexpressions], by simp, hknown.expressions, hdict⟩

theorem exists_definitionField {depth : Nat} {name : String} {schema : Schema} {j : Json}
    (hschema : (name, schema) ∈
      [("conditions", table "Condition"), ("expressions", table "Expression")])
    (hdescribed : Described depth schema j) (hkeys : j.KeysDistinct) : DefinitionField name j := by
  simp only [List.mem_cons, Prod.mk.injEq, List.not_mem_nil, or_false] at hschema
  rcases hschema with ⟨rfl, rfl⟩ | ⟨rfl, rfl⟩
  · obtain ⟨dict, htake, hknown⟩ :=
      hdescribed.exists_table rfl hkeys Described.exists_condition
    exact .conditions htake hknown
  · obtain ⟨dict, htake, hknown⟩ :=
      hdescribed.exists_table rfl hkeys Described.exists_expression
    exact .expressions htake hknown

/-- A valid document without repeated keys is taken as a definition. -/
theorem exists_definition {j : Json} (h : Valid Schema.book.toJson j) (hkeys : j.KeysDistinct) :
    ∃ d, Definition.take (.ofJson j) = .ok d ∧ d.OperatorsKnown := by
  obtain ⟨enough, henough⟩ := h
  obtain ⟨fields, rfl, hfields⟩ := Described.root_iff.mp (henough (enough + 1) (Nat.le_succ _))
  cases hkeys with
  | object hnodup hkeys =>
      have hfield : ∀ field ∈ fields, DefinitionField field.1 field.2 := by
        intro field hmem
        obtain ⟨schema, hschema, hdescribed⟩ := hfields field hmem
        exact exists_definitionField hschema hdescribed (hkeys field hmem)
      obtain ⟨last, hlast, htracks⟩ := exists_foldlM_take DefinitionFields.Tracks.take hnodup hfield
        DefinitionFields.tracks_none
      refine ⟨_, ?_, htracks.known⟩
      rw [Definition.take, Reading.ofJson, takeRecord, takeFields, hlast]
      rfl

end Tables

end FilterBook
