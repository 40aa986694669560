import FilterBook.Load
import FilterBook.Proofs.Resolution
import FilterBook.Proofs.Scanning

/-!
A definition that is written as JSON reads back as it was. The document says of every value and of
every operand what it is, by its form; and the reader of a node that goes through its text takes
what the reader of a whole document takes.
-/

namespace FilterBook

open Json Outcome

namespace Json.Reading

mutual

/-- The reading of a document is the whole of it. -/
theorem complete_ofJson : (j : Json) → (ofJson j).complete = .ok j
  | .null => rfl
  | .bool _ => rfl
  | .number _ => rfl
  | .string _ => rfl
  | .array items => by
      rw [ofJson, complete, completeItems_ofItems items]
      rfl
  | .object fields => by
      rw [ofJson, complete, completeFields_ofFields fields]
      rfl

theorem completeItems_ofItems : (items : List Json) → completeItems (ofItems items) = .ok items
  | [] => rfl
  | item :: items => by
      rw [ofItems, completeItems, complete_ofJson item, completeItems_ofItems items]
      rfl

theorem completeFields_ofFields :
    (fields : List (String × Json)) → completeFields (ofFields fields) = .ok fields
  | [] => rfl
  | field :: fields => by
      rw [ofFields, completeFields, complete_ofJson field.2, completeFields_ofFields fields]
      rfl

end

end Json.Reading

/-- A part that is told by its form is taken from a document as it is read off the document. -/
theorem takeChoice_ofJson {α : Type} {choice : String} {ofJson? : Json → Option α} {j : Json}
    {value : α} (h : ofJson? j = some value) :
    takeChoice choice ofJson? (.ofJson j) = .ok value := by
  rw [takeChoice, Reading.asJson, Reading.complete_ofJson, ok_bind, h]
  rfl

theorem setOnce_none {α : Type} (name : String) {take : Except Fault α} {value : α}
    (h : take = .ok value) : setOnce name none take = .ok (some value) := by
  rw [setOnce, h]
  rfl

section Values

theorem Scalar.ofJson?_toJson (s : Scalar) : Scalar.ofJson? s.toJson = some s := by
  cases s <;> rfl

/-- A value keeps its kind: a list stays a list, and a scalar the scalar that it is. -/
theorem ConditionValue.ofJson?_toJson (v : ConditionValue) :
    ConditionValue.ofJson? v.toJson = some v := by
  cases v with
  | scalar value => cases value <;> rfl
  | list values =>
      have hvalues : (values.map Scalar.toJson).mapM Scalar.ofJson? = some values := by
        induction values with
        | nil => rfl
        | cons value values ih =>
            rw [List.map_cons, List.mapM_cons, Scalar.ofJson?_toJson, ih]
            rfl
      rw [toJson, ofJson?, hvalues]
      rfl

theorem Condition.take_toJson (c : Condition) : Condition.take (.ofJson c.toJson) = .ok c := by
  obtain ⟨prop, op, value, isDate⟩ := c
  have hprop : ConditionFields.none.take "prop" (.string prop) =
      .ok ⟨some prop, none, none, none⟩ := rfl
  have hop : ConditionFields.take ⟨some prop, none, none, none⟩ "op" (.string op) =
      .ok ⟨some prop, some op, none, none⟩ := rfl
  have hvalue : ConditionFields.take ⟨some prop, some op, none, none⟩ "value"
      (.ofJson value.toJson) = .ok ⟨some prop, some op, some value, none⟩ := by
    have htake : ConditionValue.take (.ofJson value.toJson) = .ok value :=
      takeChoice_ofJson value.ofJson?_toJson
    rw [ConditionFields.take, if_neg (by decide), if_neg (by decide), if_pos rfl,
      setOnce_none _ htake]
    rfl
  rw [toJson, Condition.take, Reading.ofJson, takeRecord, takeFields]
  -- The flag is written only where it is set.
  cases isDate with
  | false =>
      simp only [List.cons_append, Reading.ofFields, Reading.ofJson, List.foldlM_cons, hprop, hop,
        hvalue, ok_bind]
      rfl
  | true =>
      simp only [List.cons_append, Reading.ofFields, Reading.ofJson, List.foldlM_cons, hprop, hop,
        hvalue, ok_bind]
      rfl

end Values

section Slots

/-- What is read of a slot: nothing, where it is left out. -/
def Slot.filled? (s : Slot) : Option Slot :=
  if s.isEmpty then none else some s

theorem Slot.getD_filled? (s : Slot) : s.filled?.getD .empty = s := by
  cases s <;> rfl

theorem nodeOfFields?_append (read : NodeFields) (fields others : List (String × Json)) :
    nodeOfFields? read (fields ++ others) =
      (nodeOfFields? read fields).bind fun read => nodeOfFields? read others := by
  induction fields generalizing read with
  | nil => rw [List.nil_append, nodeOfFields?, Option.bind_some]
  | cons field fields ih =>
      rw [List.cons_append, nodeOfFields?, nodeOfFields?, Option.bind_assoc]
      simp only [ih]

/-- The field of a slot sets that slot, and no other. -/
theorem nodeOfFields?_slotField {s : Slot} (hslot : Slot.ofJson? s.toJson = some s) (name : String)
    {read : NodeFields} (next : Option Slot → NodeFields) (hnone : next none = read)
    (hset : ∀ text, read.set? name text (some s) = some (next (some s))) :
    nodeOfFields? read (slotField name s s.toJson) = some (next s.filled?) := by
  unfold slotField Slot.filled?
  split
  · rw [nodeOfFields?, hnone]
  · rw [nodeOfFields?, hslot, hset, Option.bind_some, nodeOfFields?]

/-- What is read of the fields of a node: its operator, and the slots that are filled. -/
theorem nodeOfFields?_fields (op : String) {condition left right : Slot}
    (hcondition : Slot.ofJson? condition.toJson = some condition)
    (hleft : Slot.ofJson? left.toJson = some left)
    (hright : Slot.ofJson? right.toJson = some right) :
    nodeOfFields? .none (("op", .string op) :: (slotField "condition" condition condition.toJson ++
      (slotField "left" left left.toJson ++ slotField "right" right right.toJson))) =
      some ⟨some op, condition.filled?, left.filled?, right.filled?⟩ := by
  have hop : NodeFields.none.set? "op" (stringOf? (.string op)) (Slot.ofJson? (.string op)) =
      some ⟨some op, none, none, none⟩ := rfl
  have hfirst := nodeOfFields?_slotField hcondition "condition"
    (fun slot => ⟨some op, slot, none, none⟩) rfl fun _ => rfl
  have hsecond := nodeOfFields?_slotField hleft "left"
    (fun slot => ⟨some op, condition.filled?, slot, none⟩) rfl fun _ => rfl
  have hthird := nodeOfFields?_slotField hright "right"
    (fun slot => ⟨some op, condition.filled?, left.filled?, slot⟩) rfl fun _ => rfl
  rw [nodeOfFields?, hop, Option.bind_some, nodeOfFields?_append, hfirst, Option.bind_some,
    nodeOfFields?_append, hsecond, Option.bind_some, hthird]

/-- An operand keeps its form: the name of a condition stays a name, and a node a node. -/
theorem Slot.ofJson?_toJson (s : Slot) : Slot.ofJson? s.toJson = some s := by
  induction s with
  | empty => rfl
  | name named => rfl
  | node op condition left right hcondition hleft hright =>
      rw [toJson, ofJson?, nodeOfFields?_fields op hcondition hleft hright, Option.bind_some,
        NodeFields.slot?, NodeFields.node?]
      simp only [getD_filled?, Option.map_some]
      rfl

end Slots

section Nodes

theorem NodeFields.operand?_of_slot? {read : NodeFields} {s : Slot} (h : read.slot? = some s) :
    ∃ operand, s.operand? = some operand ∧ operand.toSlot = s := by
  rw [slot?, Option.map_eq_some_iff] at h
  obtain ⟨e, -, rfl⟩ := h
  exact ⟨.node e, rfl, rfl⟩

/-- A slot is filled by whatever is not `null`. -/
theorem Slot.operand?_of_ofJson? {j : Json} {s : Slot} (h : Slot.ofJson? j = some s)
    (hnull : j ≠ .null) : ∃ operand, s.operand? = some operand ∧ operand.toSlot = s := by
  cases j with
  | null => exact absurd rfl hnull
  | bool value => cases h
  | number value => cases h
  | string text =>
      cases h
      exact ⟨.name text, rfl, rfl⟩
  | array items =>
      rw [Slot.ofJson?, Option.bind_eq_some_iff] at h
      obtain ⟨read, -, hread⟩ := h
      exact NodeFields.operand?_of_slot? hread
  | object fields =>
      rw [Slot.ofJson?, Option.bind_eq_some_iff] at h
      obtain ⟨read, -, hread⟩ := h
      exact NodeFields.operand?_of_slot? hread

theorem Slot.take_ofJson {j : Json} {s : Slot} (h : Slot.ofJson? j = some s) :
    Slot.take (.ofJson j) = .ok s := by
  by_cases hnull : j = .null
  · subst hnull
    cases h
    rfl
  · obtain ⟨operand, hoperand, hslot⟩ := Slot.operand?_of_ofJson? h hnull
    have hform : Operand.ofJson? j = some operand := by
      rw [Operand.ofJson?, h, Option.bind_some, hoperand]
    have htake : Operand.take (.ofJson j) = .ok operand := takeChoice_ofJson hform
    have hreading : Slot.take (.ofJson j) =
        (Operand.take (.ofJson j) >>= fun operand => pure operand.toSlot) := by
      cases j with
      | null => exact absurd rfl hnull
      | bool value => rfl
      | number value => rfl
      | string text => rfl
      | array items => rfl
      | object fields => rfl
    rw [hreading, htake, ok_bind, hslot]
    rfl

/-- A field that sets a part which was not set. -/
theorem eq_none_of_set {α β γ : Type} {old : Option α} {part : Option β} {set : β → γ} {next : γ}
    (h : (if old.isSome then none else part.map set) = some next) :
    old = none ∧ ∃ value, part = some value ∧ set value = next := by
  cases old with
  | some value => simp at h
  | none => simpa using h

/-- The reader of a node in a document takes a field as the reader of a node by its form does. -/
theorem NodeFields.take_of_set? {read next : NodeFields} {name : String} {j : Json}
    (h : read.set? name (stringOf? j) (Slot.ofJson? j) = some next) :
    read.take name (.ofJson j) = .ok next := by
  unfold NodeFields.set? at h
  unfold NodeFields.take
  by_cases hop : name = "op"
  · rw [if_pos hop] at h ⊢
    obtain ⟨hfree, op, htext, rfl⟩ := eq_none_of_set h
    have htake : (Reading.ofJson j).asString = .ok op := by
      cases j <;> cases htext
      rfl
    rw [hfree, setOnce_none name htake]
    rfl
  rw [if_neg hop] at h ⊢
  by_cases hcondition : name = "condition"
  · rw [if_pos hcondition] at h ⊢
    obtain ⟨hfree, slot, hslot, rfl⟩ := eq_none_of_set h
    rw [hfree, setOnce_none name (Slot.take_ofJson hslot)]
    rfl
  rw [if_neg hcondition] at h ⊢
  by_cases hleft : name = "left"
  · rw [if_pos hleft] at h ⊢
    obtain ⟨hfree, slot, hslot, rfl⟩ := eq_none_of_set h
    rw [hfree, setOnce_none name (Slot.take_ofJson hslot)]
    rfl
  rw [if_neg hleft] at h ⊢
  by_cases hright : name = "right"
  · rw [if_pos hright] at h ⊢
    obtain ⟨hfree, slot, hslot, rfl⟩ := eq_none_of_set h
    rw [hfree, setOnce_none name (Slot.take_ofJson hslot)]
    rfl
  · rw [if_neg hright] at h
    cases h

theorem NodeFields.foldlM_take {read next : NodeFields} {fields : List (String × Json)}
    (h : nodeOfFields? read fields = some next) :
    (Reading.ofFields fields).foldlM (fun read field => read.take field.1 field.2) read =
      .ok next := by
  induction fields generalizing read with
  | nil =>
      cases h
      rfl
  | cons field fields ih =>
      rw [nodeOfFields?, Option.bind_eq_some_iff] at h
      obtain ⟨after, hfield, hfields⟩ := h
      rw [Reading.ofFields, List.foldlM_cons, NodeFields.take_of_set? hfield, ok_bind, ih hfields]

theorem NodeFields.finish_of_node? {read : NodeFields} {e : Expression} (length : Option Nat)
    (h : read.node? = some e) : NodeFields.finish length read = .ok e := by
  rw [node?, Option.map_eq_some_iff] at h
  obtain ⟨op, hop, rfl⟩ := h
  rw [finish, hop]
  rfl

/-- An object with the fields of a node is taken as the node that it is by its form. -/
theorem Expression.take_object {fields : List (String × Json)} {read : NodeFields} {e : Expression}
    (hread : nodeOfFields? .none fields = some read) (hnode : read.node? = some e) :
    Expression.take (.ofJson (.object fields)) = .ok e := by
  have htake : takeFields NodeFields.take .none (Reading.ofFields fields) none = .ok read := by
    rw [takeFields, NodeFields.foldlM_take hread]
    rfl
  rw [Expression.take, Reading.ofJson, takeRecord, htake, ok_bind]
  exact NodeFields.finish_of_node? _ hnode

theorem Expression.take_toJson (e : Expression) : Expression.take (.ofJson e.toJson) = .ok e := by
  have hread := nodeOfFields?_fields e.op e.condition.ofJson?_toJson
    e.left.ofJson?_toJson e.right.ofJson?_toJson
  refine Expression.take_object hread ?_
  simp only [NodeFields.node?, Slot.getD_filled?, Option.map_some]

end Nodes

section Dictionaries

variable {α : Type} {take : Reading → Except Fault α} {json : α → Json}

theorem foldlM_insert {entries : List (String × α)}
    (h : ∀ entry ∈ entries, take (.ofJson (json entry.2)) = .ok entry.2) (d : Dict α) :
    (Reading.ofFields (entries.map fun entry => (entry.1, json entry.2))).foldlM
      (fun dict field => (take field.2).map (dict.insert field.1)) d =
      .ok (d.insertAll entries) := by
  induction entries generalizing d with
  | nil => rfl
  | cons entry entries ih =>
      obtain ⟨hentry, hentries⟩ := List.forall_mem_cons.mp h
      rw [List.map_cons, Reading.ofFields, List.foldlM_cons, hentry]
      exact ih hentries (d.insert entry.1 entry.2)

/-- A dictionary is taken with its order from the object of its entries. -/
theorem takeDict_ofJson {d : Dict α}
    (h : ∀ entry ∈ d.entries, take (.ofJson (json entry.2)) = .ok entry.2) :
    takeDict take (.ofJson (.object (d.entries.map fun entry => (entry.1, json entry.2)))) =
      .ok d := by
  rw [Reading.ofJson, takeDict, takeFields, foldlM_insert h, ok_bind]
  exact congrArg Except.ok d.ofList_entries

theorem Definition.take_toJson (d : Definition) : Definition.take (.ofJson d.toJson) = .ok d := by
  have hexpressions : takeDict Expression.take (.ofJson (.object
      (d.expressions.entries.map fun entry => (entry.1, entry.2.toJson)))) = .ok d.expressions :=
    takeDict_ofJson fun entry _ => entry.2.take_toJson
  have hconditions : takeDict Condition.take (.ofJson (.object
      (d.conditions.entries.map fun entry => (entry.1, entry.2.toJson)))) = .ok d.conditions :=
    takeDict_ofJson fun entry _ => entry.2.take_toJson
  have hfirst : DefinitionFields.none.take "expressions" (.ofJson (.object
      (d.expressions.entries.map fun entry => (entry.1, entry.2.toJson)))) =
      .ok ⟨some d.expressions, none⟩ := by
    rw [DefinitionFields.take, if_pos rfl, DefinitionFields.none, setOnce_none _ hexpressions]
    rfl
  have hsecond : DefinitionFields.take ⟨some d.expressions, none⟩ "conditions" (.ofJson (.object
      (d.conditions.entries.map fun entry => (entry.1, entry.2.toJson)))) =
      .ok ⟨some d.expressions, some d.conditions⟩ := by
    rw [DefinitionFields.take, if_neg (by decide), if_pos rfl, setOnce_none _ hconditions]
    rfl
  rw [toJson, Definition.take, Reading.ofJson, takeRecord, takeFields]
  simp only [Reading.ofFields, List.foldlM_cons, hfirst, ok_bind, hsecond]
  rfl

end Dictionaries

section Levels

/-- Whole numbers, as against doubles. -/
def Number.IsWhole : Number → Prop
  | .integer _ _ => True
  | .double _ => False

instance : DecidablePred Number.IsWhole
  | .integer _ _ => isTrue trivial
  | .double _ => isFalse id

def Scalar.IsWhole : Scalar → Prop
  | .number value => value.IsWhole
  | _ => True

instance : DecidablePred Scalar.IsWhole
  | .bool _ => isTrue trivial
  | .number value => inferInstanceAs (Decidable value.IsWhole)
  | .string _ => isTrue trivial

/-- The numbers of a definition are whole. -/
def Definition.WholeNumbers (d : Definition) : Prop :=
  ∀ entry ∈ d.conditions.entries, ∀ s ∈ entry.2.value.scalars, s.IsWhole

instance (d : Definition) : Decidable d.WholeNumbers :=
  inferInstanceAs (Decidable (∀ entry ∈ d.conditions.entries,
    ∀ s ∈ entry.2.value.scalars, s.IsWhole))

theorem Scalar.fits {s : Scalar} (h : s.IsWhole) (levels : Nat) : Fits levels s.toJson := by
  cases s with
  | bool value => exact .bool value
  | string text => exact .string text
  | number value =>
      cases value with
      | integer value fits => exact .integer value fits
      | double value => cases h

theorem fits_slotField {levels : Nat} {name : String} {s : Slot} {field : String × Json}
    (h : Fits levels s.toJson) (hfield : field ∈ slotField name s s.toJson) :
    Fits levels field.2 := by
  unfold slotField at hfield
  split at hfield
  · cases hfield
  · rw [List.mem_singleton] at hfield
    subst hfield
    exact h

/-- An operand is written in as many levels as it has nodes on its longest way down. -/
theorem Slot.fits {s : Slot} {levels : Nat} (h : s.depth ≤ levels) : Fits levels s.toJson := by
  induction s generalizing levels with
  | empty => exact .null
  | name condition => exact .string condition
  | node op condition left right hcondition hleft hright =>
      obtain ⟨below, rfl⟩ := Nat.exists_eq_add_of_le' (Nat.le_trans (Nat.le_add_left 1 _) h)
      have hdepth := Nat.le_of_succ_le_succ h
      rw [Nat.max_le, Nat.max_le] at hdepth
      rw [toJson]
      refine .object fun field hfield => ?_
      simp only [List.mem_cons, List.mem_append] at hfield
      rcases hfield with rfl | hfield | hfield | hfield
      · exact .string op
      · exact fits_slotField (hcondition hdepth.1) hfield
      · exact fits_slotField (hleft hdepth.2.1) hfield
      · exact fits_slotField (hright hdepth.2.2) hfield

theorem ConditionValue.fits {v : ConditionValue} (h : ∀ s ∈ v.scalars, s.IsWhole) (levels : Nat) :
    Fits (levels + 1) v.toJson := by
  cases v with
  | scalar value => exact Scalar.fits (h value (List.mem_singleton.mpr rfl)) (levels + 1)
  | list values =>
      refine .array fun item hitem => ?_
      obtain ⟨value, hvalue, rfl⟩ := List.mem_map.mp hitem
      exact Scalar.fits (h value hvalue) levels

theorem Condition.fits {c : Condition} (h : ∀ s ∈ c.value.scalars, s.IsWhole) (levels : Nat) :
    Fits (levels + 2) c.toJson := by
  refine .object fun field hfield => ?_
  have hflag : field ∈ (if c.isDate then [("isDate", Json.bool true)] else []) →
      Fits (levels + 1) field.2 := by
    intro hfield
    split at hfield
    · rw [List.mem_singleton] at hfield
      subst hfield
      exact .bool true
    · cases hfield
  simp only [List.cons_append, List.nil_append, List.mem_cons] at hfield
  rcases hfield with rfl | rfl | rfl | hfield
  · exact .string c.prop
  · exact .string c.op
  · exact ConditionValue.fits h levels
  · exact hflag hfield

/-- A dictionary is written in one level more than its entries. -/
theorem fits_dict {α : Type} {d : Dict α} {json : α → Json} {levels : Nat}
    (h : ∀ entry ∈ d.entries, Fits levels (json entry.2)) :
    Fits (levels + 1) (.object (d.entries.map fun entry => (entry.1, json entry.2))) := by
  refine .object fun field hfield => ?_
  obtain ⟨entry, hentry, rfl⟩ := List.mem_map.mp hfield
  exact h entry hentry

end Levels

namespace Definition

/-- The two levels above the expressions are the definition and the dictionary. -/
theorem fits {d : Definition} (hdepth : ∀ entry ∈ d.expressions.entries, entry.2.depth ≤ 125)
    (hnumbers : d.WholeNumbers) : Fits Json.greatestNesting d.toJson := by
  have hexpressions : Fits 126 (.object
      (d.expressions.entries.map fun entry => (entry.1, entry.2.toJson))) :=
    fits_dict fun entry hentry => Slot.fits (hdepth entry hentry)
  have hconditions : Fits 126 (.object
      (d.conditions.entries.map fun entry => (entry.1, entry.2.toJson))) :=
    fits_dict fun entry hentry => Condition.fits (hnumbers entry hentry) 123
  refine .object fun field hfield => ?_
  simp only [List.mem_cons, List.not_mem_nil, or_false] at hfield
  rcases hfield with rfl | rfl
  · exact hexpressions
  · exact hconditions

/-- A definition reads back from its compact text as it was, if its numbers are whole and its
expressions nest no deeper than the reader goes. An operand or a value is taken for what it is,
however deep it nests. -/
theorem ofText_compact (d : Definition)
    (hdepth : ∀ entry ∈ d.expressions.entries, entry.2.depth ≤ 125) (hnumbers : d.WholeNumbers) :
    ofText .json d.toJson.compact = .ok d ∧
    (∀ s : Slot, Slot.take (.ofJson s.toJson) = .ok s) ∧
    (∀ v : ConditionValue, ConditionValue.take (.ofJson v.toJson) = .ok v) := by
  refine ⟨?_, fun s => Slot.take_ofJson s.ofJson?_toJson,
    fun v => takeChoice_ofJson v.ofJson?_toJson⟩
  have hread : ofJsonText d.toJson.compact = .ok d := by
    rw [ofJsonText, compact, String.toList_ofList]
    exact decode_write (fits hdepth hnumbers) d.take_toJson
  rw [ofText, hread]

/-- Names that need escapes, an operator that is not known, slots that their operator does not use,
a date in a list and a whole number beyond the signed ones. -/
def oddlyWritten : Definition where
  expressions := Dict.ofList
    [("\"\n\x01", ⟨"nand", .node "not" (.name "\\u0041") .empty .empty, .empty, .name "null"⟩),
      ("", ⟨"", .empty, .empty, .empty⟩)]
  conditions := Dict.ofList
    [("null", ⟨"π.é", "in", .list [.string "2024-01-01", .bool false,
        .number (.integer 18446744073709551615 (by decide))], true⟩),
      ("\\u0041", ⟨"\t", "equals", .scalar (.string "true"), false⟩)]

theorem ofText_compact_oddlyWritten :
    ofText .json oddlyWritten.toJson.compact = .ok oddlyWritten :=
  (ofText_compact oddlyWritten (by decide) (by decide)).1

end Definition

end FilterBook
