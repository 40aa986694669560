import FilterBook.Proofs.Conversion
import FilterBook.Proofs.Nesting
import FilterBook.Proofs.Records

/-!
What definition a JSON document says, if it says one. A record is an object with some of its fields
in any order, or an array of its first fields in the order of declaration. The value of a field is
looked up by its name, and a field that may be left out has a default. A table keeps each name where
it first comes, with the last of its values. The reader takes a document as a definition just when
the document says that definition.
-/

namespace FilterBook

open Json Outcome

/-- A slot that is said by a document. A node's slot without a field is as one whose field is
`null`. -/
inductive Slot.SaidBy : Slot → Json → Prop
  | empty : SaidBy .empty .null
  | name (condition : String) : SaidBy (.name condition) (.string condition)
  | node {op : String} {condition left right : Slot} {j : Json} {fields : List (String × Json)}
      (h : expressionRecord.Gives j fields) (hop : fields.lookup "op" = some (.string op))
      (hcondition : SaidBy condition ((fields.lookup "condition").getD .null))
      (hleft : SaidBy left ((fields.lookup "left").getD .null))
      (hright : SaidBy right ((fields.lookup "right").getD .null)) :
      SaidBy (.node op condition left right) j

def Expression.SaidBy (e : Expression) (j : Json) : Prop :=
  e.toSlot.SaidBy j

/-- A condition that is said by a document. It is about a date only where the document says so. -/
inductive Condition.SaidBy : Condition → Json → Prop
  | record {c : Condition} {j value : Json} {fields : List (String × Json)}
      (h : conditionRecord.Gives j fields) (hprop : fields.lookup "prop" = some (.string c.prop))
      (hop : fields.lookup "op" = some (.string c.op)) (hvalue : fields.lookup "value" = some value)
      (hscalars : c.value.Becomes Scalar.Copied value)
      (hisDate : (fields.lookup "isDate").getD (.bool false) = .bool c.isDate) : SaidBy c j

/-- A table whose entries are said by the fields of an object. A name stands where it first comes,
and has the last value that it is given. -/
inductive Dict.SaidBy {α : Type} (Says : α → Json → Prop) : Dict α → Json → Prop
  | object {dict : Dict α} {fields : List (String × Json)} {entries : List (String × α)}
      (h : List.Forall₂ (fun field entry => entry.1 = field.1 ∧ Says entry.2 field.2) fields
        entries)
      (hnames : dict.names = (fields.map Prod.fst).eraseDups)
      (hlast : ∀ name, dict.get? name = entries.reverse.lookup name) :
      SaidBy Says dict (.object fields)

/-- A definition that is said by a document. A table without a field is empty. -/
inductive Definition.SaidBy : Definition → Json → Prop
  | record {d : Definition} {j : Json} {fields : List (String × Json)}
      (h : definitionRecord.Gives j fields)
      (hexpressions :
        d.expressions.SaidBy Expression.SaidBy ((fields.lookup "expressions").getD (.object [])))
      (hconditions :
        d.conditions.SaidBy Condition.SaidBy ((fields.lookup "conditions").getD (.object []))) :
      SaidBy d j

section Parts

variable {j : Json}

theorem Scalar.ofJson?_eq_some_iff {s : Scalar} : Scalar.ofJson? j = some s ↔ s.Copied j := by
  constructor
  · intro h
    cases j with
    | bool value =>
        cases h
        exact .bool value
    | number value =>
        cases h
        exact .number value
    | string text =>
        cases h
        exact .string text
    | _ => cases h
  · intro h
    cases h <;> rfl

theorem ConditionValue.ofJson?_eq_some_iff {v : ConditionValue} :
    ConditionValue.ofJson? j = some v ↔ v.Becomes Scalar.Copied j := by
  constructor
  · intro h
    cases j with
    | array items =>
        obtain ⟨values, hvalues, rfl⟩ := Option.map_eq_some_iff.mp h
        have hcopied := (mapM_eq_some_iff.mp hvalues).imp fun _ _ => Scalar.ofJson?_eq_some_iff.mp
        exact .list hcopied.flip
    | bool value =>
        cases h
        exact .scalar (.bool value)
    | number value =>
        cases h
        exact .scalar (.number value)
    | string text =>
        cases h
        exact .scalar (.string text)
    | null => cases h
    | object fields => cases h
  · intro h
    cases h with
    | scalar hs =>
        cases hs <;> rfl
    | list hss =>
        have hvalues := mapM_eq_some_iff.mpr
          (hss.flip.imp fun _ _ => Scalar.ofJson?_eq_some_iff.mpr)
        exact Option.map_eq_some_iff.mpr ⟨_, hvalues, rfl⟩

theorem takeChoice_eq_ok_iff {α : Type} {choice : String} {ofJson? : Json → Option α} {value : α} :
    takeChoice choice ofJson? (.ofJson j) = .ok value ↔ ofJson? j = some value := by
  rw [takeChoice, Reading.asJson, Reading.complete_ofJson, ok_bind]
  cases ofJson? j with
  | none => simp
  | some other => simp

def boolOf? : Json → Option Bool
  | .bool value => some value
  | _ => none

theorem asString_eq_ok_iff {text : String} :
    (Reading.ofJson j).asString = .ok text ↔ stringOf? j = some text := by
  cases j <;> simp [Reading.ofJson, Reading.asString, Reading.refuse, Reading.found, stringOf?]

theorem asBool_eq_ok_iff {value : Bool} :
    (Reading.ofJson j).asBool = .ok value ↔ boolOf? j = some value := by
  cases j <;> simp [Reading.ofJson, Reading.asBool, Reading.refuse, Reading.found, boolOf?]

theorem setOnce_bind_eq_ok_iff {α β : Type} {name : String} {old : Option α}
    {take : Except Fault α} {set : Option α → β} {next : β} :
    (setOnce name old take >>= fun part => pure (set part)) = .ok next ↔
      old = none ∧ ∃ value, take = .ok value ∧ next = set (some value) := by
  cases old with
  | some value => simp [setOnce]
  | none => cases take <;> simp [setOnce, Except.map, eq_comm]

theorem stringOf?_eq_some_iff {text : String} : stringOf? j = some text ↔ j = .string text := by
  cases j <;> simp [stringOf?]

theorem boolOf?_eq_some_iff {value : Bool} : boolOf? j = some value ↔ j = .bool value := by
  cases j <;> simp [boolOf?]

/-- A field that must be there. -/
theorem exists_held_iff {α : Type} {field : Option Json} {ofJson? : Json → Option α} {value : α} :
    field.map ofJson? = (some value).map some ↔ ∃ j, field = some j ∧ ofJson? j = some value := by
  rw [Option.map_some, Option.map_eq_some_iff]

/-- A field that may be left out is as good as its default. -/
theorem held_getD {α : Type} {field : Option Json} {ofJson? : Json → Option α} {absent : Json}
    {default : α} (habsent : ofJson? absent = some default) {value : α} :
    (∃ part : Option α, field.map ofJson? = part.map some ∧ part.getD default = value) ↔
      ofJson? (field.getD absent) = some value := by
  cases field with
  | none =>
      rw [Option.getD_none, habsent, Option.some_inj]
      constructor
      · rintro ⟨part, hpart, rfl⟩
        rw [Option.map_eq_none_iff.mp hpart.symm, Option.getD_none]
      · rintro rfl
        exact ⟨none, rfl, rfl⟩
  | some j =>
      rw [Option.getD_some]
      constructor
      · rintro ⟨part, hpart, rfl⟩
        obtain ⟨value, rfl, hvalue⟩ := Option.map_eq_some_iff.mp hpart.symm
        exact hvalue.symm
      · intro hvalue
        exact ⟨some value, by rw [Option.map_some, Option.map_some, hvalue], rfl⟩

end Parts

namespace ConditionFields

/-- The places for the fields of a condition. -/
def layout : Layout conditionRecord ConditionFields where
  start := .none
  places :=
    [{ name := "prop", Value := String, get := prop, ofJson? := stringOf?
       put := fun read value => { read with prop := some value } },
     { name := "op", Value := String, get := op, ofJson? := stringOf?
       put := fun read value => { read with op := some value } },
     { name := "value", Value := ConditionValue, get := value, ofJson? := ConditionValue.ofJson?
       put := fun read value => { read with value := some value } },
     { name := "isDate", Value := Bool, get := isDate, ofJson? := boolOf?
       put := fun read value => { read with isDate := some value } }]
  names := rfl
  distinct := by decide
  get_start := by simp [none]
  get_put := by simp
  get_put_of_ne := by simp
  ext := by
    rintro ⟨prop, op, value, isDate⟩ ⟨prop', op', value', isDate'⟩ h
    simpa using h

theorem take_eq_ok_iff (read : ConditionFields) (name : String) (j : Json)
    (next : ConditionFields) :
    read.take name (.ofJson j) = .ok next ↔ layout.Takes read name j next := by
  unfold ConditionFields.take
  by_cases hprop : name = "prop"
  · subst hprop
    rw [if_pos rfl, setOnce_bind_eq_ok_iff]
    simp [Layout.Takes, layout, asString_eq_ok_iff]
  rw [if_neg hprop]
  by_cases hop : name = "op"
  · subst hop
    rw [if_pos rfl, setOnce_bind_eq_ok_iff]
    simp [Layout.Takes, layout, asString_eq_ok_iff]
  rw [if_neg hop]
  by_cases hvalue : name = "value"
  · subst hvalue
    rw [if_pos rfl, setOnce_bind_eq_ok_iff]
    simp [Layout.Takes, layout, ConditionValue.take, takeChoice_eq_ok_iff]
  rw [if_neg hvalue]
  by_cases hisDate : name = "isDate"
  · subst hisDate
    rw [if_pos rfl, setOnce_bind_eq_ok_iff]
    simp [Layout.Takes, layout, asBool_eq_ok_iff]
  · rw [if_neg hisDate]
    simp [Layout.Takes, layout, Ne.symm hprop, Ne.symm hop, Ne.symm hvalue, Ne.symm hisDate]

theorem finish_eq_ok_iff (length : Option Nat) (read : ConditionFields) (c : Condition) :
    finish length read = .ok c ↔ (read.prop = some c.prop ∧ read.op = some c.op ∧
      read.value = some c.value) ∧ read.isDate.getD false = c.isDate := by
  have hneed {α : Type} (name : String) (part : Option α) (value : α) :
      needField conditionRecord name length part = .ok value ↔ part = some value := by
    cases part <;> cases length <;> simp [needField]
  obtain ⟨prop, op, value, isDate⟩ := c
  simp only [finish, bind_eq_ok_iff, hneed, pure_eq_ok, Except.ok.injEq, Condition.mk.injEq]
  constructor
  · rintro ⟨prop, hprop, op, hop, value, hvalue, rfl, rfl, rfl, rfl⟩
    exact ⟨⟨hprop, hop, hvalue⟩, rfl⟩
  · rintro ⟨⟨hprop, hop, hvalue⟩, hisDate⟩
    exact ⟨prop, hprop, op, hop, value, hvalue, rfl, rfl, rfl, hisDate⟩

theorem holds_iff {fields : List (String × Json)} {read : ConditionFields} :
    layout.Holds fields read ↔
      (fields.lookup "prop").map stringOf? = read.prop.map some ∧
      (fields.lookup "op").map stringOf? = read.op.map some ∧
      (fields.lookup "value").map ConditionValue.ofJson? = read.value.map some ∧
      (fields.lookup "isDate").map boolOf? = read.isDate.map some := by
  simp [Layout.Holds, layout]

end ConditionFields

theorem Condition.take_eq_ok_iff (j : Json) (c : Condition) :
    Condition.take (.ofJson j) = .ok c ↔ c.SaidBy j := by
  refine (Layout.takeRecord_eq_ok_iff ConditionFields.take_eq_ok_iff
    ConditionFields.finish_eq_ok_iff).trans ?_
  simp only [ConditionFields.holds_iff]
  have hunset : boolOf? (.bool false) = some false := rfl
  constructor
  · rintro ⟨fields, last, hgives, ⟨hprop, hop, hvalue, hisDate⟩,
      ⟨hpropRead, hopRead, hvalueRead⟩, hflag⟩
    rw [hpropRead, exists_held_iff] at hprop
    rw [hopRead, exists_held_iff] at hop
    rw [hvalueRead, exists_held_iff] at hvalue
    obtain ⟨_, hprop, hpropText⟩ := hprop
    obtain ⟨_, hop, hopText⟩ := hop
    obtain ⟨_, hvalue, hscalars⟩ := hvalue
    rw [stringOf?_eq_some_iff.mp hpropText] at hprop
    rw [stringOf?_eq_some_iff.mp hopText] at hop
    have hdate := (held_getD hunset).mp ⟨_, hisDate, hflag⟩
    exact .record hgives hprop hop hvalue (ConditionValue.ofJson?_eq_some_iff.mp hscalars)
      (boolOf?_eq_some_iff.mp hdate)
  · rintro ⟨hgives, hprop, hop, hvalue, hscalars, hisDate⟩
    have hform := ConditionValue.ofJson?_eq_some_iff.mpr hscalars
    obtain ⟨isDate, hdate, hflag⟩ := (held_getD hunset).mpr (boolOf?_eq_some_iff.mpr hisDate)
    refine ⟨_, ⟨some c.prop, some c.op, some c.value, isDate⟩, hgives, ⟨?_, ?_, ?_, hdate⟩,
      ⟨rfl, rfl, rfl⟩, hflag⟩
    · rw [hprop]
      rfl
    · rw [hop]
      rfl
    · exact exists_held_iff.mpr ⟨_, hvalue, hform⟩

namespace NodeFields

/-- The places for the fields of a node. -/
def layout : Layout expressionRecord NodeFields where
  start := .none
  places :=
    [{ name := "op", Value := String, get := op, ofJson? := stringOf?
       put := fun read value => { read with op := some value } },
     { name := "condition", Value := Slot, get := condition, ofJson? := Slot.ofJson?
       put := fun read value => { read with condition := some value } },
     { name := "left", Value := Slot, get := left, ofJson? := Slot.ofJson?
       put := fun read value => { read with left := some value } },
     { name := "right", Value := Slot, get := right, ofJson? := Slot.ofJson?
       put := fun read value => { read with right := some value } }]
  names := rfl
  distinct := by decide
  get_start := by simp [none]
  get_put := by simp
  get_put_of_ne := by simp
  ext := by
    rintro ⟨op, condition, left, right⟩ ⟨op', condition', left', right'⟩ h
    simpa using h

theorem set_eq_some_iff {α β : Type} {old part : Option α} {set : α → β} {next : β} :
    (if old.isSome then Option.none else part.map set) = some next ↔
      old = .none ∧ ∃ value, part = some value ∧ next = set value := by
  cases old with
  | some value => simp
  | none => simp [eq_comm]

theorem set?_eq_some_iff {read next : NodeFields} {name : String} {j : Json} :
    read.set? name (stringOf? j) (Slot.ofJson? j) = some next ↔ layout.Takes read name j next := by
  unfold set?
  by_cases hop : name = "op"
  · subst hop
    rw [if_pos rfl, set_eq_some_iff]
    simp [Layout.Takes, layout]
  rw [if_neg hop]
  by_cases hcondition : name = "condition"
  · subst hcondition
    rw [if_pos rfl, set_eq_some_iff]
    simp [Layout.Takes, layout]
  rw [if_neg hcondition]
  by_cases hleft : name = "left"
  · subst hleft
    rw [if_pos rfl, set_eq_some_iff]
    simp [Layout.Takes, layout]
  rw [if_neg hleft]
  by_cases hright : name = "right"
  · subst hright
    rw [if_pos rfl, set_eq_some_iff]
    simp [Layout.Takes, layout]
  · rw [if_neg hright]
    simp [Layout.Takes, layout, Ne.symm hop, Ne.symm hcondition, Ne.symm hleft, Ne.symm hright]

theorem holds_iff {fields : List (String × Json)} {read : NodeFields} :
    layout.Holds fields read ↔
      (fields.lookup "op").map stringOf? = read.op.map some ∧
      (fields.lookup "condition").map Slot.ofJson? = read.condition.map some ∧
      (fields.lookup "left").map Slot.ofJson? = read.left.map some ∧
      (fields.lookup "right").map Slot.ofJson? = read.right.map some := by
  simp [Layout.Holds, layout]

theorem nodeOfFields?_eq_some_iff {read last : NodeFields} {fields : List (String × Json)} :
    nodeOfFields? read fields = some last ↔ layout.Runs read fields last := by
  induction fields generalizing read with
  | nil => rw [nodeOfFields?, Option.some_inj, Layout.runs_nil_iff]
  | cons field fields ih =>
      rw [nodeOfFields?, Option.bind_eq_some_iff, Layout.runs_cons_iff]
      simp only [set?_eq_some_iff, ih]

theorem nodeOfItems?_eq_some_iff {names : List String} {read last : NodeFields}
    {items : List Json} :
    nodeOfItems? names read items = some last ↔
      items.length ≤ names.length ∧ layout.Runs read (names.zip items) last := by
  induction items generalizing names read with
  | nil => simp [nodeOfItems?]
  | cons item items ih =>
      cases names with
      | nil => simp [nodeOfItems?]
      | cons name names =>
          rw [nodeOfItems?, Option.bind_eq_some_iff, List.zip_cons_cons, Layout.runs_cons_iff]
          simp only [set?_eq_some_iff, ih, List.length_cons, Nat.add_le_add_iff_right,
            exists_and_left, and_left_comm]

/-- A node is what the fields of a document say: an operator, and three slots. -/
theorem exists_node_iff {fields : List (String × Json)} {e : Expression} :
    (∃ last, layout.Holds fields last ∧ last.node? = some e) ↔
      fields.lookup "op" = some (.string e.op) ∧
      Slot.ofJson? ((fields.lookup "condition").getD .null) = some e.condition ∧
      Slot.ofJson? ((fields.lookup "left").getD .null) = some e.left ∧
      Slot.ofJson? ((fields.lookup "right").getD .null) = some e.right := by
  have hempty : Slot.ofJson? .null = some .empty := rfl
  simp only [holds_iff, ← held_getD hempty]
  constructor
  · rintro ⟨last, ⟨hop, hcondition, hleft, hright⟩, hnode⟩
    obtain ⟨op, hread, rfl⟩ := Option.map_eq_some_iff.mp hnode
    rw [hread, exists_held_iff] at hop
    obtain ⟨_, hop, htext⟩ := hop
    rw [stringOf?_eq_some_iff.mp htext] at hop
    exact ⟨hop, ⟨_, hcondition, rfl⟩, ⟨_, hleft, rfl⟩, ⟨_, hright, rfl⟩⟩
  · rintro ⟨hop, ⟨condition, hcondition, hc⟩, ⟨left, hleft, hl⟩, ⟨right, hright, hr⟩⟩
    refine ⟨⟨some e.op, condition, left, right⟩, ⟨?_, hcondition, hleft, hright⟩, ?_⟩
    · rw [hop]
      rfl
    · rw [node?, hc, hl, hr]
      rfl

end NodeFields

namespace Slot

theorem ofJson?_eq_node_iff {j : Json} {e : Expression} :
    Slot.ofJson? j = some e.toSlot ↔
      ∃ fields last, expressionRecord.Lists j fields ∧
        NodeFields.layout.Runs NodeFields.layout.start fields last ∧ last.node? = some e := by
  have hslot (read : NodeFields) : read.slot? = some e.toSlot ↔ read.node? = some e := by
    obtain ⟨op, condition, left, right⟩ := e
    simp only [NodeFields.slot?, NodeFields.node?, Option.map_map, Option.map_eq_some_iff,
      Function.comp_apply, Expression.toSlot, Slot.node.injEq, Expression.mk.injEq]
  cases j with
  | object fields =>
      rw [Slot.ofJson?, Option.bind_eq_some_iff]
      simp only [NodeFields.nodeOfFields?_eq_some_iff, hslot, Record.lists_object_iff,
        exists_and_left, exists_eq_left]
      rfl
  | array items =>
      rw [Slot.ofJson?, Option.bind_eq_some_iff]
      simp only [NodeFields.nodeOfItems?_eq_some_iff, hslot, Record.lists_array_iff,
        exists_and_left, and_assoc, exists_eq_left]
      rfl
  | _ =>
      constructor
      · intro h
        cases h
      · rintro ⟨_, _, hlists, -⟩
        cases hlists

theorem cases_of_ofJson? {j : Json} {s : Slot} (h : Slot.ofJson? j = some s) :
    (j = .null ∧ s = .empty) ∨ (∃ condition, j = .string condition ∧ s = .name condition) ∨
      ∃ e : Expression, s = e.toSlot := by
  cases j with
  | null =>
      cases h
      exact Or.inl ⟨rfl, rfl⟩
  | string condition =>
      cases h
      exact Or.inr (Or.inl ⟨condition, rfl, rfl⟩)
  | object fields =>
      obtain ⟨read, -, hread⟩ := Option.bind_eq_some_iff.mp h
      obtain ⟨e, -, rfl⟩ := Option.map_eq_some_iff.mp hread
      exact Or.inr (Or.inr ⟨e, rfl⟩)
  | array items =>
      obtain ⟨read, -, hread⟩ := Option.bind_eq_some_iff.mp h
      obtain ⟨e, -, rfl⟩ := Option.map_eq_some_iff.mp hread
      exact Or.inr (Or.inr ⟨e, rfl⟩)
  | bool value => cases h
  | number value => cases h

/-- A slot is read off the documents that say it, and off no others. -/
theorem ofJson?_eq_some_iff {j : Json} {s : Slot} : Slot.ofJson? j = some s ↔ s.SaidBy j := by
  induction s generalizing j with
  | empty =>
      constructor
      · intro h
        rcases cases_of_ofJson? h with ⟨rfl, -⟩ | ⟨condition, -, heq⟩ | ⟨e, heq⟩
        · exact .empty
        · cases heq
        · cases heq
      · intro h
        cases h
        rfl
  | name condition =>
      constructor
      · intro h
        rcases cases_of_ofJson? h with ⟨-, heq⟩ | ⟨condition, rfl, heq⟩ | ⟨e, heq⟩
        · cases heq
        · cases heq
          exact .name condition
        · cases heq
      · intro h
        cases h
        rfl
  | node op condition left right hcondition hleft hright =>
      have hnode := (ofJson?_eq_node_iff (j := j) (e := ⟨op, condition, left, right⟩)).trans
        Layout.exists_runs_iff
      simp only [exists_and_left, NodeFields.exists_node_iff, hcondition, hleft, hright] at hnode
      refine hnode.trans ⟨?_, ?_⟩
      · rintro ⟨fields, hgives, hop, hcondition, hleft, hright⟩
        exact .node hgives hop hcondition hleft hright
      · intro h
        cases h with
        | node hgives hop hcondition hleft hright =>
            exact ⟨_, hgives, hop, hcondition, hleft, hright⟩

/-- The reader of a slot that goes through its text takes what is read off the document. -/
theorem take_eq_ok_iff {j : Json} {s : Slot} :
    Slot.take (.ofJson j) = .ok s ↔ Slot.ofJson? j = some s := by
  refine ⟨fun h => ?_, Slot.take_ofJson⟩
  by_cases hnull : j = .null
  · subst hnull
    cases h
    rfl
  · have htake : Slot.take (.ofJson j) =
        (Operand.take (.ofJson j) >>= fun operand => pure operand.toSlot) := by
      cases j with
      | null => exact absurd rfl hnull
      | _ => rfl
    rw [htake, bind_eq_ok_iff] at h
    obtain ⟨operand, hoperand, hslot⟩ := h
    obtain ⟨other, hread, hother⟩ := Option.bind_eq_some_iff.mp (takeChoice_eq_ok_iff.mp hoperand)
    obtain ⟨operand', hfilled, rfl⟩ := Slot.operand?_of_ofJson? hread hnull
    rw [hfilled, Option.some_inj] at hother
    rw [hread, hother]
    exact congrArg some (Except.ok.inj hslot)

end Slot

namespace NodeFields

theorem take_eq_ok_iff (read : NodeFields) (name : String) (j : Json) (next : NodeFields) :
    read.take name (.ofJson j) = .ok next ↔ layout.Takes read name j next := by
  unfold NodeFields.take
  by_cases hop : name = "op"
  · subst hop
    rw [if_pos rfl, setOnce_bind_eq_ok_iff]
    simp [Layout.Takes, layout, asString_eq_ok_iff]
  rw [if_neg hop]
  by_cases hcondition : name = "condition"
  · subst hcondition
    rw [if_pos rfl, setOnce_bind_eq_ok_iff]
    simp [Layout.Takes, layout, Slot.take_eq_ok_iff]
  rw [if_neg hcondition]
  by_cases hleft : name = "left"
  · subst hleft
    rw [if_pos rfl, setOnce_bind_eq_ok_iff]
    simp [Layout.Takes, layout, Slot.take_eq_ok_iff]
  rw [if_neg hleft]
  by_cases hright : name = "right"
  · subst hright
    rw [if_pos rfl, setOnce_bind_eq_ok_iff]
    simp [Layout.Takes, layout, Slot.take_eq_ok_iff]
  · rw [if_neg hright]
    simp [Layout.Takes, layout, Ne.symm hop, Ne.symm hcondition, Ne.symm hleft, Ne.symm hright]

theorem finish_eq_ok_iff (length : Option Nat) (read : NodeFields) (e : Expression) :
    finish length read = .ok e ↔ read.node? = some e := by
  cases hop : read.op with
  | none => cases length <;> simp [finish, node?, hop, needField]
  | some op => simp [finish, node?, hop, needField]

end NodeFields

/-- At the root as in a slot. -/
theorem Expression.take_eq_ok_iff (j : Json) (e : Expression) :
    Expression.take (.ofJson j) = .ok e ↔ e.SaidBy j :=
  calc Expression.take (.ofJson j) = .ok e
    _ ↔ ∃ fields last, expressionRecord.Gives j fields ∧ NodeFields.layout.Holds fields last ∧
          last.node? = some e :=
        Layout.takeRecord_eq_ok_iff NodeFields.take_eq_ok_iff NodeFields.finish_eq_ok_iff
    _ ↔ Slot.ofJson? j = some e.toSlot :=
        Layout.exists_runs_iff.symm.trans Slot.ofJson?_eq_node_iff.symm
    _ ↔ e.SaidBy j := Slot.ofJson?_eq_some_iff

section Tables

variable {α : Type} {dict : Dict α}

namespace Dict

theorem entries_eq_filterMap (d : Dict α) :
    d.entries = d.names.filterMap fun name => (d.get? name).map fun value => (name, value) := by
  have hentry : ∀ entry ∈ d.entries,
      (d.get? entry.1).map (fun value => (entry.1, value)) = some entry := by
    intro entry hentry
    rw [get?_eq_some_iff.mpr hentry, Option.map_some]
  rw [names, List.filterMap_map]
  exact ((List.filterMap_congr hentry).trans List.filterMap_some).symm

/-- A table is its names in their order, with the value of each. -/
theorem ext_get? {d e : Dict α} (hnames : d.names = e.names)
    (hget : ∀ name, d.get? name = e.get? name) : d = e := by
  apply Dict.ext
  rw [d.entries_eq_filterMap, e.entries_eq_filterMap, hnames]
  simp only [hget]

theorem eq_ofList_iff {d : Dict α} {entries : List (String × α)} :
    d = ofList entries ↔ d.names = (entries.map Prod.fst).eraseDups ∧
      ∀ name, d.get? name = entries.reverse.lookup name := by
  have hnames : (ofList entries).names = (entries.map Prod.fst).eraseDups := by
    rw [ofList, names_insertAll]
    simp [names, empty, List.removeAll]
  have hget (name : String) : (ofList entries).get? name = entries.reverse.lookup name := by
    rw [ofList, get?_insertAll]
    exact Option.or_none
  constructor
  · rintro rfl
    exact ⟨hnames, hget⟩
  · rintro ⟨hnames', hget'⟩
    exact ext_get? (hnames'.trans hnames.symm) fun name => (hget' name).trans (hget name).symm

end Dict

section Taking

variable {take : Reading → Except Fault α} {Says : α → Json → Prop}
variable (htake : ∀ j a, take (.ofJson j) = .ok a ↔ Says a j)
include htake

theorem foldlM_insert_eq_ok_iff {fields : List (String × Json)} {last : Dict α} :
    (Reading.ofFields fields).foldlM
        (fun dict field => (take field.2).map (dict.insert field.1)) dict = .ok last ↔
      ∃ entries, List.Forall₂ (fun field entry => entry.1 = field.1 ∧ Says entry.2 field.2)
        fields entries ∧ last = dict.insertAll entries := by
  induction fields generalizing dict with
  | nil =>
      rw [Reading.ofFields, List.foldlM_nil, pure_eq_ok, Except.ok.injEq]
      simp only [List.forall₂_nil_left_iff, exists_eq_left, eq_comm (a := last)]
      rfl
  | cons field fields ih =>
      have hmap (next : Dict α) : (take (.ofJson field.2)).map (dict.insert field.1) = .ok next ↔
          ∃ value, Says value field.2 ∧ next = dict.insert field.1 value := by
        simp only [← htake]
        cases take (.ofJson field.2) <;> simp [Except.map, eq_comm]
      rw [Reading.ofFields, List.foldlM_cons, bind_eq_ok_iff]
      simp only [hmap, ih, List.forall₂_cons_left_iff]
      constructor
      · rintro ⟨_, ⟨value, hvalue, rfl⟩, entries, hentries, rfl⟩
        exact ⟨_, ⟨(field.1, value), entries, ⟨rfl, hvalue⟩, hentries, rfl⟩, rfl⟩
      · rintro ⟨_, ⟨⟨name, value⟩, entries, ⟨rfl, hvalue⟩, hentries, rfl⟩, rfl⟩
        exact ⟨_, ⟨value, hvalue, rfl⟩, entries, hentries, rfl⟩

theorem takeDict_eq_ok_iff (j : Json) (dict : Dict α) :
    takeDict take (.ofJson j) = .ok dict ↔ dict.SaidBy Says j := by
  have hnames {fields : List (String × Json)} {entries : List (String × α)}
      (h : List.Forall₂ (fun field entry => entry.1 = field.1 ∧ Says entry.2 field.2)
        fields entries) : entries.map Prod.fst = fields.map Prod.fst := by
    induction h with
    | nil => rfl
    | cons hentry _ ih => rw [List.map_cons, List.map_cons, hentry.1, ih]
  cases j with
  | object fields =>
      have hfold : takeDict take (.ofJson (.object fields)) = (Reading.ofFields fields).foldlM
          (fun dict field => (take field.2).map (dict.insert field.1)) .empty := bind_pure _
      rw [hfold, foldlM_insert_eq_ok_iff htake]
      constructor
      · rintro ⟨entries, hentries, hdict⟩
        obtain ⟨hdictNames, hget⟩ := Dict.eq_ofList_iff.mp hdict
        rw [hnames hentries] at hdictNames
        exact .object hentries hdictNames hget
      · intro h
        cases h with
        | object hentries hdictNames hget =>
            rw [← hnames hentries] at hdictNames
            exact ⟨_, hentries, Dict.eq_ofList_iff.mpr ⟨hdictNames, hget⟩⟩
  | _ =>
      constructor
      · intro h
        cases h
      · intro h
        cases h

/-- A table that is read off a document. -/
def tableOf? (take : Reading → Except Fault α) (j : Json) : Option (Dict α) :=
  (takeDict take (.ofJson j)).toOption

omit htake in
theorem tableOf?_eq_some_iff {j : Json} :
    tableOf? take j = some dict ↔ takeDict take (.ofJson j) = .ok dict := by
  unfold tableOf?
  cases takeDict take (.ofJson j) <;> simp [Except.toOption]

end Taking

end Tables

namespace DefinitionFields

/-- The places for the tables of a definition. -/
def layout : Layout definitionRecord DefinitionFields where
  start := .none
  places :=
    [{ name := "expressions", Value := Dict Expression, get := expressions
       ofJson? := tableOf? Expression.take
       put := fun read value => { read with expressions := some value } },
     { name := "conditions", Value := Dict Condition, get := conditions
       ofJson? := tableOf? Condition.take
       put := fun read value => { read with conditions := some value } }]
  names := rfl
  distinct := by decide
  get_start := by simp [none]
  get_put := by simp
  get_put_of_ne := by simp
  ext := by
    rintro ⟨expressions, conditions⟩ ⟨expressions', conditions'⟩ h
    simpa using h

theorem take_eq_ok_iff (read : DefinitionFields) (name : String) (j : Json)
    (next : DefinitionFields) :
    read.take name (.ofJson j) = .ok next ↔ layout.Takes read name j next := by
  unfold DefinitionFields.take
  by_cases hexpressions : name = "expressions"
  · subst hexpressions
    rw [if_pos rfl, setOnce_bind_eq_ok_iff]
    simp [Layout.Takes, layout, tableOf?_eq_some_iff]
  rw [if_neg hexpressions]
  by_cases hconditions : name = "conditions"
  · subst hconditions
    rw [if_pos rfl, setOnce_bind_eq_ok_iff]
    simp [Layout.Takes, layout, tableOf?_eq_some_iff]
  · rw [if_neg hconditions]
    simp [Layout.Takes, layout, Ne.symm hexpressions, Ne.symm hconditions]

theorem holds_iff {fields : List (String × Json)} {read : DefinitionFields} :
    layout.Holds fields read ↔
      (fields.lookup "expressions").map (tableOf? Expression.take) = read.expressions.map some ∧
      (fields.lookup "conditions").map (tableOf? Condition.take) = read.conditions.map some := by
  simp [Layout.Holds, layout]

theorem finish_eq_ok_iff (length : Option Nat) (read : DefinitionFields) (d : Definition) :
    finish length read = .ok d ↔
      read.expressions.getD .empty = d.expressions ∧
        read.conditions.getD .empty = d.conditions := by
  obtain ⟨expressions, conditions⟩ := d
  rw [finish, Except.ok.injEq, Definition.mk.injEq]

end DefinitionFields

namespace Definition

theorem take_eq_ok_iff (j : Json) (d : Definition) :
    Definition.take (.ofJson j) = .ok d ↔ d.SaidBy j := by
  have hexpressions (json : Json) (dict : Dict Expression) :
      tableOf? Expression.take json = some dict ↔ dict.SaidBy Expression.SaidBy json :=
    tableOf?_eq_some_iff.trans (takeDict_eq_ok_iff Expression.take_eq_ok_iff json dict)
  have hconditions (json : Json) (dict : Dict Condition) :
      tableOf? Condition.take json = some dict ↔ dict.SaidBy Condition.SaidBy json :=
    tableOf?_eq_some_iff.trans (takeDict_eq_ok_iff Condition.take_eq_ok_iff json dict)
  have habsent : tableOf? Expression.take (.object []) = some .empty := rfl
  have habsent' : tableOf? Condition.take (.object []) = some .empty := rfl
  refine (Layout.takeRecord_eq_ok_iff DefinitionFields.take_eq_ok_iff
    DefinitionFields.finish_eq_ok_iff).trans ?_
  simp only [DefinitionFields.holds_iff]
  constructor
  · rintro ⟨fields, last, hgives, ⟨he, hc⟩, hlast, hlast'⟩
    have hfirst := (held_getD habsent).mp ⟨_, he, hlast⟩
    have hsecond := (held_getD habsent').mp ⟨_, hc, hlast'⟩
    exact .record hgives ((hexpressions _ _).mp hfirst) ((hconditions _ _).mp hsecond)
  · intro h
    cases h with
    | record hgives hfirst hsecond =>
        obtain ⟨expressions, he, hlast⟩ := (held_getD habsent).mpr ((hexpressions _ _).mpr hfirst)
        obtain ⟨conditions, hc, hlast'⟩ := (held_getD habsent').mpr ((hconditions _ _).mpr hsecond)
        exact ⟨_, ⟨expressions, conditions⟩, hgives, ⟨he, hc⟩, hlast, hlast'⟩

/-- A text of a document that keeps the limit of nesting is read as the definition that the document
says. If the document says none, reading it fails. -/
theorem ofText_json_eq_ok_iff {text : String} {j : Json} (htext : IsTextOf text j)
    (hnesting : j.nesting ≤ greatestNesting) (d : Definition) :
    ofText .json text = .ok d ↔ d.SaidBy j := by
  have hread : ofJsonText text = Definition.take (.ofJson j) := htext.decode_eq hnesting _
  rw [← take_eq_ok_iff, ofText, hread]
  cases Definition.take (.ofJson j) <;> simp

/-- Both forms of a record, an empty slot, slots that are left out, and a name that is bound twice.
-/
def bothForms : Json :=
  .array
    [.object
      [("e", .array [.string "and", .null, .string "a",
        .object [("left", .null), ("condition", .string "b"), ("op", .string "not")]])],
      .object
        [("a", .array [.string "x", .string "gt", .number (.integer 1 (by decide))]),
          ("b", .object [("value", .array [.bool true, .string "s"]), ("op", .string "in"),
            ("prop", .string "y")]),
          ("a", .object [("isDate", .bool true), ("prop", .string "x"), ("op", .string "lt"),
            ("value", .string "2024-01-01")])]]

def saidInBothForms : Definition where
  expressions := Dict.ofList
    [("e", ⟨"and", .empty, .name "a", .node "not" (.name "b") .empty .empty⟩)]
  conditions := Dict.ofList
    [("a", ⟨"x", "lt", .scalar (.string "2024-01-01"), true⟩),
      ("b", ⟨"y", "in", .list [.bool true, .string "s"], false⟩)]

theorem ofText_json_eq_ok_iff_bothForms :
    ofText .json bothForms.compact = .ok saidInBothForms ∧ saidInBothForms.SaidBy bothForms := by
  have hfits : Fits 4 bothForms := by
    simp [bothForms, Fits.array_iff, Fits.object_iff, Fits.null, Fits.bool, Fits.integer,
      Fits.string]
  have htake : Definition.take (.ofJson bothForms) = .ok saidInBothForms := by
    rfl
  have hsaid := (take_eq_ok_iff bothForms saidInBothForms).mp htake
  exact ⟨(ofText_json_eq_ok_iff hfits.isTextOf_compact (by decide) _).mpr hsaid, hsaid⟩

end Definition

end FilterBook
