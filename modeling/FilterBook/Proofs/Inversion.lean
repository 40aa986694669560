import FilterBook.Proofs.Meaning
import FilterBook.Proofs.Renaming
import FilterBook.Proofs.RoundTrip
import FilterBook.Proofs.Strays
import Mathlib.Data.List.Forall2

/-!
What a fragment tells of the expression from which it was made. `use` adds nothing to a fragment and
a stray slot is never looked into; all else can be read off: every operator, every field, and of
every condition what it asks of its field. So two expressions with one fragment differ in `use`
nodes and strays only, and in the names of their conditions.
-/

namespace FilterBook

open Outcome

namespace Slot

/-- The tree with every slot emptied that the operator of its node does not use. -/
def pruned : Slot → Slot
  | .empty => .empty
  | .name named => .name named
  | .node opName condition left right =>
      match ExpressionOp.ofName? opName with
      | none => .node opName condition left right
      | some op =>
          if op.isBinary then .node opName .empty left.pruned right.pruned
          else .node opName condition.pruned .empty .empty

/-- The tree without its `use` nodes: what each of them holds stands in its place. -/
def withoutUse : Slot → Slot
  | .empty => .empty
  | .name named => .name named
  | .node opName condition left right =>
      if opName = ExpressionOp.use.name then condition.withoutUse
      else .node opName condition.withoutUse left.withoutUse right.withoutUse

/-- The shape of a tree with its operators: all names of conditions are blotted out. -/
def outline (s : Slot) : Slot :=
  s.rename fun _ => ""

end Slot

/-- What evaluation sees of an expression, less the `use` nodes. -/
def Expression.core (e : Expression) : Slot :=
  e.toSlot.pruned.withoutUse

/-- Whether two values are both a scalar or both a list. -/
def ConditionValue.SameKind : ConditionValue → ConditionValue → Prop
  | .scalar _, .scalar _ => True
  | .list _, .list _ => True
  | _, _ => False

/-- Two scalars that stand in a query as the same date. -/
def Scalar.SameDate (s other : Scalar) : Prop :=
  ∃ moment otherMoment, s.moment = .ok moment ∧ other.moment = .ok otherMoment ∧
    moment.write = otherMoment.write

namespace Condition

/-- Two conditions that ask the same of the same field. -/
structure Agrees (c other : Condition) : Prop where
  prop_eq : c.prop = other.prop
  op_eq : c.op = other.op
  isDate_eq : c.isDate = other.isDate
  value_eq : c.isDate = false → c.value = other.value
  dates_eq : c.isDate = true →
    c.value.SameKind other.value ∧ List.Forall₂ Scalar.SameDate c.value.scalars other.value.scalars

end Condition

/-- Two names of conditions, each in a table of its own, under which there are conditions that
agree. -/
def NamesAgree (conditions others : Dict Condition) (name other : String) : Prop :=
  ∃ c d, conditions.get? name = some c ∧ others.get? other = some d ∧ c.Agrees d

/-- Two trees with the same operators at the same places, whose leaves name conditions that agree.
-/
def Slot.Agree (conditions others : Dict Condition) (s t : Slot) : Prop :=
  s.outline = t.outline ∧ List.Forall₂ (NamesAgree conditions others) s.references t.references

/-- Every condition that a tree names passes the gate, and its field is no operator's symbol. -/
def Slot.Plain (conditions : Dict Condition) (s : Slot) : Prop :=
  ∀ name ∈ s.references, ∀ c, conditions.get? name = some c →
    c.check (Table.conditions.entry name) = .ok () ∧ c.prop ∉ ExpressionOp.symbols

theorem Dict.singleton_inj {α : Type} {name other : String} {value otherValue : α} :
    singleton name value = singleton other otherValue ↔ name = other ∧ value = otherValue := by
  constructor
  · intro h
    have hentries := congrArg Dict.entries h
    simpa only [entries_singleton, List.cons.injEq, Prod.mk.injEq, and_true] using hentries
  · rintro ⟨rfl, rfl⟩
    rfl

theorem Json.ofDict_inj {d e : Dict Json} (h : Json.ofDict d = Json.ofDict e) : d = e :=
  Dict.ext (Json.object.inj h)

section Conditions

/-- What a condition compares its field with, before the operator is put around it. -/
def Condition.converted (c : Condition) : Except Error Json :=
  if c.isDate then c.value.toDate else .ok c.value.toJson

/-- A document that no operator has been put around. -/
def Json.IsBare (j : Json) : Prop :=
  ∀ (op : ConditionOp) (symbol : String), op.symbol? = some symbol →
    ∀ inner, j ≠ .object [(symbol, inner)]

theorem Scalar.toDate_eq_ok_iff {s : Scalar} {j : Json} :
    s.toDate = .ok j ↔ ∃ moment, s.moment = .ok moment ∧ j = moment.toJson := by
  rw [toDate, bind_eq_ok_iff]
  simp only [pure_eq_ok, Except.ok.injEq, eq_comm (a := j)]

theorem ConditionValue.toDate_list_eq_ok_iff {values : List Scalar} {j : Json} :
    (ConditionValue.list values).toDate = .ok j ↔
      ∃ dates, List.Forall₂ (fun s date => s.toDate = .ok date) values dates ∧
        j = .array dates := by
  rw [toDate, bind_eq_ok_iff]
  simp only [mapM_eq_ok_iff, pure_eq_ok, Except.ok.injEq, eq_comm (a := j)]

theorem Json.isBare_date (moment : Moment) : moment.toJson.IsBare := by
  intro op symbol hsymbol inner h
  cases h
  cases op <;> exact absurd hsymbol (by decide)

theorem Condition.isBare_converted {c : Condition} {j : Json} (h : c.converted = .ok j) :
    j.IsBare := by
  unfold converted at h
  split at h
  · cases hvalue : c.value with
    | scalar value =>
        rw [hvalue] at h
        obtain ⟨moment, -, rfl⟩ := Scalar.toDate_eq_ok_iff.mp h
        exact Json.isBare_date moment
    | list values =>
        rw [hvalue] at h
        obtain ⟨dates, -, rfl⟩ := ConditionValue.toDate_list_eq_ok_iff.mp h
        exact fun _ _ _ _ hobject => by cases hobject
  · cases h
    intro op symbol _ inner hobject
    cases hvalue : c.value with
    | scalar value =>
        rw [hvalue] at hobject
        cases value <;> cases hobject
    | list values =>
        rw [hvalue] at hobject
        cases hobject

/-- The operator around a bare document can be told from the whole, and so can the document. -/
theorem ConditionOp.wrap_inj {op other : ConditionOp} {j k : Json} (hj : j.IsBare) (hk : k.IsBare)
    (h : op.wrap j = other.wrap k) : op = other ∧ j = k := by
  unfold wrap at h
  cases hop : op.symbol? with
  | none =>
      cases hother : other.symbol? with
      | none =>
          rw [hop, hother] at h
          exact ⟨symbol?_tellsApart.inj (hop.trans hother.symm), h⟩
      | some symbol =>
          rw [hop, hother] at h
          exact absurd h (hj other symbol hother k)
  | some symbol =>
      cases hother : other.symbol? with
      | none =>
          rw [hop, hother] at h
          exact absurd h.symm (hk op symbol hop j)
      | some otherSymbol =>
          rw [hop, hother] at h
          simp only [Json.object.injEq, List.cons.injEq, Prod.mk.injEq, and_true] at h
          obtain ⟨rfl, hjk⟩ := h
          exact ⟨symbol?_tellsApart.inj (hop.trans hother.symm), hjk⟩

theorem Condition.resolve_eq_ok_iff {c : Condition} {j : Json} :
    c.resolve = .ok j ↔
      ∃ value op, c.converted = .ok value ∧ op.name = c.op ∧ j = ConditionOp.wrap op value := by
  have hbind : c.resolve =
      c.converted >>= fun value => ConditionOp.parse c.op >>= fun op => pure (op.wrap value) := by
    rw [resolve_eq]
    unfold converted
    split <;> rfl
  simp only [hbind, bind_eq_ok_iff, ConditionOp.parse_eq_ok_iff, pure_eq_ok, Except.ok.injEq,
    eq_comm (a := j)]
  constructor
  · rintro ⟨value, hvalue, op, hop, rfl⟩
    exact ⟨value, op, hvalue, hop, rfl⟩
  · rintro ⟨value, op, hvalue, hop, rfl⟩
    exact ⟨value, hvalue, op, hop, rfl⟩

theorem ConditionValue.toJson_inj {v w : ConditionValue} (h : v.toJson = w.toJson) : v = w := by
  have hread := congrArg ConditionValue.ofJson? h
  rw [v.ofJson?_toJson, w.ofJson?_toJson] at hread
  exact Option.some.inj hread

theorem Moment.write_of_toJson {moment other : Moment} (h : moment.toJson = other.toJson) :
    moment.write = other.write := by
  simp only [toJson, Json.object.injEq, List.cons.injEq, Prod.mk.injEq, Json.string.injEq,
    and_true, true_and] at h
  exact String.ofList_injective h

theorem Scalar.toJson_ne_date (s : Scalar) (moment : Moment) : s.toJson ≠ moment.toJson := by
  cases s <;> exact fun h => by cases h

theorem Scalar.sameDate_of_toDate {s other : Scalar} {j : Json} (hs : s.toDate = .ok j)
    (hother : other.toDate = .ok j) : s.SameDate other := by
  obtain ⟨moment, hmoment, rfl⟩ := toDate_eq_ok_iff.mp hs
  obtain ⟨otherMoment, hotherMoment, heq⟩ := toDate_eq_ok_iff.mp hother
  exact ⟨moment, otherMoment, hmoment, hotherMoment, Moment.write_of_toJson heq⟩

/-- Values that are written as the same dates. -/
theorem ConditionValue.dates_eq_of_toDate {v w : ConditionValue} {j : Json}
    (hv : v.toDate = .ok j) (hw : w.toDate = .ok j) :
    v.SameKind w ∧ List.Forall₂ Scalar.SameDate v.scalars w.scalars := by
  cases v with
  | scalar s =>
      cases w with
      | scalar other => exact ⟨trivial, .cons (Scalar.sameDate_of_toDate hv hw) .nil⟩
      | list others =>
          obtain ⟨moment, -, rfl⟩ := Scalar.toDate_eq_ok_iff.mp hv
          obtain ⟨dates, -, hdates⟩ := toDate_list_eq_ok_iff.mp hw
          cases hdates
  | list values =>
      obtain ⟨dates, hdates, rfl⟩ := toDate_list_eq_ok_iff.mp hv
      cases w with
      | scalar other =>
          obtain ⟨moment, -, hmoment⟩ := Scalar.toDate_eq_ok_iff.mp hw
          cases hmoment
      | list others =>
          obtain ⟨otherDates, hotherDates, heq⟩ := toDate_list_eq_ok_iff.mp hw
          obtain rfl : dates = otherDates := Json.array.inj heq
          exact ⟨trivial,
            forall₂_of_common hdates hotherDates fun _ _ _ => Scalar.sameDate_of_toDate⟩

/-- A value that is written as dates is not written as it is by another condition, unless both are
the empty list. -/
theorem ConditionValue.toDate_ne_toJson {v w : ConditionValue} {j : Json} (hne : w ≠ .list [])
    (hv : v.toDate = .ok j) : w.toJson ≠ j := by
  rintro rfl
  cases v with
  | scalar s =>
      obtain ⟨moment, -, hmoment⟩ := Scalar.toDate_eq_ok_iff.mp hv
      cases w with
      | scalar other => exact Scalar.toJson_ne_date other moment hmoment
      | list others => cases hmoment
  | list values =>
      obtain ⟨dates, hdates, heq⟩ := toDate_list_eq_ok_iff.mp hv
      cases w with
      | scalar other => cases other <;> cases heq
      | list others =>
          cases others with
          | nil => exact hne rfl
          | cons other others =>
              obtain rfl : Scalar.toJson other :: others.map Scalar.toJson = dates :=
                Json.array.inj heq
              cases hdates with
              | cons hdate _ =>
                  obtain ⟨moment, -, hmoment⟩ := Scalar.toDate_eq_ok_iff.mp hdate
                  exact Scalar.toJson_ne_date other moment hmoment

theorem Condition.converted_of_isDate {c : Condition} (h : c.isDate = true) :
    c.converted = c.value.toDate := by
  rw [converted, if_pos h]

theorem Condition.converted_of_not_isDate {c : Condition} (h : c.isDate = false) :
    c.converted = .ok c.value.toJson := by
  rw [converted, h, if_neg Bool.false_ne_true]

/-- Whether dates are meant can be told from what a condition compares with. -/
theorem Condition.isDate_eq_of_converted {c other : Condition} {j : Json} (hc : c.Grammatical)
    (hother : other.Grammatical) (hvalue : c.converted = .ok j)
    (hotherValue : other.converted = .ok j) : c.isDate = other.isDate := by
  cases hdate : c.isDate with
  | false =>
      cases hotherDate : other.isDate with
      | false => rfl
      | true =>
          rw [converted_of_not_isDate hdate] at hvalue
          rw [converted_of_isDate hotherDate] at hotherValue
          exact absurd (Except.ok.inj hvalue)
            (ConditionValue.toDate_ne_toJson hc.value_ne hotherValue)
  | true =>
      cases hotherDate : other.isDate with
      | false =>
          rw [converted_of_isDate hdate] at hvalue
          rw [converted_of_not_isDate hotherDate] at hotherValue
          exact absurd (Except.ok.inj hotherValue)
            (ConditionValue.toDate_ne_toJson hother.value_ne hvalue)
      | true => rfl

/-- The part of a fragment that a condition makes tells what it asks of its field. -/
theorem Condition.agrees_of_resolve {c other : Condition} {j : Json} (hprop : c.prop = other.prop)
    (hc : c.Grammatical) (hother : other.Grammatical) (hresolve : c.resolve = .ok j)
    (hresolveOther : other.resolve = .ok j) : c.Agrees other := by
  obtain ⟨value, op, hvalue, hop, rfl⟩ := resolve_eq_ok_iff.mp hresolve
  obtain ⟨otherValue, otherOp, hotherValue, hotherOp, heq⟩ := resolve_eq_ok_iff.mp hresolveOther
  obtain ⟨rfl, rfl⟩ :=
    ConditionOp.wrap_inj (isBare_converted hvalue) (isBare_converted hotherValue) heq
  have hdate : c.isDate = other.isDate := isDate_eq_of_converted hc hother hvalue hotherValue
  refine ⟨hprop, hop.symm.trans hotherOp, hdate, fun hplain => ?_, fun hdated => ?_⟩
  · rw [converted_of_not_isDate hplain] at hvalue
    rw [converted_of_not_isDate (hdate ▸ hplain)] at hotherValue
    exact ConditionValue.toJson_inj (Except.ok.inj (hvalue.trans hotherValue.symm))
  · rw [converted_of_isDate hdated] at hvalue
    rw [converted_of_isDate (hdate ▸ hdated)] at hotherValue
    exact ConditionValue.dates_eq_of_toDate hvalue hotherValue

end Conditions

section Trees

/-- How a fragment is made up along a tree that has no `use` nodes and no strays. -/
inductive Slot.Makes (conditions : Dict Condition) : Slot → Query → Prop
  | name {named : String} {c : Condition} {value : Json}
      (hget : conditions.get? named = some c) (hresolve : c.resolve = .ok value) :
      Makes conditions (.name named) (Dict.singleton c.prop value)
  | pair {op : ExpressionOp} {symbol : String} {left right : Slot} {first second : Query}
      (hop : op.isBinary = true) (hsymbol : op.symbol? = some symbol)
      (hleft : Makes conditions left first) (hright : Makes conditions right second) :
      Makes conditions (.node op.name .empty left right)
        (Dict.singleton symbol (.array [.ofDict first, .ofDict second]))
  | around {op : ExpressionOp} {symbol : String} {condition : Slot} {operand : Query}
      (hop : op.isBinary = false) (hsymbol : op.symbol? = some symbol)
      (hcondition : Makes conditions condition operand) :
      Makes conditions (.node op.name condition .empty .empty)
        (Dict.singleton symbol (.ofDict operand))

namespace ExpressionOp

theorem mem_symbols {op : ExpressionOp} {symbol : String} (h : op.symbol? = some symbol) :
    symbol ∈ symbols := by
  cases op <;> cases h <;> decide

theorem symbol?_of_isBinary {op : ExpressionOp} (h : op.isBinary = true) :
    op.symbol? = some ("$" ++ op.name) := by
  cases op <;> first | rfl | cases h

end ExpressionOp

/-- The fragment of a tree is that of its core. -/
theorem Slot.makes_of_fragment {conditions : Dict Condition} {s : Slot} {depth : Nat}
    {fragment : Query} (h : s.fragment conditions depth = .ok fragment) :
    s.pruned.withoutUse.Makes conditions fragment := by
  induction s generalizing depth fragment with
  | empty => cases h
  | name named =>
      obtain ⟨c, hget, hc⟩ := Condition.fragmentNamed_eq_ok_iff.mp h
      obtain ⟨value, hresolve, rfl⟩ := Condition.fragment_eq_ok_iff.mp hc
      exact .name hget hresolve
  | node opName condition left right ihcondition ihleft ihright =>
      obtain ⟨op, hop, ⟨hbinary, first, second, hfirst, hsecond, rfl⟩ |
        ⟨hunary, operand, hoperand, rfl⟩⟩ := Slot.fragment_node_eq_ok h
      · obtain rfl := ExpressionOp.ofName?_eq_some_iff.mp hop
        have huse : op.name ≠ ExpressionOp.use.name := by
          cases op <;> first | decide | cases hbinary
        simp only [pruned, hop, hbinary, if_true, withoutUse, if_neg huse]
        exact .pair hbinary (ExpressionOp.symbol?_of_isBinary hbinary) (ihleft hfirst)
          (ihright hsecond)
      · obtain rfl := ExpressionOp.ofName?_eq_some_iff.mp hop
        simp only [pruned, hop, hunary, Bool.false_eq_true, if_false, withoutUse]
        cases hsymbol : op.symbol? with
        | none =>
            obtain rfl : op = .use := ExpressionOp.symbol?_tellsApart.inj hsymbol
            exact ihcondition hoperand
        | some symbol =>
            have huse : op.name ≠ ExpressionOp.use.name := by
              cases op <;> first | decide | cases hsymbol
            have haround : op.around operand = Dict.singleton symbol (.ofDict operand) := by
              simp only [ExpressionOp.around, hsymbol]
            rw [if_neg huse, haround]
            exact .around hunary hsymbol (ihcondition hoperand)

theorem Slot.Plain.prop_not_mem {conditions : Dict Condition} {named : String} {c : Condition}
    (h : (Slot.name named).Plain conditions) (hget : conditions.get? named = some c) :
    c.prop ∉ ExpressionOp.symbols :=
  (h named (List.mem_singleton.mpr rfl) c hget).2

theorem Slot.Plain.grammatical {conditions : Dict Condition} {named : String} {c : Condition}
    (h : (Slot.name named).Plain conditions) (hget : conditions.get? named = some c) :
    c.Grammatical :=
  Condition.check_eq_ok_iff.mp (h named (List.mem_singleton.mpr rfl) c hget).1

/-- In a table of conditions that are all in order every tree is plain. -/
theorem Slot.plain_of_entries {conditions : Dict Condition}
    (h : ∀ entry ∈ conditions.entries,
      entry.2.check (Table.conditions.entry entry.1) = .ok () ∧
        entry.2.prop ∉ ExpressionOp.symbols) (s : Slot) : s.Plain conditions :=
  fun _ _ _ hget => h _ (Dict.mem_entries_of_get? hget)

theorem Slot.plain_node {conditions : Dict Condition} {op : String} {condition left right : Slot} :
    (Slot.node op condition left right).Plain conditions ↔
      condition.Plain conditions ∧ left.Plain conditions ∧ right.Plain conditions :=
  forall_references_node

/-- A fragment under a field that is no operator's symbol is that of a leaf. -/
theorem Slot.Makes.of_field {conditions : Dict Condition} {s : Slot} {field : String} {value : Json}
    (h : s.Makes conditions (Dict.singleton field value)) (hfield : field ∉ ExpressionOp.symbols) :
    ∃ named c, s = .name named ∧ conditions.get? named = some c ∧ c.prop = field ∧
      c.resolve = .ok value := by
  generalize hfragment : Dict.singleton field value = fragment at h
  cases h with
  | @name named c _ hget hresolve =>
      obtain ⟨hprop, rfl⟩ := Dict.singleton_inj.mp hfragment
      exact ⟨named, c, rfl, hget, hprop.symm, hresolve⟩
  | pair _ hsymbol _ _ =>
      obtain ⟨rfl, -⟩ := Dict.singleton_inj.mp hfragment
      exact absurd (ExpressionOp.mem_symbols hsymbol) hfield
  | around _ hsymbol _ =>
      obtain ⟨rfl, -⟩ := Dict.singleton_inj.mp hfragment
      exact absurd (ExpressionOp.mem_symbols hsymbol) hfield

/-- A fragment under an operator's symbol is that of a node with that operator, because no field of
a leaf is such a symbol. -/
theorem Slot.Makes.of_symbol {conditions : Dict Condition} {s : Slot} {op : ExpressionOp}
    {symbol : String} {value : Json} (h : s.Makes conditions (Dict.singleton symbol value))
    (hsymbol : op.symbol? = some symbol) (hplain : s.Plain conditions) :
    (∃ left right first second, op.isBinary = true ∧ s = .node op.name .empty left right ∧
      left.Makes conditions first ∧ right.Makes conditions second ∧
      value = .array [.ofDict first, .ofDict second]) ∨
    ∃ condition operand, op.isBinary = false ∧ s = .node op.name condition .empty .empty ∧
      condition.Makes conditions operand ∧ value = .ofDict operand := by
  generalize hfragment : Dict.singleton symbol value = fragment at h
  cases h with
  | name hget _ =>
      obtain ⟨rfl, -⟩ := Dict.singleton_inj.mp hfragment
      exact absurd (ExpressionOp.mem_symbols hsymbol) (hplain.prop_not_mem hget)
  | pair hop hother hleft hright =>
      obtain ⟨rfl, rfl⟩ := Dict.singleton_inj.mp hfragment
      obtain rfl := ExpressionOp.symbol?_tellsApart.inj (hsymbol.trans hother.symm)
      exact Or.inl ⟨_, _, _, _, hop, rfl, hleft, hright, rfl⟩
  | around hop hother hcondition =>
      obtain ⟨rfl, rfl⟩ := Dict.singleton_inj.mp hfragment
      obtain rfl := ExpressionOp.symbol?_tellsApart.inj (hsymbol.trans hother.symm)
      exact Or.inr ⟨_, _, hop, rfl, hcondition, rfl⟩

/-- Two trees along which the same fragment is made up have one shape, and their leaves agree. -/
theorem Slot.Makes.unique {conditions others : Dict Condition} {s t : Slot} {fragment : Query}
    (hs : s.Makes conditions fragment) (ht : t.Makes others fragment)
    (hplain : s.Plain conditions) (hplainOther : t.Plain others) :
    s.Agree conditions others t := by
  induction hs generalizing t with
  | @name named c value hget hresolve =>
      obtain ⟨otherNamed, d, rfl, hgetOther, hprop, hresolveOther⟩ :=
        ht.of_field (hplain.prop_not_mem hget)
      have hagrees : c.Agrees d := Condition.agrees_of_resolve hprop.symm
        (hplain.grammatical hget) (hplainOther.grammatical hgetOther) hresolve hresolveOther
      exact ⟨rfl, .cons ⟨c, d, hget, hgetOther, hagrees⟩ .nil⟩
  | @pair op symbol left right first second hop hsymbol _ _ ihleft ihright =>
      rcases ht.of_symbol hsymbol hplainOther with
        ⟨otherLeft, otherRight, otherFirst, otherSecond, -, rfl, hleft, hright, hvalues⟩ |
        ⟨_, _, hunary, -⟩
      · simp only [Json.array.injEq, List.cons.injEq, and_true] at hvalues
        obtain rfl : first = otherFirst := Json.ofDict_inj hvalues.1
        obtain rfl : second = otherSecond := Json.ofDict_inj hvalues.2
        obtain ⟨-, hplainLeft, hplainRight⟩ := plain_node.mp hplain
        obtain ⟨-, hplainOtherLeft, hplainOtherRight⟩ := plain_node.mp hplainOther
        obtain ⟨houtlineLeft, hagreeLeft⟩ := ihleft hleft hplainLeft hplainOtherLeft
        obtain ⟨houtlineRight, hagreeRight⟩ := ihright hright hplainRight hplainOtherRight
        refine ⟨?_, List.rel_append hagreeLeft hagreeRight⟩
        simp only [outline, rename] at houtlineLeft houtlineRight ⊢
        rw [houtlineLeft, houtlineRight]
      · rw [hop] at hunary
        cases hunary
  | @around op symbol condition operand hop hsymbol _ ihcondition =>
      rcases ht.of_symbol hsymbol hplainOther with
        ⟨_, _, _, _, hbinary, -⟩ | ⟨otherCondition, otherOperand, -, rfl, hcondition, hvalue⟩
      · rw [hop] at hbinary
        cases hbinary
      · obtain rfl : operand = otherOperand := Json.ofDict_inj hvalue
        obtain ⟨hplainCondition, -, -⟩ := plain_node.mp hplain
        obtain ⟨hplainOtherCondition, -, -⟩ := plain_node.mp hplainOther
        obtain ⟨houtline, hagree⟩ := ihcondition hcondition hplainCondition hplainOtherCondition
        refine ⟨?_, ?_⟩
        · simp only [outline, rename] at houtline ⊢
          rw [houtline]
        · simpa only [references, List.append_nil] using hagree

/-- The gate lets no stray through at a node that evaluation comes to, nor anywhere below. -/
theorem Slot.pruned_of_check {entry : String} {conditions : Dict Condition} {s : Slot}
    {steps : List SlotName} {depth : Nat} (h : s.check entry conditions steps depth = .ok ()) :
    s.pruned = s := by
  induction s generalizing steps depth with
  | empty => rfl
  | name named => rfl
  | node opName condition left right ihcondition ihleft ihright =>
      obtain ⟨⟨op, hfits⟩, hright, hleft, hcondition⟩ := check_node_eq_ok_iff.mp h
      have hop : ExpressionOp.ofName? opName = some op :=
        ExpressionOp.ofName?_eq_some_iff.mpr hfits.known
      have hunused := hfits.unused
      cases hbinary : op.isBinary with
      | true =>
          rw [(ExpressionOp.usedSlots_of_isBinary hbinary).2, List.forall_mem_singleton] at hunused
          have hempty : condition = .empty := hunused
          simp only [pruned, hop, hbinary, if_true, ihleft hleft, ihright hright, hempty]
      | false =>
          rw [(ExpressionOp.usedSlots_of_not_isBinary hbinary).2, List.forall_mem_cons,
            List.forall_mem_singleton] at hunused
          have hempty : left = .empty ∧ right = .empty := hunused
          simp only [pruned, hop, hbinary, Bool.false_eq_true, if_false, ihcondition hcondition,
            hempty.1, hempty.2]

end Trees

namespace Expression

theorem core_of_check {entry : String} {conditions : Dict Condition} {e : Expression}
    (h : e.check entry conditions = .ok ()) : e.core = e.toSlot.withoutUse := by
  rw [check_eq_check] at h
  rw [core, Slot.pruned_of_check h]

/-- The fragment of an expression determines it, but for `use` nodes, strays, and the names of its
conditions. Strays do not come into it where the gate has accepted the expressions. -/
theorem core_agree_of_evaluate {e other : Expression} {conditions others : Dict Condition}
    {fragment : Query} (h : e.evaluate conditions = .ok fragment)
    (hother : other.evaluate others = .ok fragment) (hplain : e.core.Plain conditions)
    (hplainOther : other.core.Plain others) :
    e.core.Agree conditions others other.core ∧
      ∀ entry otherEntry, e.check entry conditions = .ok () →
        other.check otherEntry others = .ok () →
        e.toSlot.withoutUse.Agree conditions others other.toSlot.withoutUse := by
  rw [evaluate_eq_fragment] at h hother
  have hagree : e.core.Agree conditions others other.core :=
    Slot.Makes.unique (Slot.makes_of_fragment h) (Slot.makes_of_fragment hother) hplain hplainOther
  refine ⟨hagree, fun entry otherEntry hcheck hcheckOther => ?_⟩
  rw [← core_of_check hcheck, ← core_of_check hcheckOther]
  exact hagree

/-- A date in words, and the same date in milliseconds. -/
def dated : Dict Condition :=
  Dict.ofList [("A", ⟨"at", "greater_than", .scalar (.string "1970-01-01"), true⟩)]

def timed : Dict Condition :=
  Dict.ofList [("T", ⟨"at", "greater_than", .scalar (.number (.integer 0 (by decide))), true⟩)]

/-- A node within `use` that names its condition once more in a stray slot. -/
def notWithStray : Expression :=
  .unary .use (.node ⟨"not", .name "T", .name "T", .empty⟩)

def notSince1970 : Query :=
  Dict.singleton "$not" (.object [("at", .object [("$gt",
    .object [("$date", .string "1970-01-01T00:00:00.000Z")])])])

theorem core_agree_of_evaluate_dated :
    (unary .not (.name "A")).evaluate dated = .ok notSince1970 ∧
      notWithStray.evaluate timed = .ok notSince1970 ∧
      (unary .not (.name "A")).core.Agree dated timed notWithStray.core := by
  have hdated : (unary .not (.name "A")).evaluate dated = .ok notSince1970 := by
    rw [evaluate_eq_fragment]
    rfl
  have htimed : notWithStray.evaluate timed = .ok notSince1970 := by
    rw [evaluate_eq_fragment]
    rfl
  refine ⟨hdated, htimed, (core_agree_of_evaluate hdated htimed ?_ ?_).1⟩
  · exact Slot.plain_of_entries (List.forall_mem_singleton.mpr ⟨rfl, by decide⟩) _
  · exact Slot.plain_of_entries (List.forall_mem_singleton.mpr ⟨rfl, by decide⟩) _

/-- A stray leaves no mark in the fragment: two expressions with one fragment, over conditions that
are all in order, differ in a slot that the operator of its node does not use. -/
theorem fragment_hides_stray :
    (unary .not (.name "T")).evaluate timed = .ok notSince1970 ∧
      notWithStray.evaluate timed = .ok notSince1970 ∧
      (unary .not (.name "T")).toSlot.Plain timed ∧ notWithStray.toSlot.Plain timed ∧
      (unary .not (.name "T")).toSlot.withoutUse.outline ≠ notWithStray.toSlot.withoutUse.outline ∧
      ¬ (unary .not (.name "T")).toSlot.withoutUse.Agree timed timed
        notWithStray.toSlot.withoutUse := by
  have houtline : (unary .not (.name "T")).toSlot.withoutUse.outline ≠
      notWithStray.toSlot.withoutUse.outline := by
    decide
  refine ⟨?_, ?_, ?_, ?_, houtline, fun hagree => houtline hagree.1⟩
  · rw [evaluate_eq_fragment]
    rfl
  · rw [evaluate_eq_fragment]
    rfl
  · exact Slot.plain_of_entries (List.forall_mem_singleton.mpr ⟨rfl, by decide⟩) _
  · exact Slot.plain_of_entries (List.forall_mem_singleton.mpr ⟨rfl, by decide⟩) _

end Expression

end FilterBook
