import FilterBook.Proofs.Stamp

/-!
What becomes of a condition. Its value is converted first, scalar by scalar and all or nothing; then
its operator is looked up, and put around the result. So the first scalar that is no date comes
before an unknown operator, and the operators that are found are those that the gate lets pass.
-/

namespace FilterBook

open Outcome

/-- A scalar, and the document that is nothing but that scalar. -/
inductive Scalar.Copied : Scalar → Json → Prop
  | bool (value : Bool) : Copied (.bool value) (.bool value)
  | number (value : Number) : Copied (.number value) (.number value)
  | string (text : String) : Copied (.string text) (.string text)

/-- A scalar, and the date of its moment. -/
inductive Scalar.Dated : Scalar → Json → Prop
  | date {s : Scalar} {m : Moment} (h : s.moment = .ok m) : Dated s (dateJson m.write)

/-- A value, and what it is with its scalars converted one by one: a scalar stays a scalar, and a
list is a list of as many, in the same order. -/
inductive ConditionValue.Becomes (element : Scalar → Json → Prop) : ConditionValue → Json → Prop
  | scalar {s : Scalar} {j : Json} (h : element s j) : Becomes element (.scalar s) j
  | list {ss : List Scalar} {js : List Json} (h : List.Forall₂ element ss js) :
      Becomes element (.list ss) (.array js)

namespace Condition

/-- What a condition compares its field with: dates where it says so, otherwise its value as it is.
-/
def Converts (c : Condition) (j : Json) : Prop :=
  c.value.Becomes (if c.isDate then Scalar.Dated else Scalar.Copied) j

end Condition

namespace ConditionOp

/-- A document, and what an operator makes of it: `equals` leaves it bare, and every other operator
is an object with its symbol as the only key. -/
inductive Around : ConditionOp → Json → Json → Prop
  | bare {j : Json} : Around .equals j j
  | key {op : ConditionOp} {symbol : String} {j : Json} (hop : op ≠ .equals)
      (hsymbol : op.symbol? = some symbol) : Around op j (.object [(symbol, j)])

theorem around_wrap (op : ConditionOp) (j : Json) : op.Around j (op.wrap j) := by
  by_cases hop : op = .equals
  · subst hop
    exact .bare
  · cases hsymbol : op.symbol? with
    | none => exact absurd (symbol?_tellsApart.inj hsymbol) hop
    | some symbol =>
        rw [wrap, hsymbol]
        exact .key hop hsymbol

theorem parse_eq_error_iff {name : String} {fault : Error} :
    parse name = .error fault ↔ ofName? name = none ∧ fault = .unknownConditionOp name :=
  expect_eq_error_iff

end ConditionOp

theorem Scalar.copied_toJson (s : Scalar) : s.Copied s.toJson := by
  cases s with
  | bool value => exact .bool value
  | number value => exact .number value
  | string text => exact .string text

namespace ConditionValue

theorem becomes_toJson (v : ConditionValue) : v.Becomes Scalar.Copied v.toJson := by
  cases v with
  | scalar s => exact .scalar s.copied_toJson
  | list ss =>
      refine .list ?_
      rw [List.forall₂_map_right_iff, List.forall₂_same]
      exact fun s _ => s.copied_toJson

theorem becomes_of_toDate {v : ConditionValue} {j : Json} (h : v.toDate = .ok j) :
    v.Becomes Scalar.Dated j := by
  have hdate {s : Scalar} {j : Json} (h : s.toDate = .ok j) : s.Dated j := by
    obtain ⟨m, hm, rfl⟩ := Scalar.toDate_eq_ok_iff.mp h
    exact .date hm
  cases v with
  | scalar s => exact .scalar (hdate h)
  | list ss =>
      obtain ⟨dates, hdates, rfl⟩ := toDate_list_eq_ok_iff.mp h
      exact .list (hdates.imp fun _ _ => hdate)

end ConditionValue

namespace Condition

variable {c : Condition}

theorem converts_of_converted {j : Json} (h : c.converted = .ok j) : c.Converts j := by
  unfold Converts
  cases hdate : c.isDate with
  | true =>
      rw [converted_of_isDate hdate] at h
      exact ConditionValue.becomes_of_toDate h
  | false =>
      rw [converted, hdate] at h
      cases h
      exact c.value.becomes_toJson

/-- A scalar that is no date is reported whatever the operator is. -/
theorem resolve_eq_invalidDate_iff {s : Scalar} {cause : DateFault} :
    c.resolve = .error (.invalidDate s cause) ↔ Scalar.FirstNonDate c.dates s cause := by
  rw [← verdict_eq_error_iff, verdict_resolve, bind_eq_error_iff,
    Scalar.forM_checkDate_eq_error_iff]
  constructor
  · rintro (⟨s', cause', hfirst, hfault⟩ | ⟨_, -, hparse⟩)
    · cases hfault
      exact hfirst
    · rw [verdict_eq_error_iff, ConditionOp.parse_eq_error_iff] at hparse
      cases hparse.2
  · exact fun hfirst => Or.inl ⟨s, cause, hfirst, rfl⟩

/-- The operator is looked up once all scalars are converted. -/
theorem resolve_eq_unknown_iff (hdates : ∀ s ∈ c.dates, s.Convertible) :
    c.resolve = .error (.unknownConditionOp c.op) ↔ ConditionOp.ofName? c.op = none := by
  rw [← verdict_eq_error_iff, verdict_resolve, Scalar.forM_checkDate_eq_ok_iff.mpr hdates, ok_bind,
    verdict_eq_error_iff, ConditionOp.parse_eq_error_iff]
  exact and_iff_left rfl

theorem exists_resolve {op : ConditionOp} (hdates : ∀ s ∈ c.dates, s.Convertible)
    (hop : ConditionOp.ofName? c.op = some op) :
    ∃ value json, c.Converts value ∧ op.Around value json ∧ c.resolve = .ok json := by
  have hparse : ConditionOp.parse c.op = .ok op :=
    ConditionOp.parse_eq_ok_iff.mpr (ConditionOp.ofName?_eq_some_iff.mp hop)
  have hverdict : verdict c.resolve = .ok () := by
    rw [verdict_resolve, Scalar.forM_checkDate_eq_ok_iff.mpr hdates, ok_bind, hparse]
    rfl
  obtain ⟨json, hjson⟩ := verdict_eq_ok_iff.mp hverdict
  obtain ⟨value, other, hvalue, hother, rfl⟩ := resolve_eq_ok_iff.mp hjson
  obtain rfl : op = other :=
    Option.some.inj (hop.symm.trans (ConditionOp.ofName?_eq_some_iff.mpr hother))
  exact ⟨value, _, converts_of_converted hvalue, op.around_wrap value, hjson⟩

/-- A condition fails at the first of its dates that is none, whatever its operator; if there is no
such scalar it fails just when the gate does not know its operator; and otherwise it is its value,
converted and with the operator around it. -/
theorem resolve_converts_then_wraps (c : Condition) :
    (∀ s cause, c.resolve = .error (.invalidDate s cause) ↔ Scalar.FirstNonDate c.dates s cause) ∧
    ((∀ s ∈ c.dates, s.Convertible) →
      (c.resolve = .error (.unknownConditionOp c.op) ↔ ConditionOp.ofName? c.op = none) ∧
      ∀ op, ConditionOp.ofName? c.op = some op →
        ∃ value json, c.Converts value ∧ op.Around value json ∧ c.resolve = .ok json) :=
  ⟨fun _ _ => resolve_eq_invalidDate_iff, fun hdates =>
    ⟨resolve_eq_unknown_iff hdates, fun _ hop => exists_resolve hdates hop⟩⟩

/-- A condition on a list of dates. -/
def onDates (op : String) (values : List Scalar) : Condition :=
  ⟨"at", op, .list values, true⟩

/-- Of three faults the first in the list is reported; without these the unknown operator is, and
without that the dates are wrapped. -/
theorem resolve_converts_then_wraps_onDates :
    (onDates "In" [.string "1970-01-01", .bool true, .string "never"]).resolve =
        .error (.invalidDate (.bool true) .boolean) ∧
      (onDates "In" [.string "1970-01-01", .number (.integer 0 (by decide))]).resolve =
        .error (.unknownConditionOp "In") ∧
      ∃ value json,
        (onDates "is_one_of" [.string "1970-01-01", .number (.integer 0 (by decide))]).Converts
            value ∧
          ConditionOp.isOneOf.Around value json ∧
          (onDates "is_one_of" [.string "1970-01-01", .number (.integer 0 (by decide))]).resolve =
            .ok json := by
  have hfirst : Scalar.Convertible (.string "1970-01-01") := ⟨_, rfl⟩
  have hsecond : Scalar.Convertible (.number (.integer 0 (by decide))) := ⟨_, rfl⟩
  have hdates (op : String) : ∀ s ∈ (onDates op
      [.string "1970-01-01", .number (.integer 0 (by decide))]).dates, s.Convertible :=
    List.forall_mem_cons.mpr ⟨hfirst, List.forall_mem_singleton.mpr hsecond⟩
  refine ⟨((resolve_converts_then_wraps _).1 _ _).mpr ?_,
    ((resolve_converts_then_wraps _).2 (hdates "In")).1.mpr rfl,
    ((resolve_converts_then_wraps _).2 (hdates "is_one_of")).2 _ rfl⟩
  exact ⟨[.string "1970-01-01"], [.string "never"], rfl, List.forall_mem_singleton.mpr hfirst, rfl⟩

end Condition

end FilterBook
