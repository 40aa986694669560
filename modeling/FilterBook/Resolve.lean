import FilterBook.Date.Read
import FilterBook.Definition.Write
import FilterBook.Error

/-!
A condition as a piece of a query: its value, as a date where the condition says so, within the
symbol of its operator, under the name of the field.
-/

namespace FilterBook

/-- The milliseconds that a double counts, without a fraction and held at the ends of the signed
64-bit numbers. -/
def Double.millis (value : Double) : Int :=
  max leastInteger (min value.truncate greatestSigned)

/-- The milliseconds that a number counts, as a signed 64-bit number. A whole number beyond those
counts as the double nearest to it. -/
def Number.millis : Number → Int
  | .integer value _ =>
      if value ≤ greatestSigned then value
      else
        match Double.ofNat? value.toNat with
        | some nearest => nearest.millis
        | none => greatestSigned
  | .double value => value.millis

/-- The moment that a scalar stands for: a date, or milliseconds since the start of 1970. -/
def Scalar.moment (s : Scalar) : Except Error Moment :=
  match s with
  | .bool _ => .error (.invalidDate s .boolean)
  | .number value =>
      match Moment.ofMillis? value.millis with
      | some moment => .ok moment
      | none => .error (.invalidDate s .outOfRange)
  | .string text =>
      match Date.read? (trim text.toList) with
      | some moment => .ok moment
      | none => .error (.invalidDate s .unrecognized)

/-- A date in a query. -/
def Moment.toJson (m : Moment) : Json :=
  .object [("$date", .string (String.ofList m.write))]

def Scalar.toDate (s : Scalar) : Except Error Json := do
  let moment ← s.moment
  pure moment.toJson

/-- A value with each of its scalars as a date. -/
def ConditionValue.toDate : ConditionValue → Except Error Json
  | .scalar value => value.toDate
  | .list values => do
      let dates ← values.mapM Scalar.toDate
      pure (.array dates)

namespace ConditionOp

/-- A value within the symbol of an operator. -/
def wrap (op : ConditionOp) (value : Json) : Json :=
  match op.symbol? with
  | none => value
  | some symbol => .object [(symbol, value)]

/-- What becomes of a value within each of the operators, by the operator's name. -/
def table : Dict (Json → Json) :=
  Dict.ofList (all.map fun op => (op.name, op.wrap))

/-- The operator of that name. -/
def parse (name : String) : Except Error ConditionOp :=
  expect (.unknownConditionOp name) (ofName? name)

theorem names_table : table.names = all.map name := by
  decide

/-- A name is in the table if it is that of an operator, and the operator is found under it. -/
theorem get?_table (name : String) : table.get? name = (ofName? name).map wrap := by
  cases hop : ofName? name with
  | some op =>
      obtain rfl := ofName?_eq_some_iff.mp hop
      cases op <;> rfl
  | none =>
      rw [Option.map_none, ← Option.not_isSome_iff_eq_none]
      show ¬ table.contains name = true
      rw [Dict.contains_iff_mem_names, names_table]
      intro hname
      obtain ⟨op, -, hop'⟩ := List.mem_map.mp hname
      rw [ofName?_eq_some_iff.mpr hop'] at hop
      cases hop

end ConditionOp

namespace Condition

/-- What a condition asks of its field. The value is converted before the operator is looked up. -/
def resolve (c : Condition) : Except Error Json := do
  let value ← if c.isDate then c.value.toDate else .ok c.value.toJson
  match ConditionOp.table.get? c.op with
  | some wrap => pure (wrap value)
  | none => .error (.unknownConditionOp c.op)

/-- The table knows the operators that have a name, and no others. -/
theorem resolve_eq (c : Condition) :
    c.resolve = (do
      let value ← if c.isDate then c.value.toDate else .ok c.value.toJson
      let op ← ConditionOp.parse c.op
      pure (op.wrap value)) := by
  rw [resolve, ConditionOp.get?_table, ConditionOp.parse]
  cases ConditionOp.ofName? c.op <;> rfl

/-- The condition as a piece of a query. -/
def fragment (c : Condition) : Except Error Query := do
  let value ← c.resolve
  pure (Dict.singleton c.prop value)

end Condition

end FilterBook
