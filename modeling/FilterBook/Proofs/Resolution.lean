import FilterBook.Proofs.Outcome
import FilterBook.Resolve

/-!
When a condition has a fragment, and what it is. The scalars of a date are converted in order, and
the first that is no date decides the error; the operator is looked up after that.
-/

namespace FilterBook

open Outcome

/-- The scalars of a value, in order. -/
def ConditionValue.scalars : ConditionValue → List Scalar
  | .scalar value => [value]
  | .list values => values

/-- Whether a scalar can be read as a moment. -/
def Scalar.Convertible (s : Scalar) : Prop :=
  ∃ moment, s.moment = .ok moment

namespace Condition

/-- The scalars that a condition has read as dates, in order. -/
def dates (c : Condition) : List Scalar :=
  if c.isDate then c.value.scalars else []

end Condition

/-- Asks of a scalar that it be a date. -/
def Scalar.checkDate (s : Scalar) : Except Error Unit :=
  verdict s.moment

namespace Scalar

/-- The first of some scalars that is no date, and why. -/
def FirstNonDate (scalars : List Scalar) (s : Scalar) (cause : DateFault) : Prop :=
  ∃ before after, scalars = before ++ s :: after ∧ (∀ x ∈ before, x.Convertible) ∧
    s.moment = .error (.invalidDate s cause)

theorem checkDate_eq_ok_iff {s : Scalar} : s.checkDate = .ok () ↔ s.Convertible :=
  verdict_eq_ok_iff

theorem verdict_toDate (s : Scalar) : verdict s.toDate = s.checkDate :=
  verdict_bind_pure s.moment _

theorem moment_number (value : Number) :
    (number value).moment =
      match Moment.ofMillis? value.millis with
      | some moment => .ok moment
      | none => .error (.invalidDate (.number value) .outOfRange) := by
  unfold moment
  rfl

theorem moment_string (text : String) :
    (string text).moment =
      match Date.read? (trim text.toList) with
      | some moment => .ok moment
      | none => .error (.invalidDate (.string text) .unrecognized) := by
  unfold moment
  rfl

/-- A scalar that is no date is named in the error. -/
theorem moment_eq_error {s : Scalar} {fault : Error} (h : s.moment = .error fault) :
    ∃ cause, fault = .invalidDate s cause := by
  cases s with
  | bool value =>
      cases h
      exact ⟨_, rfl⟩
  | number value =>
      rw [moment_number] at h
      cases hfound : Moment.ofMillis? value.millis with
      | none =>
          rw [hfound] at h
          cases h
          exact ⟨_, rfl⟩
      | some found =>
          rw [hfound] at h
          cases h
  | string text =>
      rw [moment_string] at h
      cases hfound : Date.read? (trim text.toList) with
      | none =>
          rw [hfound] at h
          cases h
          exact ⟨_, rfl⟩
      | some found =>
          rw [hfound] at h
          cases h

/-- A walk over scalars fails at the first that is no date. -/
theorem forM_checkDate_eq_error_iff {scalars : List Scalar} {fault : Error} :
    forM scalars checkDate = .error fault ↔
      ∃ s cause, FirstNonDate scalars s cause ∧ fault = .invalidDate s cause := by
  rw [forM_eq_error_iff]
  constructor
  · rintro ⟨before, s, after, hscalars, hbefore, hs⟩
    have hmoment : s.moment = .error fault := verdict_eq_error_iff.mp hs
    obtain ⟨cause, rfl⟩ := moment_eq_error hmoment
    exact ⟨s, cause, ⟨before, after, hscalars,
      fun x hx => checkDate_eq_ok_iff.mp (hbefore x hx), hmoment⟩, rfl⟩
  · rintro ⟨s, cause, ⟨before, after, hscalars, hbefore, hs⟩, rfl⟩
    exact ⟨before, s, after, hscalars, fun x hx => checkDate_eq_ok_iff.mpr (hbefore x hx),
      verdict_eq_error_iff.mpr hs⟩

theorem forM_checkDate_eq_ok_iff {scalars : List Scalar} :
    forM scalars checkDate = .ok () ↔ ∀ s ∈ scalars, s.Convertible := by
  simp only [forM_eq_ok_iff, checkDate_eq_ok_iff]

end Scalar

theorem ConditionValue.verdict_toDate (v : ConditionValue) :
    verdict v.toDate = forM v.scalars Scalar.checkDate := by
  cases v with
  | scalar value =>
      rw [toDate, Scalar.verdict_toDate, scalars, List.forM_cons, List.forM_nil]
      cases value.checkDate <;> rfl
  | list values =>
      rw [toDate, verdict_bind_pure, verdict_mapM]
      simp only [Scalar.verdict_toDate, scalars]

theorem ConditionOp.parse_eq_ok_iff {name : String} {op : ConditionOp} :
    parse name = .ok op ↔ op.name = name :=
  expect_eq_ok_iff.trans ofName?_eq_some_iff

namespace Condition

/-- A condition fails at the first of its dates that is none, and else only for its operator. -/
theorem verdict_resolve (c : Condition) :
    verdict c.resolve =
      forM c.dates Scalar.checkDate >>= fun _ => verdict (ConditionOp.parse c.op) := by
  rw [resolve_eq]
  unfold dates
  cases c.isDate with
  | false => exact verdict_bind_pure _ _
  | true =>
      simp only [if_true]
      rw [verdict_bind, ← c.value.verdict_toDate, verdict_bind_const]
      simp only [verdict_bind_pure]

theorem verdict_fragment (c : Condition) : verdict c.fragment = verdict c.resolve :=
  verdict_bind_pure _ _

/-- The two kinds of error that a condition alone gives rise to. -/
theorem fragment_eq_error {c : Condition} {fault : Error} (h : c.fragment = .error fault) :
    (∃ s cause, fault = .invalidDate s cause) ∨ fault = .unknownConditionOp c.op := by
  have hverdict : forM c.dates Scalar.checkDate >>= (fun _ => verdict (ConditionOp.parse c.op)) =
      .error fault := by
    rw [← verdict_resolve, ← verdict_fragment]
    exact verdict_eq_error_iff.mpr h
  rcases bind_eq_error_iff.mp hverdict with hdates | ⟨_, -, hop⟩
  · obtain ⟨s, cause, -, hfault⟩ := Scalar.forM_checkDate_eq_error_iff.mp hdates
    exact Or.inl ⟨s, cause, hfault⟩
  · exact Or.inr (expect_eq_error_iff.mp (verdict_eq_error_iff.mp hop)).2

end Condition

end FilterBook
