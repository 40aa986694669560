/-!
The operators of conditions and of expressions: their names in a definition, and their symbols in a
query. `equals` and `use` have no symbol: they add nothing around what they hold. Names and symbols
tell the operators of one kind apart.
-/

namespace FilterBook

section Labels

variable {α β : Type} [BEq β] [LawfulBEq β] {all : List α} {label : α → β}

/-- A label tells the items of a type apart: in a list of them, each one is the first with its
label. -/
def TellsApart (all : List α) (label : α → β) : Prop :=
  ∀ item, all.find? (fun other => label other == label item) = some item

namespace TellsApart

/-- What is found under a label is the one item that has it. -/
theorem find?_eq_some_iff (h : TellsApart all label) {wanted : β} {item : α} :
    all.find? (fun other => label other == wanted) = some item ↔ label item = wanted := by
  constructor
  · intro hfound
    have hlabel := List.find?_some hfound
    exact eq_of_beq hlabel
  · rintro rfl
    exact h item

theorem inj (h : TellsApart all label) {item other : α} (heq : label item = label other) :
    item = other :=
  Option.some.inj ((h.find?_eq_some_iff.mpr heq).symm.trans (h other))

end TellsApart

end Labels

/-- Compares the value of one field. -/
inductive ConditionOp where
  | equals
  | different
  | isOneOf
  | isNotOneOf
  | greaterThan
  | greaterEqual
  | lessThan
  | lessEqual
  | isPresent
  | pattern
deriving DecidableEq, Repr

namespace ConditionOp

def all : List ConditionOp :=
  [equals, different, isOneOf, isNotOneOf, greaterThan, greaterEqual, lessThan, lessEqual,
    isPresent, pattern]

def name : ConditionOp → String
  | equals => "equals"
  | different => "different"
  | isOneOf => "is_one_of"
  | isNotOneOf => "is_not_one_of"
  | greaterThan => "greater_than"
  | greaterEqual => "greater_equal"
  | lessThan => "less_than"
  | lessEqual => "less_equal"
  | isPresent => "exists"
  | pattern => "pattern"

def symbol? : ConditionOp → Option String
  | equals => none
  | different => some "$ne"
  | isOneOf => some "$in"
  | isNotOneOf => some "$nin"
  | greaterThan => some "$gt"
  | greaterEqual => some "$gte"
  | lessThan => some "$lt"
  | lessEqual => some "$lte"
  | isPresent => some "$exists"
  | pattern => some "$regex"

/-- Whether the operator compares with a list only. -/
def requiresList : ConditionOp → Bool
  | isOneOf | isNotOneOf => true
  | _ => false

def ofName? (name : String) : Option ConditionOp :=
  all.find? fun op => op.name == name

theorem name_tellsApart : TellsApart all name := by
  intro op
  cases op <;> rfl

theorem symbol?_tellsApart : TellsApart all symbol? := by
  intro op
  cases op <;> rfl

theorem ofName?_eq_some_iff {name : String} {op : ConditionOp} :
    ofName? name = some op ↔ op.name = name :=
  name_tellsApart.find?_eq_some_iff

end ConditionOp

/-- Joins the operands of an expression node. -/
inductive ExpressionOp where
  | use
  | and
  | or
  | nor
  | not
  | matchElement
deriving DecidableEq, Repr

namespace ExpressionOp

def all : List ExpressionOp :=
  [use, and, or, nor, not, matchElement]

def name : ExpressionOp → String
  | use => "use"
  | and => "and"
  | or => "or"
  | nor => "nor"
  | not => "not"
  | matchElement => "match_element"

def symbol? : ExpressionOp → Option String
  | use => none
  | and => some "$and"
  | or => some "$or"
  | nor => some "$nor"
  | not => some "$not"
  | matchElement => some "$elemMatch"

/-- Whether a node takes its operands from `left` and `right`, and not from `condition`. -/
def isBinary : ExpressionOp → Bool
  | and | or | nor => true
  | _ => false

def ofName? (name : String) : Option ExpressionOp :=
  all.find? fun op => op.name == name

theorem name_tellsApart : TellsApart all name := by
  intro op
  cases op <;> rfl

theorem symbol?_tellsApart : TellsApart all symbol? := by
  intro op
  cases op <;> rfl

theorem ofName?_eq_some_iff {name : String} {op : ExpressionOp} :
    ofName? name = some op ↔ op.name = name :=
  name_tellsApart.find?_eq_some_iff

end ExpressionOp

end FilterBook
