import FilterBook.Compile
import FilterBook.Load

/-!
A definition that is put together step by step: entries are built in code or read from text, and in
between the definition is asked for what it is, whether it passes the check, and what it compiles
to. A step that fails leaves the definition as it was.
-/

namespace FilterBook

/-- An operand as it is described in code, with the names of operators. -/
inductive Draft where
  | name (condition : String)
  | unary (op : String) (operand : Draft)
  | binary (op : String) (left right : Draft)

/-- The operand of a draft. Its operators must be known, though a node may take the wrong slots for
its operator. -/
def Draft.operand : Draft → Except Error Operand
  | .name condition => .ok (.name condition)
  | .unary op operand => do
      let op ← ExpressionOp.parse op
      let operand ← operand.operand
      pure (.node (.unary op operand))
  | .binary op left right => do
      let op ← ExpressionOp.parse op
      let left ← left.operand
      let right ← right.operand
      pure (.node (.binary op left right))

/-- The expression of a draft. A name alone is used as it is. -/
def Draft.expression (d : Draft) : Except Error Expression := do
  match ← d.operand with
  | .name condition => pure (.unary .use (.name condition))
  | .node expression => pure expression

/-- An expression within a number of nodes of one operator. -/
def Expression.wrap (op : ExpressionOp) (e : Expression) : Nat → Expression
  | 0 => e
  | times + 1 => .unary op (.node (e.wrap op times))

inductive Step where
  | condition (name : String) (condition : Condition)
  | expression (name : String) (draft : Draft)
  | wrap (name op : String) (times : Nat)
  | load (format : Format) (text : String)
  | extend (format : Format) (text : String)
  | definition
  | check
  | build
  | buildUnchecked
  | compile
  | compileExpressions
  | evaluate (name : String)

inductive Reply where
  /-- The names of both tables after a change. -/
  | names (definition : Definition)
  | definition (definition : Definition)
  | valid
  | query (query : Query)
  | fragment (fragment : Query)
  | rejected
  /-- The step names an expression that there is not. -/
  | noExpression (name : String)

namespace Step

/-- Answers a question about a definition. -/
def ask {α : Type} (d : Definition) (answer : Except Error α) (reply : α → Reply) :
    Except Error (Definition × Reply) :=
  answer.map fun value => (d, reply value)

/-- Carries out a change of a definition. -/
def change (d : Except Error Definition) : Except Error (Definition × Reply) :=
  d.map fun d => (d, .names d)

def run (d : Definition) : Step → Except Error (Definition × Reply)
  | .condition name added =>
      change (.ok { d with conditions := d.conditions.insert name added })
  | .expression name draft =>
      change <| draft.expression.map fun added =>
        { d with expressions := d.expressions.insert name added }
  | .wrap name op times =>
      match d.expressions.get? name with
      | none => .ok (d, .noExpression name)
      | some old =>
          change <| (ExpressionOp.parse op).map fun op =>
            { d with expressions := d.expressions.insert name (old.wrap op times) }
  | .load format text => change (Definition.ofText format text)
  | .extend format text => change ((Definition.ofText format text).map d.extend)
  | .definition => .ok (d, .definition d)
  | .check => ask d d.check fun _ => .valid
  | .build => ask d d.build .query
  | .buildUnchecked => ask d d.buildUnchecked .query
  | .compile =>
      match d.compile with
      | .ok query => .ok (d, .query query)
      | .error _ => .ok (d, .rejected)
  | .compileExpressions => ask d (FilterBook.compileExpressions d.expressions d.conditions) .query
  | .evaluate name =>
      match d.expressions.get? name with
      | none => .ok (d, .noExpression name)
      | some asked => ask d (asked.evaluate d.conditions) .fragment

end Step

/-- Carries out steps one after the other, and collects what each answers. -/
def runSteps (d : Definition) : List Step → List (Except Error Reply)
  | [] => []
  | step :: steps =>
      match step.run d with
      | .ok (next, reply) => .ok reply :: runSteps next steps
      | .error fault => .error fault :: runSteps d steps

end FilterBook
