import FilterBook.Check

/-!
From a definition to its query. The fragments of all expressions are merged in order: a key that
comes again takes the later value and keeps its place.
-/

namespace FilterBook

/-- Merges the fragment of each expression into the query so far. -/
def mergeFragments (conditions : Dict Condition) (query : Query) :
    List (String × Expression) → Except Error Query
  | [] => .ok query
  | entry :: entries => do
      let fragment ← entry.2.evaluate conditions
      mergeFragments conditions (query.insertAll fragment.entries) entries

/-- The query of some expressions, without any check. -/
def compileExpressions (expressions : Dict Expression) (conditions : Dict Condition) :
    Except Error Query :=
  mergeFragments conditions .empty expressions.entries

namespace Definition

/-- The query of a definition that has not been checked. -/
def buildUnchecked (d : Definition) : Except Error Query :=
  compileExpressions d.expressions d.conditions

/-- The query of a definition. Nothing is compiled unless all of it passes the check. -/
def build (d : Definition) : Except Error Query := do
  d.check
  d.buildUnchecked

end Definition

/-- The answer to a definition that has no query, whatever the reason. -/
structure Rejected where
deriving DecidableEq, Repr

def Rejected.message (_ : Rejected) : String :=
  "query definition rejected"

/-- The query of a definition, or a rejection without a reason. -/
def Definition.compile (d : Definition) : Except Rejected Query :=
  match d.build with
  | .ok query => .ok query
  | .error _ => .error {}

end FilterBook
