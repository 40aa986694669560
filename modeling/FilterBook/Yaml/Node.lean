import FilterBook.Yaml.Anchor

/-!
Nodes with every alias replaced by the node that it stands for. What a document may hold is bounded:
collections nest to 128 levels, and aliases stand for others at most a hundred times as often as the
document has nodes and ends of collections. A node that holds an alias of itself has no end, and is
refused.
-/

namespace FilterBook.Yaml

inductive Node where
  | scalar (tag : Option Tag) (style : Style) (text : String)
  | sequence (tag : Option Tag) (items : List Node)
  | mapping (tag : Option Tag) (entries : List (Node × Node))

/-- How many levels of collections a document may nest. -/
def greatestNesting : Nat := 128

/-- How often aliases may be followed, for each event of a document. -/
def repetitionsPerEvent : Nat := 100

namespace Tree

mutual

/-- The beginnings and ends of collections, scalars and aliases in a document. -/
def events {Anchor : Type} : Tree Anchor → Nat
  | .alias _ => 1
  | .scalar _ _ _ _ => 1
  | .sequence _ _ items => 2 + eventsOfItems items
  | .mapping _ _ entries => 2 + eventsOfEntries entries

def eventsOfItems {Anchor : Type} : List (Tree Anchor) → Nat
  | [] => 0
  | item :: items => events item + eventsOfItems items

def eventsOfEntries {Anchor : Type} : List (Tree Anchor × Tree Anchor) → Nat
  | [] => 0
  | entry :: entries => events entry.1 + events entry.2 + eventsOfEntries entries

end

/-- How often aliases may still be followed, and a result if they may. -/
abbrev Following := StateT Nat Option

/-- The node that a tree is, or that it stands for as an alias. -/
def follow? (latest : Targets) : Numbered → Following Numbered
  | .alias number => fun budget =>
      match budget, latest.lookup number with
      | budget + 1, some target => some (target, budget)
      | _, _ => none
  | tree => pure tree

/-- The node of a tree with no more than the given number of levels of collections. -/
def expand? (latest : Targets) : (levels : Nat) → Numbered → Following Node
  | levels, tree => do
      match ← follow? latest tree with
      | .alias _ => failure
      | .scalar _ tag style text => pure (.scalar tag style text)
      | .sequence _ tag items =>
          match levels with
          | 0 => failure
          | levels + 1 => do
              let items ← items.mapM (expand? latest levels)
              pure (.sequence tag items)
      | .mapping _ tag entries =>
          match levels with
          | 0 => failure
          | levels + 1 => do
              let entries ← entries.mapM fun entry => do
                let key ← expand? latest levels entry.1
                let value ← expand? latest levels entry.2
                pure (key, value)
              pure (.mapping tag entries)

end Tree

/-- The node of a document, within the bounds. -/
def Node.ofTree? (tree : Tree.Spelled) : Option Node := do
  let (numbered, _) ← tree.number? Dict.empty
  let budget := repetitionsPerEvent * tree.events
  let (node, _) ← numbered.expand? numbered.latest greatestNesting budget
  some node

/-- The node of a text that holds one document, or none where it holds no document. -/
def Node.ofText? (text : List Char) : Option (Option Node) := do
  let tokens ← Token.ofText? text
  match ← Tree.ofTokens? tokens with
  | none => some none
  | some tree => do
      let node ← Node.ofTree? tree
      some (some node)

end FilterBook.Yaml
