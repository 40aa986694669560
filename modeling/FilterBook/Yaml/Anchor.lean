import FilterBook.Dict
import FilterBook.Yaml.Tree

/-!
Which node an alias stands for. Anchors are numbered in the order of the text: each takes the number
of different names so far. A name that comes again therefore takes a new number, which the next new
name takes as well. An alias has the number that its name has where the alias stands, and stands for
the last node of the whole document with that number.
-/

namespace FilterBook.Yaml.Tree

/-- A tree where anchors are numbers. -/
abbrev Numbered := Tree Nat

/-- The names of anchors so far, each with its latest number. -/
abbrev Numbers := Dict Nat

/-- The number of an anchor, if there is one, and the names after it. -/
def Numbers.announce (numbers : Numbers) : Option String → Option Nat × Numbers
  | none => (none, numbers)
  | some name =>
      let number := numbers.names.length
      (some number, numbers.insert name number)

mutual

/-- Numbers the anchors of a tree. Each alias must have a name that has come before it. -/
def number? (numbers : Numbers) : Spelled → Option (Numbered × Numbers)
  | .alias name => (numbers.get? name).map fun number => (.alias number, numbers)
  | .scalar anchor tag style text =>
      let (anchor, numbers) := numbers.announce anchor
      some (.scalar anchor tag style text, numbers)
  | .sequence anchor tag items => do
      let (anchor, numbers) := numbers.announce anchor
      let (items, numbers) ← numberItems? numbers items
      some (.sequence anchor tag items, numbers)
  | .mapping anchor tag entries => do
      let (anchor, numbers) := numbers.announce anchor
      let (entries, numbers) ← numberEntries? numbers entries
      some (.mapping anchor tag entries, numbers)

def numberItems? (numbers : Numbers) : List Spelled → Option (List Numbered × Numbers)
  | [] => some ([], numbers)
  | item :: items => do
      let (item, numbers) ← number? numbers item
      let (items, numbers) ← numberItems? numbers items
      some (item :: items, numbers)

def numberEntries? (numbers : Numbers) :
    List (Spelled × Spelled) → Option (List (Numbered × Numbered) × Numbers)
  | [] => some ([], numbers)
  | entry :: entries => do
      let (key, numbers) ← number? numbers entry.1
      let (value, numbers) ← number? numbers entry.2
      let (entries, numbers) ← numberEntries? numbers entries
      some ((key, value) :: entries, numbers)

end

/-- A node with the number of its anchor, if it has one. -/
def target (anchor : Option Nat) (tree : Numbered) : List (Nat × Numbered) :=
  anchor.toList.map fun number => (number, tree)

mutual

/-- The nodes with an anchor, in the order in which they start. -/
def targets : Numbered → List (Nat × Numbered)
  | .alias _ => []
  | .scalar anchor tag style text => target anchor (.scalar anchor tag style text)
  | .sequence anchor tag items =>
      target anchor (.sequence anchor tag items) ++ targetsOfItems items
  | .mapping anchor tag entries =>
      target anchor (.mapping anchor tag entries) ++ targetsOfEntries entries

def targetsOfItems : List Numbered → List (Nat × Numbered)
  | [] => []
  | item :: items => targets item ++ targetsOfItems items

def targetsOfEntries : List (Numbered × Numbered) → List (Nat × Numbered)
  | [] => []
  | entry :: entries => targets entry.1 ++ (targets entry.2 ++ targetsOfEntries entries)

end

/-- The last node with each number. -/
abbrev Targets := List (Nat × Numbered)

/-- What aliases stand for, the last node first. -/
def latest (tree : Numbered) : Targets :=
  tree.targets.reverse

end FilterBook.Yaml.Tree
