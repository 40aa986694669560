import FilterBook.Yaml.Token

/-!
The tree of nodes that the tokens of a document spell, with anchors and aliases as they stand in the
text and tags in full. A node that is left out is an empty plain scalar.
-/

namespace FilterBook.Yaml

inductive Tree (Anchor : Type) where
  | alias (anchor : Anchor)
  | scalar (anchor : Option Anchor) (tag : Option Tag) (style : Style) (text : String)
  | sequence (anchor : Option Anchor) (tag : Option Tag) (items : List (Tree Anchor))
  | mapping (anchor : Option Anchor) (tag : Option Tag) (entries : List (Tree Anchor × Tree Anchor))

namespace Tree

/-- A tree as it is spelled, where anchors are names. -/
abbrev Spelled := Tree String

instance {Anchor : Type} : Inhabited (Tree Anchor) := ⟨.scalar none none .plain ""⟩

/-- A node that is left out. -/
def omitted : Spelled :=
  .scalar none none .plain ""

/-- What stands before a node: its anchor and its tag. -/
structure Properties where
  anchor : Option String
  tag : Option Tag

/-- The handles of tags, and what each stands for. -/
abbrev Handles := List (String × Tag)

/-- The handles that need no directive. -/
def commonHandles : Handles :=
  [("!", Tag.mark), ("!!", Tag.common)]

/-- A tag in full. Its handle must be known, if it has one. -/
def fullTag? (handles : Handles) (handle : String) (suffix : Tag) : Option Tag :=
  if handle.isEmpty then some suffix
  else (handles.lookup handle).map fun stem => stem.append suffix

/-- Anchor and tag before a node, in either order. -/
def properties? (handles : Handles) : List Token → Option (Properties × List Token)
  | .anchor name :: .tag handle suffix :: rest => do
      let tag ← fullTag? handles handle suffix
      some (⟨some name, some tag⟩, rest)
  | .anchor name :: rest => some (⟨some name, none⟩, rest)
  | .tag handle suffix :: .anchor name :: rest => do
      let tag ← fullTag? handles handle suffix
      some (⟨some name, some tag⟩, rest)
  | .tag handle suffix :: rest => do
      let tag ← fullTag? handles handle suffix
      some (⟨none, some tag⟩, rest)
  | rest => some (⟨none, none⟩, rest)

/-- Whether a node is left out before one of these tokens. -/
def omitsBefore (ends : List Token) : List Token → Bool
  | [] => false
  | token :: _ => ends.contains token

/-- Where a node of a collection may stand: in a block, in a block with entries that are not
indented, or in a flow collection. -/
inductive Position where
  | block
  | unindented
  | flow
deriving DecidableEq, Repr

mutual

/-- A node at the front of the tokens, and the tokens after it. -/
def node? (handles : Handles) :
    (fuel : Nat) → Position → List Token → Option (Spelled × List Token)
  | 0, _, _ => none
  | fuel + 1, position, tokens =>
      match tokens with
      | .alias name :: rest => some (.alias name, rest)
      | _ => do
          let (⟨anchor, tag⟩, rest) ← properties? handles tokens
          match rest with
          | .blockEntry :: _ =>
              if position = .unindented then do
                let (items, rest) ← entries? handles fuel true rest
                some (.sequence anchor tag items, rest)
              else if anchor.isSome || tag.isSome then
                some (.scalar anchor tag .plain "", rest)
              else none
          | .scalar style text :: rest =>
              some (.scalar anchor tag style text, rest)
          | .flowSequence :: rest => do
              let (items, rest) ← flowItems? handles fuel true rest
              some (.sequence anchor tag items, rest)
          | .flowMapping :: rest => do
              let (entries, rest) ← flowFields? handles fuel true rest
              some (.mapping anchor tag entries, rest)
          | .blockSequence :: after =>
              if position ≠ .flow then do
                let (items, rest) ← entries? handles fuel false after
                some (.sequence anchor tag items, rest)
              else if anchor.isSome || tag.isSome then
                some (.scalar anchor tag .plain "", rest)
              else none
          | .blockMapping :: after =>
              if position ≠ .flow then do
                let (entries, rest) ← fields? handles fuel after
                some (.mapping anchor tag entries, rest)
              else if anchor.isSome || tag.isSome then
                some (.scalar anchor tag .plain "", rest)
              else none
          | _ =>
              if anchor.isSome || tag.isSome then some (.scalar anchor tag .plain "", rest)
              else none

/-- The entries of a block sequence. One that is not indented has no token for its end. -/
def entries? (handles : Handles) :
    (fuel : Nat) → (unindented : Bool) → List Token → Option (List Spelled × List Token)
  | 0, _, _ => none
  | fuel + 1, unindented, tokens =>
      match tokens with
      | .blockEntry :: rest => do
          let ends :=
            if unindented then [Token.blockEntry, .key, .value, .blockEnd]
            else [Token.blockEntry, .blockEnd]
          let (item, rest) ←
            if omitsBefore ends rest then some (omitted, rest)
            else node? handles fuel .block rest
          let (items, rest) ← entries? handles fuel unindented rest
          some (item :: items, rest)
      | .blockEnd :: rest => some ([], if unindented then tokens else rest)
      | _ => if unindented then some ([], tokens) else none

/-- The entries of a block mapping. -/
def fields? (handles : Handles) :
    (fuel : Nat) → List Token → Option (List (Spelled × Spelled) × List Token)
  | 0, _ => none
  | fuel + 1, tokens =>
      match tokens with
      | .key :: rest => do
          let ends := [Token.key, .value, .blockEnd]
          let (key, rest) ←
            if omitsBefore ends rest then some (omitted, rest)
            else node? handles fuel .unindented rest
          let (value, rest) ←
            match rest with
            | .value :: rest =>
                if omitsBefore ends rest then some (omitted, rest)
                else node? handles fuel .unindented rest
            | _ => some (omitted, rest)
          let (entries, rest) ← fields? handles fuel rest
          some ((key, value) :: entries, rest)
      | .blockEnd :: rest => some ([], rest)
      | _ => none

/-- The items of a flow sequence. An item may be an entry of a mapping. -/
def flowItems? (handles : Handles) :
    (fuel : Nat) → (first : Bool) → List Token → Option (List Spelled × List Token)
  | 0, _, _ => none
  | fuel + 1, first, tokens => do
      match tokens with
      | .flowSequenceEnd :: rest => some ([], rest)
      | _ => do
          let tokens ←
            if first then some tokens
            else
              match tokens with
              | .flowEntry :: rest => some rest
              | _ => none
          match tokens with
          | .flowSequenceEnd :: rest => some ([], rest)
          | .key :: rest => do
              let (entry, rest) ← flowPair? handles fuel rest
              let (items, rest) ← flowItems? handles fuel false rest
              some (.mapping none none [entry] :: items, rest)
          | _ => do
              let (item, rest) ← node? handles fuel .flow tokens
              let (items, rest) ← flowItems? handles fuel false rest
              some (item :: items, rest)

/-- An entry of a mapping within a flow sequence, after the token for its key. Where the key is left
out, the token after it is passed over. -/
def flowPair? (handles : Handles) :
    (fuel : Nat) → List Token → Option ((Spelled × Spelled) × List Token)
  | 0, _ => none
  | fuel + 1, tokens => do
      let ends := [Token.flowEntry, .flowSequenceEnd]
      let (key, rest) ←
        if omitsBefore (.value :: ends) tokens then some (omitted, tokens.drop 1)
        else node? handles fuel .flow tokens
      let (value, rest) ←
        match rest with
        | .value :: rest =>
            if omitsBefore ends rest then some (omitted, rest)
            else node? handles fuel .flow rest
        | _ => some (omitted, rest)
      some ((key, value), rest)

/-- The entries of a flow mapping. -/
def flowFields? (handles : Handles) :
    (fuel : Nat) → (first : Bool) → List Token → Option (List (Spelled × Spelled) × List Token)
  | 0, _, _ => none
  | fuel + 1, first, tokens => do
      let ends := [Token.flowEntry, .flowMappingEnd]
      match tokens with
      | .flowMappingEnd :: rest => some ([], rest)
      | _ => do
          let tokens ←
            if first then some tokens
            else
              match tokens with
              | .flowEntry :: rest => some rest
              | _ => none
          match tokens with
          | .flowMappingEnd :: rest => some ([], rest)
          | .key :: rest => do
              let (key, rest) ←
                if omitsBefore (.value :: ends) rest then some (omitted, rest)
                else node? handles fuel .flow rest
              let (value, rest) ←
                match rest with
                | .value :: rest =>
                    if omitsBefore ends rest then some (omitted, rest)
                    else node? handles fuel .flow rest
                | _ => some (omitted, rest)
              let (entries, rest) ← flowFields? handles fuel false rest
              some ((key, value) :: entries, rest)
          | _ => do
              let (key, rest) ← node? handles fuel .flow tokens
              let (entries, rest) ← flowFields? handles fuel false rest
              some ((key, omitted) :: entries, rest)

end

/-- The directives at the front of a document: at most one version, which must be known, and
handles, each declared once. -/
def directives? (versioned : Bool) (handles : Handles) :
    List Token → Option (Handles × List Token)
  | .version major minor :: rest =>
      if versioned || major ≠ 1 || (minor ≠ 1 && minor ≠ 2) then none
      else directives? true handles rest
  | .tagHandle handle stem :: rest =>
      if (handles.lookup handle).isSome then none
      else directives? versioned ((handle, stem) :: handles) rest
  | rest => some (handles, rest)

/-- Whether the token starts a document that has a mark at its start. -/
def isExplicit : Token → Bool
  | .version _ _ | .tagHandle _ _ | .documentStart => true
  | _ => false

/-- A document without a mark at its start, or one after its mark. -/
def document? (tokens : List Token) : Option (Spelled × List Token) :=
  let fuel := 4 * tokens.length + 4
  match tokens with
  | [] => none
  | first :: _ =>
      if isExplicit first then do
        let (declared, rest) ← directives? false [] tokens
        match rest with
        | .documentStart :: content =>
            match content with
            | [] => some (omitted, [])
            | next :: _ =>
                if isExplicit next || next == .documentEnd then some (omitted, content)
                else node? (declared ++ commonHandles) fuel .block content
        | _ => none
      else node? commonHandles fuel .block tokens

/-- The only document of a text, if there is one. -/
def ofTokens? (tokens : List Token) : Option (Option Spelled) :=
  match tokens with
  | [] => some none
  | _ => do
      let (tree, rest) ← document? tokens
      if (rest.dropWhile (· == .documentEnd)).isEmpty then some (some tree) else none

end Tree

end FilterBook.Yaml
