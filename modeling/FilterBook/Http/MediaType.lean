/-!
Media types, as a `content-type` header gives them: a type, a subtype with or without a suffix
after `+`, and parameters. The parameters must be well formed, and nothing depends on them.
-/

namespace FilterBook

structure MediaType where
  kind : List Char
  subtype : List Char
  suffix? : Option (List Char)
deriving DecidableEq, Repr

namespace MediaType

/-- The characters of a name, all of them ASCII. -/
def isNameChar (c : Char) : Bool :=
  c.isAlphanum || "!#$%&'*+-.^_`|~".toList.contains c

/-- How far the parameters have been read. -/
inductive ParameterState where
  | between
  | name
  | valueStart
  | value
  | quoteStart
  | quoted
  | quoteEnd
deriving DecidableEq, Repr

namespace ParameterState

/-- Reads one more character. A name and an open value are not empty, a closed value holds a
character at least, and only a closed value may be followed by a space. -/
def next? : ParameterState → Char → Option ParameterState
  | between, c => if c = ' ' then some between else if isNameChar c then some name else none
  | name, c => if c = '=' then some valueStart else if isNameChar c then some name else none
  | valueStart, c => if c = '"' then some quoteStart else if isNameChar c then some value else none
  | value, c => if c = ';' then some between else if isNameChar c then some value else none
  | quoteStart, c => if ' ' ≤ c ∧ c ≤ '~' then some quoted else none
  | quoted, c =>
      if c = '"' then some quoteEnd else if ' ' ≤ c ∧ c ≤ '~' then some quoted else none
  | quoteEnd, c => if c = ';' then some between else if c = ' ' then some quoteEnd else none

/-- Whether the parameters may end here. -/
def isEnd : ParameterState → Bool
  | between | valueStart | value | quoteEnd => true
  | name | quoteStart | quoted => false

end ParameterState

def parametersOk (text : List Char) : Bool :=
  match text.foldlM ParameterState.next? .between with
  | some state => state.isEnd
  | none => false

/-- Splits the last `+` off a subtype, unless the subtype starts with it. -/
def ofNames (kind name : List Char) : MediaType :=
  let back := name.reverse
  match back.dropWhile (· ≠ '+') with
  | _ :: before :: rest =>
      ⟨kind, (before :: rest).reverse, some (back.takeWhile (· ≠ '+')).reverse⟩
  | _ => ⟨kind, name, none⟩

/-- The media type of a header's text, in lower case. Only a semicolon may follow the subtype. -/
def ofText? (text : String) : Option MediaType :=
  let cs := text.toList
  let kind := cs.takeWhile isNameChar
  match cs.dropWhile isNameChar with
  | '/' :: rest =>
      let name := rest.takeWhile isNameChar
      let found := ofNames (kind.map Char.toLower) (name.map Char.toLower)
      if kind.isEmpty then none
      else
        match rest.dropWhile isNameChar with
        | [] => some found
        | ';' :: parameters =>
            if ¬ name.isEmpty ∧ parametersOk parameters then some found else none
        | _ => none
  | _ => none

/-- Whether documents of the type are JSON, by name or by suffix. -/
def isJson (m : MediaType) : Bool :=
  m.kind == "application".toList &&
    (m.subtype == "json".toList || m.suffix? == some "json".toList)

end MediaType

end FilterBook
