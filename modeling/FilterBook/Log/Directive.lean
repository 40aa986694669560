import FilterBook.Log.Level
import FilterBook.Log.Pattern
import FilterBook.Text

/-!
The directives of a log filter. A directive may name a target, a span with a field, and a level. One
that names no target and no span, and asks for no value of a field, is about all events: whether an
event has the field is not known when it is decided whether to show it.
-/

namespace FilterBook

namespace Log

/-- A field that a directive names, and whether a pattern for its value is given. -/
structure Field where
  name : String
  hasValue : Bool
deriving DecidableEq, Repr

/-- A field is written as its name, with a pattern for its value after an equals sign. Another
equals sign ends the pattern. -/
def Field.ofText? (text : List Char) : Option Field :=
  let name := String.ofList (text.takeWhile (· ≠ '='))
  match text.dropWhile (· ≠ '=') with
  | [] => if text = [] then none else some ⟨name, false⟩
  | _ :: value => if Pattern.isPattern (value.takeWhile (· ≠ '=')) then some ⟨name, true⟩ else none

/-- What a directive is about. -/
inductive Scope where
  | everything (field? : Option String)
  | target
  | span
deriving DecidableEq, Repr

structure Directive where
  scope : Scope
  threshold : Threshold
deriving DecidableEq, Repr

/-- A directive as it is written. Its marks are looked for without the space around it, but what
stands between them is cut out of the whole text, at the same distance from the start. -/
structure Written where
  text : List Char

namespace Written

/-- The text without the space around it. -/
def inner (w : Written) : List Char :=
  trim w.text

def isSpaced (w : Written) : Bool :=
  w.inner != w.text

/-- What stands where the inner text has what lies between two of its ends. -/
def cut? (w : Written) (fromEnd toEnd : List Char) : Option (List Char) :=
  let distance (ending : List Char) := byteLength w.inner - byteLength ending
  let bytes := (String.ofList w.text).toUTF8.extract (distance fromEnd) (distance toEnd)
  (String.fromUTF8? bytes).map String.toList

/-- The threshold of a level's text. Space around a directive belongs to that text, and no level has
space around it. -/
def level? (w : Written) (text : List Char) : Option Threshold :=
  if w.isSpaced then none else Threshold.ofText? text

/-- The threshold after an equals sign. Where nothing is written, everything is shown. -/
def levelAfter? (w : Written) (text : List Char) : Option Threshold :=
  if text.isEmpty ∧ ¬ w.isSpaced then some (.upTo .trace) else w.level? text

/-- What follows the closing bracket of a span. -/
def afterSpan? (w : Written) (scope : Scope) : List Char → Option Directive
  | [] => some ⟨scope, .upTo .trace⟩
  | '=' :: text => (w.levelAfter? text).map fun threshold => ⟨scope, threshold⟩
  | _ => none

/-- What a directive with a field is about. -/
def scopeOf (hasTarget hasSpan : Bool) (field : Field) : Scope :=
  if hasTarget then .target
  else if hasSpan || field.hasValue then .span
  else .everything (some field.name)

/-- A span after its opening bracket: a name, and a field in braces before the closing bracket. -/
def span? (w : Written) (hasTarget : Bool) (text : List Char) : Option Directive :=
  let endsName (c : Char) := c == ']' || c == '\x7b'
  match text.dropWhile (!endsName ·) with
  | ']' :: rest => w.afterSpan? .span rest
  | _ :: inBraces =>
      let ending := inBraces.dropWhile (· ≠ '\x7d')
      match ending with
      | _ :: ']' :: rest => do
          let field ← (w.cut? inBraces ending).bind Field.ofText?
          w.afterSpan? (scopeOf hasTarget (!text.head?.all endsName) field) rest
      | _ => none
  | [] => none

def startsName (c : Char) : Bool :=
  c == '-' || c == ':' || c == '_' || isWordChar c

/-- A text alone is a level for everything if it can be read as a level, and else a target. -/
def name (w : Written) : Directive :=
  match w.level? w.inner with
  | some threshold => ⟨.everything none, threshold⟩
  | none => ⟨.target, .upTo .trace⟩

end Written

/-- The directive that a text is. -/
def Directive.ofText? (text : List Char) : Option Directive :=
  let w : Written := ⟨text⟩
  match w.inner with
  | [] => none
  | '[' :: rest => w.span? false rest
  | c :: rest =>
      if ¬ Written.startsName c then none
      else
        match rest.dropWhile fun c => c != '=' && c != '[' with
        | '=' :: level => (w.levelAfter? level).map fun threshold => ⟨.target, threshold⟩
        | _ :: span => w.span? true span
        | [] => some w.name

end Log

end FilterBook
