import FilterBook.Log.Directive

/-!
Which log events are shown. A filter is written as directives with commas between them, and of those
that are about all events one sets the threshold. Where the text of a filter cannot be read, events
up to the level `info` are shown.
-/

namespace FilterBook

namespace Log

/-- The directives of a filter. Where nothing stands between two commas there is no directive. -/
def directives? (text : String) : Option (List Directive) :=
  let parts := (text.splitOn ",").filter fun part => part != ""
  parts.mapM fun part => Directive.ofText? part.toList

/-- Whether a directive about one field precedes a directive about another. One about no field comes
last, and of two fields the greater name comes first. -/
def precedes : Option String → Option String → Bool
  | none, _ => false
  | some _, none => true
  | some name, some other => other < name

/-- The field and the threshold of a directive about all events. -/
def general? (d : Directive) : Option (Option String × Threshold) :=
  match d.scope with
  | .everything field? => some (field?, d.threshold)
  | _ => none

/-- What is shown of events that no target and no span of a directive is about. The first directive
about everything holds, and the last one of those about the same field. -/
def threshold (directives : List Directive) : Threshold :=
  let first? := (directives.filterMap general?).foldl
    (fun first? next =>
      match first? with
      | some first => if precedes first.1 next.1 then some first else some next
      | none => some next)
    none
  match first? with
  | some first => first.2
  | none => .off

def defaultThreshold : Threshold :=
  .upTo .info

/-- What a filter shows of events that no target and no span of it is about. -/
def thresholdOf (filter : Option String) : Threshold :=
  match filter with
  | none => defaultThreshold
  | some text =>
      if (trim text.toList).isEmpty then defaultThreshold
      else
        match directives? text with
        | some directives => threshold directives
        | none => defaultThreshold

end Log

end FilterBook
