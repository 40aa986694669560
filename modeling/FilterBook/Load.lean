import FilterBook.Definition.Read
import FilterBook.Definition.ReadYaml
import FilterBook.Error

/-!
Definitions from text in one of two formats, and from files, where the end of the name tells the
format.
-/

namespace FilterBook

inductive Format where
  | json
  | yaml
deriving DecidableEq, Repr

/-- What follows the last point of a file's name, where something stands before that point. -/
def fileExtension? (path : List Char) : Option (List Char) :=
  let name := (path.reverse.takeWhile (· ≠ '/')).reverse
  let back := name.reverse
  match back.dropWhile (· ≠ '.') with
  | _ :: _ :: _ =>
      if name = ['.', '.'] then none else some (back.takeWhile (· ≠ '.')).reverse
  | _ => none

/-- Only `json` in lower case stands for JSON. -/
def Format.ofPath (path : String) : Format :=
  if fileExtension? path.toList = some ['j', 's', 'o', 'n'] then .json else .yaml

namespace Definition

def ofText (format : Format) (text : String) : Except Error Definition :=
  match format with
  | .json =>
      match ofJsonText text with
      | .ok d => .ok d
      | .error fault => .error (.json fault)
  | .yaml =>
      match ofYamlText? text with
      | some d => .ok d
      | none => .error .yaml

/-- The definition in a file, given the file's content if there is such a file. The content must be
text in UTF-8. -/
def ofFile (path : String) (content : Option ByteArray) : Except Error Definition :=
  match content.bind String.fromUTF8? with
  | some text => ofText (Format.ofPath path) text
  | none => .error .unreadable

end Definition

end FilterBook
