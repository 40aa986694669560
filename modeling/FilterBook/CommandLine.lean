import FilterBook.CommandLine.Words
import FilterBook.Compile
import FilterBook.Load
import FilterBook.Schema

/-!
The command line: what the words after the program's name ask for, and what the program then writes.
A run that fails exits with code 1, and one that is asked wrongly with code 2. What the program
finds around it, the files and the service that it can start, is given to it.
-/

namespace FilterBook

namespace CommandLine

/-- What a command line asks for. -/
inductive Command where
  | compile (file : String) (pretty : Bool)
  | validate (file : String)
  | schema
  | serve (port? : Option Nat)
  | help (name? : Option Name)
  | version
deriving DecidableEq, Repr

def needFile (given : Given) : Except Misuse String :=
  match given.value? .file with
  | some file => .ok file
  | none => .error (.flagMissing .file)

/-- The command of a name and the flags that were given for it. -/
def Name.command (given : Given) : Name → Except Misuse Command
  | compile => (needFile given).map fun file => .compile file (given.has .pretty)
  | validate => (needFile given).map .validate
  | schema => .ok .schema
  | serve => .ok (.serve ((given.value? .port).bind port?))

/-- The command that a final flag stands for. -/
def finalCommand (name? : Option Name) : Flag → Command
  | .version => .version
  | _ => .help name?

def readCommand (name : Name) (words : List String) : Except Misuse Command :=
  match readWords name.flags [] words with
  | .ok (.given given) => name.command given
  | .ok (.final flag) => .ok (finalCommand (some name) flag)
  | .error misuse => .error misuse

/-- Reads what help is asked about. -/
def readHelp : List String → Except Misuse Command
  | [] => .ok (.help none)
  | word :: rest =>
      match Name.ofText? word, rest with
      | some name, [] => .ok (.help (some name))
      | some _, extra :: _ => .error (.unknownCommand extra)
      | none, [] => if word = "help" then .ok (.help none) else .error (.unknownCommand word)
      | none, _ => .error (.unknownCommand word)

/-- Reads a first word that names no command. -/
def readProgramFlag (word : String) : Except Misuse Command :=
  if ¬ isFlagWord word then .error (.unknownCommand word)
  else if word = "--" then .error .noCommand
  else
    match readWord programFlags [] word with
    | .ok (.final flag) => .ok (finalCommand none flag)
    | .ok _ => .error .noCommand
    | .error misuse => .error misuse

/-- The command of the words after the program's name. -/
def Command.ofWords : List String → Except Misuse Command
  | [] => .error .noCommand
  | word :: rest =>
      match Name.ofText? word with
      | some name => readCommand name rest
      | none => if word = "help" then readHelp rest else readProgramFlag word

def programName : String := "mongo-query-builder"

def programVersion : String := "0.1.0"

def usage : Option Name → String
  | none => s!"Usage: {programName} <COMMAND>\n\nCommands: compile, validate, schema, serve, help"
  | some .compile => s!"Usage: {programName} compile [--pretty] --file <FILE>"
  | some .validate => s!"Usage: {programName} validate --file <FILE>"
  | some .schema => s!"Usage: {programName} schema"
  | some .serve => s!"Usage: {programName} serve [--port <PORT>]"

/-- What a run of the program leaves behind. -/
structure Outcome where
  code : Nat
  stdout : String
  stderr : String
deriving DecidableEq, Repr

namespace Outcome

/-- A run that writes one text, with a line break after it. -/
def success (text : String) : Outcome where
  code := 0
  stdout := text ++ "\n"
  stderr := ""

/-- A run that writes nothing. -/
def silent : Outcome where
  code := 0
  stdout := ""
  stderr := ""

def failure (message : String) : Outcome where
  code := 1
  stdout := ""
  stderr := "Error: " ++ message ++ "\n"

def misuse (m : Misuse) : Outcome where
  code := 2
  stdout := ""
  stderr := "error: " ++ m.message ++ "\n"

end Outcome

/-- The content of each file by its path, where there is such a file. -/
abbrev Files := String → Option ByteArray

/-- What comes of serving on a port, or on the usual one where none is given: it comes to an end, or
it cannot start for a reason. The log lines that it writes while it serves are left out. -/
abbrev Service := Option Nat → Except String Unit

/-- Where there is no network, nothing can be served. -/
def Service.offline : Service :=
  fun _ => .error "no network to serve on"

/-- Goes on with the definition in a file. -/
def withDefinition (files : Files) (file : String) (go : Definition → Outcome) : Outcome :=
  match Definition.ofFile file (files file) with
  | .ok d => go d
  | .error e => .failure ("Failed to load " ++ file ++ "\n\nCaused by:\n    " ++ e.message)

def compileOutcome (pretty : Bool) (d : Definition) : Outcome :=
  match d.build with
  | .ok query =>
      let document := Json.ofDict query
      .success (if pretty then document.pretty else document.compact)
  | .error e => .failure e.message

def validateOutcome (d : Definition) : Outcome :=
  match d.check with
  | .ok _ => .success "ok"
  | .error e => .failure e.message

def serveOutcome (served : Except String Unit) : Outcome :=
  match served with
  | .ok _ => .silent
  | .error reason => .failure reason

/-- Carries out a command. -/
def Command.run (files : Files) (service : Service) : Command → Outcome
  | compile file pretty => withDefinition files file (compileOutcome pretty)
  | validate file => withDefinition files file validateOutcome
  | schema => .success Schema.book.toJson.pretty
  | serve port? => serveOutcome (service port?)
  | help name? => .success (usage name?)
  | version => .success (programName ++ " " ++ programVersion)

/-- The outcome of the words after the program's name. -/
def run (files : Files) (words : List String) (service : Service := .offline) : Outcome :=
  match Command.ofWords words with
  | .ok command => command.run files service
  | .error m => .misuse m

end CommandLine

end FilterBook
