import FilterBook.Text

/-!
The commands and the flags of the command line, which flags each command has, and what can be wrong
with the words that name them. A flag may be given once, and some take a value.
-/

namespace FilterBook

namespace CommandLine

/-- The commands by their names. -/
inductive Name where
  | compile
  | validate
  | schema
  | serve
deriving DecidableEq, Repr

namespace Name

def all : List Name :=
  [compile, validate, schema, serve]

def text : Name → String
  | compile => "compile"
  | validate => "validate"
  | schema => "schema"
  | serve => "serve"

def ofText? (word : String) : Option Name :=
  all.find? fun name => name.text == word

end Name

/-- What a word with hyphens before it is for. -/
inductive Flag where
  | file
  | pretty
  | port
  | help
  | version
deriving DecidableEq, Repr

namespace Flag

def long : Flag → String
  | file => "file"
  | pretty => "pretty"
  | port => "port"
  | help => "help"
  | version => "version"

/-- The letter of a flag. Those of `pretty` and `port` are the same: no command has both. -/
def letter : Flag → Char
  | file => 'f'
  | pretty => 'p'
  | port => 'p'
  | help => 'h'
  | version => 'V'

/-- Whether a value belongs to the flag. -/
def isValued : Flag → Bool
  | file | port => true
  | pretty | help | version => false

/-- Whether the flag puts an end to the reading of words. -/
def isFinal : Flag → Bool
  | help | version => true
  | file | pretty | port => false

end Flag

/-- The flags of a command. -/
def Name.flags : Name → List Flag
  | compile => [.file, .pretty, .help]
  | validate => [.file, .help]
  | schema => [.help]
  | serve => [.port, .help]

/-- The flags before any command. -/
def programFlags : List Flag :=
  [.help, .version]

/-- What is wrong with the words of a command line. -/
inductive Misuse where
  | noCommand
  | unknownCommand (word : String)
  | unknownFlag (word : String)
  | unexpected (word : String)
  | repeated (flag : Flag)
  | valueMissing (flag : Flag)
  | valueUnwanted (flag : Flag)
  | badValue (flag : Flag) (value : String)
  | flagMissing (flag : Flag)
deriving DecidableEq, Repr

def Misuse.message : Misuse → String
  | noCommand => "a command is required"
  | unknownCommand word => s!"unrecognized command '{word}'"
  | unknownFlag word => s!"unexpected argument '{word}'"
  | unexpected word => s!"unexpected argument '{word}'"
  | repeated flag => s!"'--{flag.long}' cannot be used more than once"
  | valueMissing flag => s!"'--{flag.long}' needs a value"
  | valueUnwanted flag => s!"'--{flag.long}' takes no value"
  | badValue flag value => s!"invalid value '{value}' for '--{flag.long}'"
  | flagMissing flag => s!"'--{flag.long}' is required"

/-- The number of a port: from 0 to 65535, and a sign may stand before it. -/
def port? (text : String) : Option Nat :=
  match signedDecimal? text.toList with
  | some n => if 0 ≤ n ∧ n < 65536 then some n.toNat else none
  | none => none

/-- The flags that were given so far, with their values. -/
abbrev Given := List (Flag × String)

namespace Given

def value? (given : Given) (flag : Flag) : Option String :=
  given.lookup flag

def has (given : Given) (flag : Flag) : Bool :=
  (given.value? flag).isSome

/-- Adds a flag, which may be given once, with a value that suits it. -/
def add (given : Given) (flag : Flag) (value : String) : Except Misuse Given :=
  if given.has flag then .error (.repeated flag)
  else if flag = .port ∧ (port? value).isNone then .error (.badValue flag value)
  else .ok ((flag, value) :: given)

end Given

end CommandLine

end FilterBook
