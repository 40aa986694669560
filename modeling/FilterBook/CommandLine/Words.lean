import FilterBook.CommandLine.Flag

/-!
Words of the command line as flags. Words are read from left to right, and the first one that is
wrong, or that asks for help or for the version, decides.
-/

namespace FilterBook

namespace CommandLine

/-- How the reading goes on after a word with hyphens before it. -/
inductive Next where
  | words (given : Given)
  /-- The next word must be the value of a flag. -/
  | value (flag : Flag) (given : Given)
  | final (flag : Flag)

/-- Splits a text at its first equals sign. -/
def splitValue (text : List Char) : List Char × Option (List Char) :=
  match text.dropWhile (· ≠ '=') with
  | _ :: value => (text.takeWhile (· ≠ '='), some value)
  | [] => (text, none)

/-- Reads the text after two hyphens: the name of a flag, and its value after an equals sign. -/
def readLong (flags : List Flag) (given : Given) (text : List Char) : Except Misuse Next :=
  let (name, value?) := splitValue text
  match flags.find? fun flag => flag.long.toList == name, value? with
  | none, _ => .error (.unknownFlag (String.ofList ('-' :: '-' :: name)))
  | some flag, some value =>
      if flag.isValued then (given.add flag (String.ofList value)).map .words
      else .error (.valueUnwanted flag)
  | some flag, none =>
      if flag.isValued then .ok (.value flag given)
      else if flag.isFinal then .ok (.final flag)
      else (given.add flag "").map .words

/-- Reads the letters after one hyphen. What follows the letter of a flag with a value is the value,
after an equals sign or at once; the rest of the letters are flags again after any other. -/
def readLetters (flags : List Flag) (given : Given) : List Char → Except Misuse Next
  | [] => .ok (.words given)
  | letter :: rest =>
      match flags.find? fun flag => flag.letter == letter with
      | none => .error (.unknownFlag (String.ofList ['-', letter]))
      | some flag =>
          if flag.isValued then
            match rest with
            | [] => .ok (.value flag given)
            | '=' :: value => (given.add flag (String.ofList value)).map .words
            | value => (given.add flag (String.ofList value)).map .words
          else if flag.isFinal then .ok (.final flag)
          else
            match given.add flag "" with
            | .ok given => readLetters flags given rest
            | .error misuse => .error misuse

/-- Reads a word that no flag before it claims. -/
def readWord (flags : List Flag) (given : Given) (word : String) : Except Misuse Next :=
  match word.toList with
  | '-' :: '-' :: text => readLong flags given text
  | '-' :: letter :: rest => readLetters flags given (letter :: rest)
  | _ => .error (.unexpected word)

/-- Whether a word is read as flags, and so is nobody's value. -/
def isFlagWord (word : String) : Bool :=
  match word.toList with
  | '-' :: _ :: _ => true
  | _ => false

/-- What the words of a command come to. -/
inductive Reading where
  | given (given : Given)
  | final (flag : Flag)

/-- Reads the words of a command. After a lone pair of hyphens no word is read as flags, and there
is no other use for a word. -/
def readWords (flags : List Flag) (given : Given) : List String → Except Misuse Reading
  | [] => .ok (.given given)
  | word :: rest =>
      if word = "--" then
        match rest with
        | [] => .ok (.given given)
        | extra :: _ => .error (.unexpected extra)
      else
        match readWord flags given word with
        | .error misuse => .error misuse
        | .ok (.final flag) => .ok (.final flag)
        | .ok (.words given) => readWords flags given rest
        | .ok (.value flag given) =>
            match rest with
            | [] => .error (.valueMissing flag)
            | value :: rest =>
                if isFlagWord value then .error (.valueMissing flag)
                else
                  match given.add flag value with
                  | .ok given => readWords flags given rest
                  | .error misuse => .error misuse

end CommandLine

end FilterBook
