import FilterBook.CommandLine

/-! The program. The files that its words name are read before it starts, and it does not serve. -/

namespace FilterBook

/-- The file that a command reads, if it reads one. -/
def CommandLine.Command.file? : CommandLine.Command → Option String
  | compile file _ => some file
  | validate file => some file
  | _ => none

/-- The content of a file, or nothing if it cannot be read. -/
def readFile? (path : String) : IO (Option ByteArray) := do
  try
    return some (← IO.FS.readBinFile path)
  catch _ =>
    return none

end FilterBook

open FilterBook in
def main (words : List String) : IO UInt32 := do
  let file? := (CommandLine.Command.ofWords words).toOption.bind CommandLine.Command.file?
  let content ← match file? with
    | some path => readFile? path
    | none => pure none
  let outcome := CommandLine.run (fun _ => content) words
  (← IO.getStdout).putStr outcome.stdout
  (← IO.getStderr).putStr outcome.stderr
  return outcome.code.toUInt32
