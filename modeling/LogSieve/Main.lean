import LogSieve.CommandLine.Outcome

/-!
# The program

The command line with the files of the machine.  A request is about one file at
most, so only that one is read.
-/

namespace LogSieve.CommandLine

/-- The bytes of a file of the machine, if there is such a file and it can be read. -/
def fileBytes? (path : Text) : IO (Option Encoding.Bytes) := do
  try
    let bytes ← IO.FS.readBinFile (String.ofList path)
    return some bytes.toList
  catch _ => return none

/-- The files that a command line needs, as the machine has them. -/
def hostFor (words : List Text) : IO Host := do
  let directory := (Store.Path.ofText (← IO.currentDir).toString.toList).names
  match Request.ofWords words with
  | .ok (.lines _ path ..) =>
    let path := Store.Path.ofText path
    match ← fileBytes? path.text with
    | some bytes => return ⟨.withFile directory path bytes, directory, .inLoop⟩
    | none => return ⟨⟨[]⟩, directory, .inLoop⟩
  | _ => return ⟨⟨[]⟩, directory, .inLoop⟩

/-- Serves a command line, and gives the code that the program exits with. -/
def serve (words : List Text) : IO UInt32 := do
  match run (← hostFor words) words with
  | .ok outcome =>
    IO.print (String.ofList outcome.output)
    IO.eprint (String.ofList outcome.complaint)
    return UInt32.ofNat outcome.code
  | .error breakdown =>
    IO.eprintln (String.ofList ((breakdown.message?).getD "the file cannot be read".toList))
    return 1

end LogSieve.CommandLine

/-- The program. -/
def main (words : List String) : IO UInt32 := LogSieve.CommandLine.serve (words.map String.toList)
