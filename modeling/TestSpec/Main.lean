import TestSpec.CommandLine
import TestSpec.Document.Run

/-!
# The program

Reads the document that the command line names, runs it, and prints the report.  The
exit code is 0 when nothing failed, 1 when a check or match failed or the document
could not be run, and 2 when the command line is wrong.
-/

namespace TestSpec.Program

/-- Print an error that ends the program. -/
def fail (text : String) : IO UInt32 := do
  IO.eprintln ("Error: " ++ text)
  return 1

/-- Run the document in the text of a file and print the report. -/
def report (a : CommandLine.Arguments) (path text : String) : IO UInt32 := do
  match Document.ofText? text with
  | .error refusal => fail ("in " ++ path ++ ": " ++ Document.refusalMessage refusal)
  | .ok d =>
    match d.run (d.resolveOptions a.options) with
    | .error failure => fail ("failed to run " ++ path ++ ": " ++ failure.message)
    | .ok r =>
      IO.println (a.output (← (← IO.getStdout).isTty) r)
      if r.isSuccess then return 0
      IO.eprintln (toString r.errorCount ++ " error(s), " ++ toString r.failureCount ++
        " failed match(es)")
      return 1

/-- Do what a list of arguments asks for. -/
def run (arguments : List String) : IO UInt32 := do
  match CommandLine.parse arguments with
  | .error i =>
    if i.isMistake then
      IO.eprintln i.message
      return 2
    else
      IO.println i.message
      return 0
  | .ok a =>
    let path := a.document.getD ""
    try report a path (← IO.FS.readFile path)
    catch _ => fail ("failed to read check document " ++ path)

end TestSpec.Program

/-- The program. -/
def main (arguments : List String) : IO UInt32 := TestSpec.Program.run arguments
