import FieldResolution.Command.Run
import FieldResolution.Document.Reader

/-!
# The program

Reads the files that an invocation names, runs it, and prints what it leaves behind.  Documents are
read as JSON only; a file in any other notation counts as malformed.
-/

namespace FieldResolution

/-- Is nothing there to be read? -/
def isAbsence : IO.Error → Bool
  | .noFileOrDirectory .. => true
  | .inappropriateType _ _ details => details == "not a directory"
  | _ => false

/-- What stands at a path; an empty file holds the null document. -/
def readState (path : String) : IO FileState := do
  match ← (IO.FS.readFile path).toBaseIO with
  | .error e =>
    if isAbsence e then return .missing
    return .unreadable { kind := "OSError", message := toString e }
  | .ok content =>
    if content.trimAscii.isEmpty then return .document .null
    match Document.parse? content with
    | some d => return .document d
    | none => return .malformed "the file holds no JSON document"

/-- The files that an invocation may read. -/
def readFiles (i : Invocation) : IO (String → FileState) := do
  let paths := [normalPath i.shapes, Invocation.defaultConfig] ++ (i.config.map normalPath).toList
  let states ← paths.mapM fun p => return (p, ← readState p)
  return fun p => (states.lookup p).getD .missing

/-- Prints lines on a stream. -/
def printLines (stream : IO.FS.Stream) (ls : List String) : IO Unit := do
  for line in ls do
    stream.putStrLn line

end FieldResolution

open FieldResolution in
def main (arguments : List String) : IO UInt32 := do
  match Invocation.ofArguments arguments with
  | .error e =>
    printLines (← IO.getStderr) [e.message]
    return 2
  | .ok none =>
    printLines (← IO.getStdout)
      ["usage: " ++ Invocation.program ++ " [-v] resolve|columns --shapes FILE --resource NAME"]
    return 0
  | .ok (some i) =>
    let r := i.run (← readFiles i)
    printLines (← IO.getStderr) r.stderr
    printLines (← IO.getStderr) (r.fault.toList.map fun f => f.kind ++ ": " ++ f.message)
    printLines (← IO.getStdout) r.stdout
    return r.exitCode.toUInt32
