import FieldResolution.Command.Invocation
import FieldResolution.Command.Load
import FieldResolution.Document.Writer
import FieldResolution.Report

/-!
# Running a command

`Invocation.run` answers an invocation over the files that it may read.  The model is loaded before
the configuration.  The exit code is 2 if a loader refuses either of them, 1 if a field cannot be
resolved, and 0 otherwise; only then is anything printed on the standard output.  A fault in reading
a file is not caught: it ends the command where it stands, with exit code 1.
-/

namespace FieldResolution

/-- What a command leaves behind.  A fault that nobody catches is not among the lines of `stderr`:
it is told there after them, together with the place in the program where it arose. -/
structure CommandResult where
  exitCode : Nat
  stdout : List String := []
  stderr : List String := []
  fault : Option ReadFault := none
  deriving DecidableEq, Repr

namespace Invocation

/-- The configuration that is read when none is named. -/
def defaultConfig : String := "generator.yaml"

/-- The path of the configuration, if there is one. -/
def configPath? (i : Invocation) (files : String → FileState) : Option String :=
  match i.config with
  | some path => if path = "" then found else some (normalPath path)
  | none => found
where
  /-- The default path, if something stands there. -/
  found : Option String :=
    match files defaultConfig with
    | .missing => none
    | _ => some defaultConfig

/-- The configuration of an invocation, and the trace of loading it. -/
def configuration (i : Invocation) (files : String → FileState) :
    Except LoadError (Configuration × List LogRecord) :=
  match i.configPath? files with
  | none => .ok ({}, [])
  | some path =>
    (loadConfiguration files path).map fun c => (c, [configurationTrace path c])

/-- The lines of a trace that are shown. -/
def shown (i : Invocation) (records : List LogRecord) : List String :=
  (records.filter fun r => i.verbose || r.isSevere).map LogRecord.line

/-- The lines that an action prints for a result. -/
def output (a : Action) (s : FieldSet) : List String :=
  match a with
  | .resolve .json => [s.toDocument.render]
  | .resolve .table => s.table
  | .columns wide => ["\t".intercalate (s.headers wide)]

/-- The diagnostics that an action shows for a result. -/
def comments (a : Action) (s : FieldSet) : List String :=
  match a with
  | .resolve _ => s.diagnostics.map Diagnostic.text
  | .columns _ => []

/-- The end of a command whose documents are loaded. -/
def finish (i : Invocation) (log : List String) (q : Request) : CommandResult :=
  match q.resolve with
  | .error f =>
    { exitCode := 1
      stderr := log ++ f.diagnostics.map Diagnostic.text ++ ["Error: " ++ f.message] }
  | .ok s => { exitCode := 0, stdout := output i.action s, stderr := log ++ comments i.action s }

/-- The end of a command whose documents are not loaded. -/
def abort (log : List String) : LoadError → CommandResult
  | .refused r => { exitCode := 2, stderr := log ++ ["Error: " ++ r.message] }
  | .unread fault => { exitCode := 1, stderr := log, fault }

/-- The answer to an invocation. -/
def run (i : Invocation) (files : String → FileState) : CommandResult :=
  let path := normalPath i.shapes
  let log := i.shown (modelTrace files path)
  match loadModel files path with
  | .error e => abort log e
  | .ok model =>
    match i.configuration files with
    | .error e => abort log e
    | .ok (c, trace) =>
      let q : Request := { model, resource := i.resource, directives := c.resource i.resource }
      i.finish (log ++ i.shown (trace ++ q.trace)) q

end Invocation

end FieldResolution
