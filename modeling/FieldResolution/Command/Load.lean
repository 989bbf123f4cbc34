import FieldResolution.Directive.OfDocument
import FieldResolution.Resolution.Trace

/-!
# Loading documents

The files that a command reads, and what can be wrong with them.  A path is looked up in its normal
form, without empty and `.` parts.

A document is refused for what a loader checks: its file has to be there, to follow the syntax and
to say something sensible.  A file may also be there and give no document at all, for a cause that
no loader looks for: a directory, bytes that are no text, a value such as a thirteenth month that
cannot be built.  Such a fault is not a refusal, and it ends a command in its own way.
-/

namespace FieldResolution

/-- A fault in reading a file that no loader looks for: its kind, and what is wrong. -/
structure ReadFault where
  kind : String
  message : String
  deriving DecidableEq, Repr

/-- What stands at a path.  What a parser says of wrong syntax is in its own words. -/
inductive FileState where
  | missing
  | malformed (message : String)
  | unreadable (fault : ReadFault)
  | document (d : Document)

/-- The parts of a path between its slashes. -/
def pathParts : List Char → List (List Char)
  | [] => [[]]
  | c :: rest =>
    if c = '/' then [] :: pathParts rest
    else
      match pathParts rest with
      | [] => [[c]]
      | part :: parts => (c :: part) :: parts

/-- The slashes at the head of a path: none, one, or exactly two. -/
def pathRoot : List Char → String
  | '/' :: '/' :: '/' :: _ => "/"
  | '/' :: '/' :: _ => "//"
  | '/' :: _ => "/"
  | _ => ""

/-- A path without empty and `.` parts. -/
def normalPath (path : String) : String :=
  let cs := path.toList
  let parts := (pathParts cs).filter fun p => p ≠ [] ∧ p ≠ ['.']
  let text := pathRoot cs ++ "/".intercalate (parts.map String.ofList)
  if text = "" then "." else text

/-- Why a loader refuses a document. -/
inductive Refusal where
  | modelMissing (path : String)
  | configMissing (path : String)
  | malformed (path message : String)
  | model (e : ModelError)
  | configuration (e : ConfigurationError)

/-- Why a document is not loaded: a loader refuses it, or its file cannot be read. -/
inductive LoadError where
  | refused (r : Refusal)
  | unread (fault : ReadFault)

/-- A place in a document. -/
def Step.text : Step → String
  | .key name => name
  | .index value => toString value

/-- A violation on two lines: its place, and what is wrong there.  This is the least that tells
violations apart: a validator may also show the value it met and where to read about the rule. -/
def Violation.text (v : Violation) : String :=
  ".".intercalate (v.location.map Step.text) ++ "\n  " ++ v.problem.message ++
    " [type=" ++ v.problem.code ++ "]"

/-- The heading counts the violations, which stand below it in the layout of `Violation.text`. -/
def ConfigurationError.message : ConfigurationError → String
  | notMapping => "Generator config must be a mapping at top level"
  | violations vs =>
    "Invalid generator config: " ++ toString vs.length ++
      (if vs.length = 1 then " validation error" else " validation errors") ++
      " for GeneratorConfig\n" ++ "\n".intercalate (vs.map Violation.text)

def Refusal.message : Refusal → String
  | modelMissing path => "Shape graph file not found: " ++ path
  | configMissing path => "Generator config not found: " ++ path
  | malformed path message => "Invalid YAML in " ++ path ++ ": " ++ message
  | model e => e.message
  | configuration e => e.message

/-- The model at a path. -/
def loadModel (files : String → FileState) (path : String) : Except LoadError Model :=
  match files path with
  | .missing => .error (.refused (.modelMissing path))
  | .malformed message => .error (.refused (.malformed path message))
  | .unreadable fault => .error (.unread fault)
  | .document d => (Model.ofDocument d).mapError fun e => .refused (.model e)

/-- The configuration at a path. -/
def loadConfiguration (files : String → FileState) (path : String) :
    Except LoadError Configuration :=
  match files path with
  | .missing => .error (.refused (.configMissing path))
  | .malformed message => .error (.refused (.malformed path message))
  | .unreadable fault => .error (.unread fault)
  | .document d => (Configuration.ofDocument d).mapError fun e => .refused (.configuration e)

/-- The trace of loading a model. -/
def modelTrace (files : String → FileState) (path : String) : List LogRecord :=
  match files path with
  | .document d => Declarations.traceOf d
  | _ => []

/-- The trace of loading a configuration. -/
def configurationTrace (path : String) (c : Configuration) : LogRecord :=
  ⟨.debug, .configuration, "Loaded generator config from " ++ path ++ ": " ++
    toString c.resources.length ++ " resource(s)"⟩

end FieldResolution
