import FieldResolution.Model.OfDocument
import FieldResolution.Resolution.Run

/-!
# The trace of a run

The log of what a run does, in the order in which it happens: the banners of its stages, the type
and the slot of every field where a default rule or a redirect decides them, every fault, and the
owners of the flags.  Nothing of a run depends on its trace.
-/

namespace FieldResolution

inductive LogLevel where
  | debug
  | info
  | error
  deriving DecidableEq, Repr

def LogLevel.name : LogLevel → String
  | debug => "DEBUG"
  | info => "INFO"
  | error => "ERROR"

/-- The part of the program that speaks. -/
inductive LogChannel where
  | model
  | configuration
  | roster
  | type
  | slot
  | run
  deriving DecidableEq, Repr

def LogChannel.name : LogChannel → String
  | model => "fieldgen.shapes"
  | configuration => "fieldgen.config"
  | roster => "fieldgen.lineage"
  | type => "fieldgen.reconciler"
  | slot => "fieldgen.classifier"
  | run => "fieldgen.resolver"

/-- One line of a log. -/
structure LogRecord where
  level : LogLevel
  channel : LogChannel
  message : String
  deriving DecidableEq, Repr

namespace LogRecord

def line (r : LogRecord) : String :=
  "[" ++ r.level.name ++ "] " ++ r.channel.name ++ ": " ++ r.message

/-- Is the record shown when only warnings and faults are asked for? -/
def isSevere (r : LogRecord) : Bool := r.level == .error

end LogRecord

/-- The trace of reading a model. -/
def Declarations.trace (d : Declarations) : List LogRecord :=
  [⟨.debug, .model, "Loaded shape graph: " ++ toString d.shapes.length ++ " shapes, " ++
    toString d.operations.length ++ " operations"⟩]

/-- The trace of reading a model document: nothing if its parts cannot be read. -/
def Declarations.traceOf (d : Document) : List LogRecord :=
  match Declarations.ofDocument d with
  | .ok ds => ds.trace
  | .error _ => []

def Roster.trace (r : Roster) : List LogRecord :=
  [⟨.debug, .roster, "Lineage: " ++ toString r.groups.length ++ " field(s), " ++
    toString r.flattened.length ++ " decomposed, " ++ toString r.unknown.length ++ " unknown"⟩]

def FieldError.trace (e : FieldError) : LogRecord :=
  ⟨.error, .run, "[" ++ e.code ++ "] " ++ e.message⟩

namespace FieldCase

/-- The redirect of a field, where it leads somewhere. -/
def redirectTrace (c : FieldCase) (m : Model) : List LogRecord :=
  match c.directives.redirect with
  | none => []
  | some r =>
    if c.directives.isOn .isAttribute then []
    else
      match m.follows r with
      | .error _ => []
      | .ok (role, x) =>
        [⟨.debug, .type, c.name ++ ": type from " ++ r.operation ++ " " ++ role.name ++ " " ++
          r.path ++ " (" ++ m.spell x.type ++ ")"⟩]

/-- The slot of a field, where its occurrences decide it. -/
def slotTrace (c : FieldCase) (m : Model) : List LogRecord :=
  match m.fieldType c.occurrences c.directives with
  | .error _ => []
  | .ok _ =>
    if (directedSlot? c.occurrences c.directives).isSome then []
    else if isKept c.occurrences c.directives then []
    else [⟨.debug, .slot, c.name ++ ": heuristic slot " ++ (impliedSlot c.occurrences).name⟩]

end FieldCase

def ResolvedField.trace (f : ResolvedField) (source : Provenance) : LogRecord :=
  ⟨.debug, .run, f.name ++ ": " ++ f.slot.name ++ " " ++ f.typeName ++ " (" ++ source.name ++ ")"⟩

def Outcome.trace (o : Outcome) (m : Model) : List LogRecord :=
  o.case.redirectTrace m ++ o.case.slotTrace m ++
    match o.result with
    | .ok f => [f.trace o.slot.source]
    | .error fault => [FieldError.trace ⟨o.case.name, fault⟩]

/-- The owner of a flag; an owner without a name is not shown. -/
def flagTrace : Except FieldError FlagAssignment → List LogRecord
  | .error e => [e.trace]
  | .ok a =>
    match a.owner with
    | none => []
    | some owner => if owner = "" then [] else [⟨.debug, .run, a.flag.key ++ " -> " ++ owner⟩]

namespace Request

/-- The banner of a stage. -/
def banner (title : String) : LogRecord := ⟨.info, .run, "=== " ++ title ++ " ==="⟩

def summary (s : FieldSet) : LogRecord :=
  ⟨.info, .run, "Resolved " ++ toString s.fields.length ++ " field(s) for " ++ s.resource ++ ": " ++
    toString (s.inSlot .spec).length ++ " spec, " ++ toString (s.inSlot .status).length ++
    " status, " ++ toString s.columns.length ++ " column(s)"⟩

/-- The trace of a run with the given findings. -/
def traceOf (q : Request) (r : Findings) : List LogRecord :=
  [⟨.info, .run, "Resolving fields for " ++ q.resource⟩, banner "Stage 1: Field Lineage"] ++
    r.roster.trace ++ r.unknownErrors.map FieldError.trace ++
    [banner "Stage 2: Field Resolution"] ++ r.outcomes.flatMap (·.trace q.model) ++
    [banner "Stage 3: Resource-wide Flags"] ++ r.assignments.flatMap flagTrace ++
    match q.conclude r with
    | .ok s => [banner "Stage 4: Listing Columns", summary s]
    | .error _ => []

/-- The trace of a run. -/
def trace (q : Request) : List LogRecord := q.traceOf q.findings

end Request

end FieldResolution
