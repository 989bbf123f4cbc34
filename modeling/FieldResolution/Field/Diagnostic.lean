import FieldResolution.Field.Flag

/-!
# Diagnostics

What a resolution has to say besides its result: faults, a warning about every field that is
ignored for want of a place, and notes on what the directives changed.
-/

namespace FieldResolution

inductive Severity where
  | info
  | warning
  | error
  deriving DecidableEq, Repr

def Severity.name : Severity → String
  | info => "info"
  | warning => "warning"
  | error => "error"

/-- What a resolution has to say about a field. -/
inductive Diagnostic where
  | flattened (member trigger : String)
  | slotOverridden (field : String) (implied chosen : Slot)
  | outsideResource (field : String) (operations : List String)
  | flag (f : Flag) (note : FlagNote)
  | failed (e : FieldError)
  deriving DecidableEq, Repr

namespace Diagnostic

def severity : Diagnostic → Severity
  | flattened _ _ | slotOverridden _ _ _ | flag _ _ => .info
  | outsideResource _ _ => .warning
  | failed _ => .error

def isError (d : Diagnostic) : Bool := d.severity == .error

def code : Diagnostic → String
  | flattened _ _ => "member_decomposed"
  | slotOverridden _ _ _ => "heuristic_overridden"
  | outsideResource _ _ => "field_not_in_resource_shapes"
  | flag _ note => note.code
  | failed e => e.code

def field : Diagnostic → String
  | flattened member _ => member
  | slotOverridden field _ _ => field
  | outsideResource field _ => field
  | flag _ note => note.field
  | failed e => e.field

def message : Diagnostic → String
  | flattened _ trigger =>
    "flattened into prefixed member fields because " ++ trigger ++ " redirects into it"
  | slotOverridden _ implied chosen =>
    "slot " ++ implied.name ++ " overridden to " ++ chosen.name
  | outsideResource _ operations =>
    "only appears in " ++ ", ".intercalate operations ++
      "; not a Create input or Create/ReadOne output member"
  | flag f note => note.message f
  | failed e => e.detail

/-- The diagnostic on one line; a field without a name is not shown. -/
def text (d : Diagnostic) : String :=
  "[" ++ d.severity.name ++ "] " ++ d.code ++ ":" ++
    (if d.field = "" then "" else " " ++ d.field ++ ":") ++ " " ++ d.message

end Diagnostic

end FieldResolution
