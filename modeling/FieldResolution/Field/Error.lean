import FieldResolution.Directive.Basic
import FieldResolution.Model.Basic

/-!
# Faults of a field

Why a single field cannot be resolved.  Each fault belongs to one of five kinds, which have stable
codes.
-/

namespace FieldResolution

/-- The directives that attach a policy to a field. -/
inductive PolicyBlock where
  | compare
  | print
  | lateInit
  deriving DecidableEq, Repr

/-- The key under which a policy is written. -/
def PolicyBlock.key : PolicyBlock → String
  | compare => "compare"
  | print => "print"
  | lateInit => "late_initialize"

/-- Where a field has which type. -/
structure Reading where
  spelling : String
  operation : String
  role : Role
  deriving DecidableEq, Repr

/-- Why a field cannot be resolved. -/
inductive FieldFault where
  | unknownOverride
  | noOccurrence
  | divergentTypes (readings : List Reading)
  | missingOperation (operation : String)
  | unresolvedPath (path operation : String)
  | redirectedAttribute
  | ignoredWithSwitch (w : Switch)
  | switchOnStatus (w : Switch)
  | ignoredWithPolicy (p : PolicyBlock)
  | comparisonOffWithColumn
  | columnWithComparisonOff
  | lateInitOnStatus
  | negativeBackoff (min max : Int)
  | reversedBackoff (min max : Int)
  | flagTaken (f : Flag) (owner : String)
  deriving DecidableEq, Repr

/-- The kinds of faults. -/
inductive FaultKind where
  | unknownField
  | typeAmbiguity
  | badRedirect
  | conflict
  | backoffBounds
  deriving DecidableEq, Repr

def FaultKind.code : FaultKind → String
  | unknownField => "unknown_field"
  | typeAmbiguity => "type_ambiguity"
  | badRedirect => "bad_source_redirect"
  | conflict => "conflicting_override"
  | backoffBounds => "invalid_backoff_bounds"

namespace FieldFault

def kind : FieldFault → FaultKind
  | unknownOverride | noOccurrence => .unknownField
  | divergentTypes _ => .typeAmbiguity
  | missingOperation _ | unresolvedPath _ _ => .badRedirect
  | negativeBackoff _ _ | reversedBackoff _ _ => .backoffBounds
  | redirectedAttribute | ignoredWithSwitch _ | switchOnStatus _ | ignoredWithPolicy _
  | comparisonOffWithColumn | columnWithComparisonOff | lateInitOnStatus
  | flagTaken _ _ => .conflict

def detail : FieldFault → String
  | unknownOverride => "override names a field with no lineage and no `from` redirect"
  | noOccurrence => "field has no lineage in any operation shape"
  | divergentTypes readings =>
    "divergent types " ++
      " vs ".intercalate (readings.map fun r =>
        r.spelling ++ " in " ++ r.operation ++ " " ++ r.role.name) ++
      "; add a `from` override to pick one"
  | missingOperation operation => "operation " ++ operation ++ " does not exist"
  | unresolvedPath path operation =>
    "path " ++ path ++ " does not resolve in " ++ operation ++ " output or input shape"
  | redirectedAttribute => "is_attribute fields cannot take their type from a `from` redirect"
  | ignoredWithSwitch w => "ignored field cannot set " ++ w.key
  | switchOnStatus w => w.key ++ " only applies to Spec fields"
  | ignoredWithPolicy p => "ignored field cannot carry a `" ++ p.key ++ "` policy"
  | comparisonOffWithColumn => "compare.is_ignored cannot be combined with a `print` column"
  | columnWithComparisonOff => "a `print` column cannot be combined with compare.is_ignored"
  | lateInitOnStatus => "late_initialize only applies to Spec fields"
  | negativeBackoff min max =>
    "backoff bounds must not be negative (min=" ++ toString min ++ ", max=" ++ toString max ++ ")"
  | reversedBackoff min max =>
    "max_backoff_seconds (" ++ toString max ++ ") is less than min_backoff_seconds (" ++
      toString min ++ ")"
  | flagTaken f owner => f.key ++ " is already set explicitly on " ++ owner

end FieldFault

/-- A field that cannot be resolved. -/
structure FieldError where
  field : String
  fault : FieldFault
  deriving DecidableEq, Repr

namespace FieldError

def code (e : FieldError) : String := e.fault.kind.code

def detail (e : FieldError) : String := e.fault.detail

def message (e : FieldError) : String := e.field ++ ": " ++ e.detail

end FieldError

end FieldResolution
