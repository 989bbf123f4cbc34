import FieldResolution.Field.Error
import FieldResolution.Field.Slot

/-!
# Policies

Three policies may be attached to a field whose slot is known: how its values are compared, how it
is listed, and how long its late initialization is retried.  Each is decided on its own from the
slot and the directives.  An ignored field has none of them.
-/

namespace FieldResolution

/-- How two values of a field are compared. -/
structure Comparison where
  isIgnored : Bool := false
  nilEqualsZero : Bool := false
  deriving DecidableEq, Repr

/-- How a field is listed. -/
structure Listing where
  header : String
  priority : Int := 0
  index : Option Int := none
  deriving DecidableEq, Repr

/-- Columns of positive priority are in the wide view only. -/
def Listing.isWide (l : Listing) : Bool := 0 < l.priority

/-- The bounds of late initialization, in seconds. -/
structure Backoff where
  min : Int
  max : Int
  deriving DecidableEq, Repr

namespace FieldDirectives

/-- Is the field left out of comparisons? -/
def isComparisonOff (d : FieldDirectives) : Bool :=
  match d.compare with
  | some c => c.isIgnored
  | none => false

/-- How the values of the field are compared. -/
def comparison (d : FieldDirectives) (slot : Slot) : Except FieldFault Comparison :=
  match d.compare with
  | none => .ok {}
  | some c =>
    if slot = .ignored then .error (.ignoredWithPolicy .compare)
    else if c.isIgnored ∧ d.print.isSome then .error .comparisonOffWithColumn
    else .ok { isIgnored := c.isIgnored, nilEqualsZero := c.nilEqualsZero }

/-- The header of a column: its own name, or that of the field where it is not named. -/
def headerOf (field : String) : Option String → String
  | none => field
  | some name => if name = "" then field else name

/-- How the field is listed, if it is. -/
def listing? (d : FieldDirectives) (name : String) (slot : Slot) :
    Except FieldFault (Option Listing) :=
  match d.print with
  | none => .ok none
  | some p =>
    if slot = .ignored then .error (.ignoredWithPolicy .print)
    else if d.isComparisonOff then .error .columnWithComparisonOff
    else .ok (some { header := headerOf name p.name, priority := p.priority, index := p.index })

/-- How long the late initialization of the field is retried, if it is. -/
def backoff? (d : FieldDirectives) (slot : Slot) : Except FieldFault (Option Backoff) :=
  match d.lateInit with
  | none => .ok none
  | some l =>
    if slot = .ignored then .error (.ignoredWithPolicy .lateInit)
    else if slot = .status then .error .lateInitOnStatus
    else if l.minBackoff < 0 ∨ l.maxBackoff < 0 then
      .error (.negativeBackoff l.minBackoff l.maxBackoff)
    else if l.maxBackoff < l.minBackoff then
      .error (.reversedBackoff l.minBackoff l.maxBackoff)
    else .ok (some { min := l.minBackoff, max := l.maxBackoff })

end FieldDirectives

end FieldResolution
