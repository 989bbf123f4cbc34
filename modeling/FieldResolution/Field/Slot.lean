import FieldResolution.Field.Error
import FieldResolution.Field.Occurrence

/-!
# Slots

Where a field lives on the resource: in its spec, in its status, or nowhere.  A decision carries
whether a default rule or a directive made it.  Directives come first: an ignored field, a field
that is said to be read-only or not, a redirected field.  Otherwise the slot follows from where the
field appears: in the input of a create operation it is a spec field, in the output of a create or
read-one operation a status field, and elsewhere it is ignored unless a directive keeps it.
-/

namespace FieldResolution

/-- Where a field lives on the resource. -/
inductive Slot where
  | spec
  | status
  | ignored
  deriving DecidableEq, Repr

namespace Slot

def all : List Slot := [spec, status, ignored]

def name : Slot → String
  | spec => "Spec"
  | status => "Status"
  | ignored => "Ignored"

def ofName? (s : String) : Option Slot := all.find? fun x => x.name == s

theorem ofName?_name (s : Slot) : ofName? s.name = some s := by cases s <;> decide

end Slot

/-- Who made a decision. -/
inductive Provenance where
  | heuristic
  | explicit
  deriving DecidableEq, Repr

def Provenance.name : Provenance → String
  | heuristic => "heuristic"
  | explicit => "explicit"

/-- A value and who decided it. -/
structure Decision (α : Type) where
  value : α
  source : Provenance
  deriving DecidableEq, Repr

namespace Decision

def heuristic {α : Type} (a : α) : Decision α := ⟨a, .heuristic⟩

def explicit {α : Type} (a : α) : Decision α := ⟨a, .explicit⟩

def isExplicit {α : Type} (d : Decision α) : Bool := d.source == .explicit

end Decision

namespace Occurrence

/-- In the input of a create operation. -/
def isCreateInput (o : Occurrence) : Bool := o.role == .input && o.kind == .create

/-- In the output of a create or read-one operation. -/
def isStatusOutput (o : Occurrence) : Bool :=
  o.role == .output && (o.kind == .create || o.kind == .readOne)

end Occurrence

/-- The slot that the occurrences of a field imply. -/
def impliedSlot (occurrences : List Occurrence) : Slot :=
  if occurrences.any Occurrence.isCreateInput then .spec
  else if occurrences.any Occurrence.isStatusOutput then .status
  else .ignored

/-- The slot of a field that is kept although its occurrences would ignore it. -/
def keptSlot (occurrences : List Occurrence) : Slot :=
  if occurrences.any fun o => o.role == .input then .spec else .status

/-- The slot that directives alone decide. -/
def directedSlot? (occurrences : List Occurrence) (d : FieldDirectives) : Option (Decision Slot) :=
  if d.isOn .isIgnored then some (.explicit .ignored)
  else
    match d.isReadOnly with
    | some true => some (.explicit .status)
    | some false => some (.explicit .spec)
    | none =>
      if d.redirect.isSome then some (.explicit .status)
      else if d.isOn .isAttribute && occurrences.isEmpty then some (.heuristic .spec)
      else none

/-- Does a directive keep a field that its occurrences would ignore? -/
def isKept (occurrences : List Occurrence) (d : FieldDirectives) : Bool :=
  impliedSlot occurrences == .ignored && d.isIgnored == some false

/-- The slot of a field. -/
def decideSlot (occurrences : List Occurrence) (d : FieldDirectives) : Decision Slot :=
  match directedSlot? occurrences d with
  | some decision => decision
  | none =>
    if isKept occurrences d then .explicit (keptSlot occurrences)
    else .heuristic (impliedSlot occurrences)

theorem decideSlot_of_silent (occurrences : List Occurrence) :
    decideSlot occurrences {} = .heuristic (impliedSlot occurrences) := by
  unfold decideSlot isKept
  simp [directedSlot?, FieldDirectives.isOn, FieldDirectives.switch]

/-- Switches that an ignored field must not have on, in the order in which they are looked at. -/
def ignoredForbids : List Switch := [.isPrimaryKey, .isArn, .isOwnerAccountId]

/-- Switches that a status field must not have on, in the order in which they are looked at. -/
def statusForbids : List Switch := [.isImmutable, .isRequired]

/-- The first switch that makes no sense in a slot. -/
def slotFault? (slot : Slot) (d : FieldDirectives) : Option FieldFault :=
  match slot with
  | .ignored => (ignoredForbids.find? d.isOn).map .ignoredWithSwitch
  | .status => (statusForbids.find? d.isOn).map .switchOnStatus
  | .spec => none

/-- Do the occurrences of a field in a slot require it? -/
def impliedRequired (occurrences : List Occurrence) (slot : Slot) : Bool :=
  slot == .spec && occurrences.any fun o => o.required && o.isCreateInput

/-- Is a field required? -/
def decideRequired (occurrences : List Occurrence) (d : FieldDirectives) (slot : Slot) :
    Decision Bool :=
  match d.isRequired with
  | some b => .explicit b
  | none => .heuristic (impliedRequired occurrences slot)

end FieldResolution
