import FieldResolution.Field.Resolved
import FieldResolution.Field.Roster
import FieldResolution.Resolution.Settle

/-!
# Resolving a resource

`resolve` settles every field of a resource and then assigns the flags that one field carries.  A
fault of one field stops neither the others nor the flags, so a run finds every fault.  If there is
one, the answer is a `Failure` with all of them and no field; otherwise it is a `FieldSet`.
-/

namespace FieldResolution

/-- What is asked: the fields of a resource of a model under some directives. -/
structure Request where
  model : Model
  resource : String
  directives : ResourceDirectives := {}

/-- Every field of a resource, in order, with the listing and the diagnostics. -/
structure FieldSet where
  resource : String
  fields : List ResolvedField := []
  diagnostics : List Diagnostic := []
  columns : List Column := []
  addAgeColumn : Bool := true
  deriving DecidableEq, Repr

/-- Every fault of a run, with its diagnostics. -/
structure Failure where
  resource : String
  errors : List FieldError
  diagnostics : List Diagnostic
  deriving DecidableEq, Repr

/-- What came of one field. -/
structure Outcome where
  case : FieldCase
  slot : Decision Slot
  result : Except FieldFault ResolvedField

/-- What comes of a field under its directives. -/
def FieldCase.outcome (c : FieldCase) (m : Model) : Outcome :=
  { case := c, slot := c.slot, result := c.settle m }

namespace Outcome

/-- What comes of a field with the entry that the overrides have for it, if they have one. -/
def ofEntry (m : Model) (name : String) (position : Nat) (occurrences : List Occurrence) :
    Option FieldDirectives → Outcome
  | none =>
    let c : FieldCase := { name, position, occurrences, directives := {} }
    { case := c, slot := .heuristic (impliedSlot occurrences), result := c.settleBare m }
  | some directives => FieldCase.outcome { name, position, occurrences, directives } m

/-- A field without an entry and one whose entry says nothing come out alike. -/
theorem ofEntry_eq (m : Model) (name : String) (position : Nat) (occurrences : List Occurrence)
    (entry : Option FieldDirectives) :
    ofEntry m name position occurrences entry =
      FieldCase.outcome { name, position, occurrences, directives := entry.getD {} } m := by
  cases entry with
  | some directives => rfl
  | none =>
    unfold ofEntry FieldCase.outcome
    rw [Option.getD_none, FieldCase.slot_of_silent rfl, FieldCase.settle_of_silent rfl]

def field? (o : Outcome) : Option ResolvedField :=
  match o.result with
  | .ok f => some f
  | .error _ => none

def error? (o : Outcome) : Option FieldError :=
  match o.result with
  | .ok _ => none
  | .error fault => some ⟨o.case.name, fault⟩

def diagnostics (o : Outcome) : List Diagnostic :=
  match o.error? with
  | some e => [.failed e]
  | none => o.case.remarksOn o.slot

end Outcome

/-- What a run finds: the fields it knows, what came of each, and what came of each flag. -/
structure Findings where
  roster : Roster
  outcomes : List Outcome
  assignments : List (Except FieldError FlagAssignment)

namespace Findings

/-- The fields that were settled. -/
def settled (r : Findings) : List ResolvedField := r.outcomes.filterMap Outcome.field?

/-- The flags that were assigned. -/
def assigned (r : Findings) : List FlagAssignment := r.assignments.filterMap Except.toOption

/-- Sets the flag of an assignment on a field. -/
def applyFlag (f : ResolvedField) (a : FlagAssignment) : ResolvedField :=
  match a.decisions.lookup f.name with
  | some d => f.decideFlag a.flag d
  | none => f

/-- The settled fields with every flag that was assigned. -/
def fields (r : Findings) : List ResolvedField :=
  let assigned := r.assigned
  r.settled.map fun f => assigned.foldl applyFlag f

/-- The overrides that name no field. -/
def unknownErrors (r : Findings) : List FieldError :=
  r.roster.unknown.map fun n => ⟨n, .unknownOverride⟩

/-- The fault of a flag that was not assigned. -/
def flagError? : Except FieldError FlagAssignment → Option FieldError
  | .error e => some e
  | .ok _ => none

/-- Every fault, in the order in which it is found. -/
def errors (r : Findings) : List FieldError :=
  r.unknownErrors ++ r.outcomes.filterMap Outcome.error? ++ r.assignments.filterMap flagError?

/-- The diagnostics of an assignment. -/
def flagDiagnostics : Except FieldError FlagAssignment → List Diagnostic
  | .error e => [.failed e]
  | .ok a => a.notes.map (.flag a.flag)

/-- Everything there is to say, in the order in which it is found. -/
def diagnostics (r : Findings) : List Diagnostic :=
  r.roster.flattened.map (fun e => .flattened e.1 e.2) ++ r.unknownErrors.map .failed ++
    r.outcomes.flatMap Outcome.diagnostics ++ r.assignments.flatMap flagDiagnostics

end Findings

namespace Request

def overrides (q : Request) : Overrides := q.directives.fields

def roster (q : Request) : Roster := Roster.ofModel q.model q.overrides

/-- What comes of each field of a roster. -/
def outcomes (q : Request) (r : Roster) : List Outcome :=
  r.groups.zipIdx.map fun g => .ofEntry q.model g.1.1 g.2 g.1.2 (q.overrides.lookup g.1.1)

/-- The flags that one field carries, with the names that mark it. -/
def flags (q : Request) : List (Flag × List String) :=
  [(.switch .isPrimaryKey, primaryKeyNames q.resource), (.switch .isArn, arnNames q.resource),
    (.switch .isOwnerAccountId, [])]

/-- The questions who of the settled fields carries which flag. -/
def flagQuestions (q : Request) (settled : List ResolvedField) : List FlagQuestion :=
  let names := settled.map ResolvedField.name
  let ineligible := (settled.filter fun f => f.slot == .ignored).map ResolvedField.name
  q.flags.map fun e =>
    { flag := e.1, names, overrides := q.overrides, patterns := e.2, ineligible }

/-- What a run finds. -/
def findings (q : Request) : Findings :=
  let roster := q.roster
  let outcomes := q.outcomes roster
  let questions := q.flagQuestions (outcomes.filterMap Outcome.field?)
  { roster, outcomes, assignments := questions.map FlagQuestion.assign }

/-- The answer that follows from what a run finds. -/
def conclude (q : Request) (r : Findings) : Except Failure FieldSet :=
  if r.errors = [] then
    .ok
      { resource := q.resource
        fields := r.fields
        diagnostics := r.diagnostics
        columns := Column.ofFields r.fields q.directives.listing.order
        addAgeColumn := q.directives.listing.addAgeColumn }
  else .error { resource := q.resource, errors := r.errors, diagnostics := r.diagnostics }

/-- The fields of a resource, or every fault. -/
def resolve (q : Request) : Except Failure FieldSet := q.conclude q.findings

end Request

/-! ## Asking a result -/

namespace Failure

/-- The failure with one line for each fault. -/
def message (f : Failure) : String :=
  "Field resolution failed for " ++ f.resource ++ " (" ++ toString f.errors.length ++
    " error(s)):\n" ++
    "\n".intercalate (f.errors.map fun e => "  - [" ++ e.code ++ "] " ++ e.message)

end Failure

namespace FieldSet

def field? (s : FieldSet) (name : String) : Option ResolvedField :=
  s.fields.find? fun f => f.name == name

def inSlot (s : FieldSet) (slot : Slot) : List ResolvedField :=
  s.fields.filter fun f => f.slot == slot

def primaryKey? (s : FieldSet) : Option ResolvedField := s.fields.find? ResolvedField.isPrimaryKey

def arn? (s : FieldSet) : Option ResolvedField := s.fields.find? ResolvedField.isArn

def ownerAccountId? (s : FieldSet) : Option ResolvedField :=
  s.fields.find? ResolvedField.isOwnerAccountId

/-- The headers of the listing, between the fixed columns for the name and the age. -/
def headers (s : FieldSet) (wide : Bool) : List String :=
  "NAME" :: (s.columns.filter fun c => wide || c.priority == 0).map Column.header ++
    if s.addAgeColumn then ["AGE"] else []

end FieldSet

end FieldResolution
