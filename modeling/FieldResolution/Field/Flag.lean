import FieldResolution.Field.Error
import FieldResolution.Field.Slot
import FieldResolution.Text.Lowercase

/-!
# Flags that one field carries

A flag such as the primary key belongs to at most one field of a resource.  A field that is
switched on by a directive carries it, and two such fields are a conflict.  Otherwise the first
field whose lower-cased name is one of the given patterns carries it, unless the field is
ineligible or switched off.  What the patterns would have said and did not decide is noted.
-/

namespace FieldResolution

/-- Why a name that matches the patterns does not decide a flag. -/
inductive FlagNote where
  | disabled (field : String)
  | overridden (field owner : String)
  | ignored (field owner : String)
  deriving DecidableEq, Repr

namespace FlagNote

def field : FlagNote → String
  | disabled field | overridden field _ | ignored field _ => field

def code : FlagNote → String
  | disabled _ | overridden _ _ => "heuristic_overridden"
  | ignored _ _ => "singleton_match_ignored"

def message (f : Flag) : FlagNote → String
  | disabled _ => f.key ++ " name match disabled by explicit override"
  | overridden _ owner =>
    f.key ++ " name match overridden by explicit " ++ f.key ++ " on " ++ owner
  | ignored _ owner => f.key ++ " already assigned to " ++ owner ++ "; later name match ignored"

end FlagNote

/-- Who carries a flag, what was decided for every field, and what is noted. -/
structure FlagAssignment where
  flag : Flag
  owner : Option String
  decisions : List (String × Decision Bool)
  notes : List FlagNote
  deriving DecidableEq, Repr

/-- The lower-cased names that mark the primary key of a resource. -/
def primaryKeyNames (resource : String) : List String :=
  let r := Text.lowercase resource
  ["name", r, r ++ "name", r ++ "id"]

/-- The lower-cased names that mark the ARN of a resource. -/
def arnNames (resource : String) : List String := ["arn", Text.lowercase resource ++ "arn"]

/-- What is asked when a flag is assigned. -/
structure FlagQuestion where
  flag : Flag
  names : List String
  overrides : Overrides
  patterns : List String
  ineligible : List String := []

namespace FlagQuestion

/-- What the directives say about a field, if it has an entry that speaks of the flag. -/
def explicit? (q : FlagQuestion) (name : String) : Option Bool :=
  (q.overrides.lookup name).bind fun d => d.flag q.flag

/-- An entry without directives says of the flag what no entry says: nothing. -/
theorem explicit?_eq (q : FlagQuestion) (name : String) :
    q.explicit? name = (q.overrides.get name).flag q.flag := by
  unfold explicit? Overrides.get
  cases q.overrides.lookup name with
  | some d => rfl
  | none =>
    show none = FieldDirectives.flag {} q.flag
    cases q.flag with
    | switch w => cases w <;> rfl
    | named key => rfl

/-- The fields that are switched on. -/
def switchedOn (q : FlagQuestion) : List String :=
  q.names.filter fun n => q.explicit? n == some true

/-- Does the name of a field match, and may the field carry the flag? -/
def isCandidate (q : FlagQuestion) (name : String) : Bool :=
  !q.ineligible.contains name && q.patterns.contains (Text.lowercase name)

/-- The fields that the patterns find. -/
def candidates (q : FlagQuestion) : List String := q.names.filter q.isCandidate

/-- The first field that the patterns find and no directive speaks of. -/
def firstMatch? (q : FlagQuestion) : Option String :=
  q.candidates.find? fun n => (q.explicit? n).isNone

/-- The field that carries the flag by its name. -/
def heuristicOwner? (q : FlagQuestion) : Option String :=
  if q.switchedOn.isEmpty then q.firstMatch? else none

/-- The note on a field that the patterns find, given the field that is switched on and the one
that carries the flag by its name. -/
def note? (q : FlagQuestion) (switchedOn heuristicOwner : Option String) (name : String) :
    Option FlagNote :=
  match q.explicit? name with
  | some true => none
  | some false => some (.disabled name)
  | none =>
    match switchedOn, heuristicOwner with
    | some owner, _ => some (.overridden name owner)
    | none, some owner => if name = owner then none else some (.ignored name owner)
    | none, none => none

/-- The decision on a field, given the one that carries the flag by its name. -/
def decision (q : FlagQuestion) (heuristicOwner : Option String) (name : String) : Decision Bool :=
  match q.explicit? name with
  | some b => .explicit b
  | none => .heuristic (heuristicOwner == some name)

/-- The names in the order in which they are decided: those that a directive speaks of, the owner
by name, and the rest. -/
def decidedNames (q : FlagQuestion) (heuristicOwner : Option String) : List String :=
  (q.names.filter (fun n => (q.explicit? n).isSome) ++ heuristicOwner.toList ++ q.names).eraseDups

/-- Assigns the flag, unless two fields are switched on. -/
def assign (q : FlagQuestion) : Except FieldError FlagAssignment :=
  let switchedOn := q.switchedOn
  let heuristicOwner := q.heuristicOwner?
  match switchedOn with
  | first :: second :: _ => .error ⟨second, .flagTaken q.flag first⟩
  | _ =>
    .ok
      { flag := q.flag
        owner := switchedOn.head?.or heuristicOwner
        decisions := (q.decidedNames heuristicOwner).map fun n => (n, q.decision heuristicOwner n)
        notes := q.candidates.filterMap (q.note? switchedOn.head? heuristicOwner) }

end FlagQuestion

end FieldResolution
