import FieldResolution.Directive.Basic
import FieldResolution.Model.Basic

/-!
# Occurrences of fields

`Model.walk` lists every appearance of a field in the shapes of the operations: operations in
order, the input of each before its output, members in order.  A member of a shape's type that is
to be flattened gives way to the members of that shape, under names that begin with its own.
`flattening` reads off the overrides which members those are.
-/

namespace FieldResolution

/-- One appearance of a field in the input or the output of an operation. -/
structure Occurrence where
  operation : String
  role : Role
  member : String
  type : MemberType
  kind : OperationKind := .other
  required : Bool := false
  path : String := ""
  deriving DecidableEq, Repr

/-- A member as it appears on one side of an operation. -/
def Occurrence.ofMember (o : Operation) (r : Role) (path : String) (x : Member) : Occurrence :=
  { operation := o.name, role := r, member := x.name, type := x.type, kind := o.kind,
    required := x.required, path }

/-! ## Flattened members -/

/-- The member that an override reaches into: the first segment of a redirect that has more. -/
def FieldDirectives.entered? (d : FieldDirectives) : Option String :=
  match d.redirect.map Redirect.segments with
  | some (parent :: _ :: _) => some parent
  | _ => none

/-- The entries of a list whose key has not stood before. -/
def firstPerKey {α : Type} : List (String × α) → List (String × α)
  | [] => []
  | e :: rest => e :: (firstPerKey rest).filter fun x => x.1 != e.1

/-- The members to flatten, each with the first override that reaches into it.  A member that has
an override of its own is left whole. -/
def flattening (overrides : Overrides) : List (String × String) :=
  firstPerKey <| overrides.filterMap fun f =>
    match f.2.entered? with
    | some parent => if (overrides.map Prod.fst).contains parent then none else some (parent, f.1)
    | none => none

/-! ## The walk -/

/-- The appearances of a member of a shape on one side of an operation. -/
def Model.appearances (m : Model) (flat : List String) (o : Operation) (r : Role) (x : Member) :
    List (String × Occurrence) :=
  match x.type, flat.contains x.name with
  | .shape i, true =>
    (m.membersAt i).map fun y =>
      (x.name ++ y.name, .ofMember o r (x.name ++ "." ++ y.name) y)
  | _, _ => [(x.name, .ofMember o r x.name x)]

/-- The appearances on one side of an operation. -/
def Model.walkSide (m : Model) (flat : List String) (o : Operation) (r : Role) :
    List (String × Occurrence) :=
  match m.operationShape? o r with
  | some s => s.members.flatMap (m.appearances flat o r)
  | none => []

/-- The appearances of all fields, in order. -/
def Model.walk (m : Model) (flat : List String) : List (String × Occurrence) :=
  m.operations.flatMap fun o => m.walkSide flat o .input ++ m.walkSide flat o .output

end FieldResolution
