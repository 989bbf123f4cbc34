import FieldResolution.Model.Type

/-!
# The API model

Shapes are records of typed members; operations take an input shape and give an output shape.
Both refer to shapes by position, so a shape may hold itself.  `Model.Closed` says that no such
position leaves the model.

A path names a member inside a shape by the names of the members on the way.  Containers on the way
are entered without being named, and they stay around the type of the member that is reached:
`Tags.Key` on a member `Tags` of type `list<Tag>` has the type `list<string>`.
-/

namespace FieldResolution

/-- A named, typed part of a shape. -/
structure Member where
  name : String
  type : MemberType
  required : Bool := false
  deriving DecidableEq, Repr

/-- A named record, its members in the order of declaration. -/
structure Shape where
  name : String
  members : List Member := []
  deriving DecidableEq, Repr

/-- The first member of that name. -/
def Shape.member? (s : Shape) (name : String) : Option Member :=
  s.members.find? fun m => m.name == name

/-- The side of an operation on which a shape stands. -/
inductive Role where
  | input
  | output
  deriving DecidableEq, Repr

def Role.name : Role → String
  | input => "input"
  | output => "output"

/-- What an operation does to a resource. -/
inductive OperationKind where
  | create
  | readOne
  | readMany
  | update
  | delete
  | other
  deriving DecidableEq, Repr

namespace OperationKind

def all : List OperationKind := [create, readOne, readMany, update, delete, other]

def name : OperationKind → String
  | create => "Create"
  | readOne => "ReadOne"
  | readMany => "ReadMany"
  | update => "Update"
  | delete => "Delete"
  | other => "Other"

def ofName? (s : String) : Option OperationKind := all.find? fun k => k.name == s

theorem ofName?_name (k : OperationKind) : ofName? k.name = some k := by cases k <;> decide

/-- The verbs that operation names begin with. -/
def verbs : List (String × OperationKind) :=
  [("Create", create), ("Get", readOne), ("Describe", readOne), ("List", readMany),
    ("Update", update), ("Modify", update), ("Put", update), ("Delete", delete)]

/-- The kind that the verb at the head of an operation's name tells. -/
def infer (operation : String) : OperationKind :=
  match verbs.find? fun v => v.1.toList.isPrefixOf operation.toList with
  | some v => v.2
  | none => other

end OperationKind

/-- An operation and the positions of its shapes. -/
structure Operation where
  name : String
  input : Option Nat := none
  output : Option Nat := none
  kind : OperationKind := .other
  deriving DecidableEq, Repr

/-- The position of the shape on one side of an operation. -/
def Operation.shapeIndex? (o : Operation) : Role → Option Nat
  | .input => o.input
  | .output => o.output

/-- The shapes of an API and the operations over them, in the order of declaration. -/
structure Model where
  shapes : List Shape
  operations : List Operation
  deriving DecidableEq, Repr

/-- The last position of a name. -/
def lastIndex? : List String → String → Option Nat
  | [], _ => none
  | n :: rest, s =>
    match lastIndex? rest s with
    | some i => some (i + 1)
    | none => if n = s then some 0 else none

theorem lastIndex?_eq_none_iff {names : List String} {s : String} :
    lastIndex? names s = none ↔ s ∉ names := by
  induction names with
  | nil => simp [lastIndex?]
  | cons n rest ih =>
    cases h : lastIndex? rest s with
    | some i => simp [lastIndex?, h] at ih ⊢; simp [ih]
    | none => simp [lastIndex?, h] at ih ⊢; simp [ih, eq_comm]

theorem getElem?_of_lastIndex? {names : List String} {s : String} {i : Nat}
    (h : lastIndex? names s = some i) : names[i]? = some s := by
  induction names generalizing i with
  | nil => simp [lastIndex?] at h
  | cons n rest ih =>
    cases hr : lastIndex? rest s with
    | some j =>
      simp only [lastIndex?, hr, Option.some.injEq] at h
      subst h
      simpa using ih hr
    | none =>
      simp only [lastIndex?, hr] at h
      split at h
      · rename_i hn
        simp only [Option.some.injEq] at h
        subst h
        simp [hn]
      · simp at h

namespace Model

def shapeNames (m : Model) : List String := m.shapes.map Shape.name

/-- The position of the shape of that name. -/
def positionOf? (m : Model) (name : String) : Option Nat := lastIndex? m.shapeNames name

/-- The operation of that name. -/
def operation? (m : Model) (name : String) : Option Operation :=
  m.operations.find? fun o => o.name == name

/-- The members of the shape at a position. -/
def membersAt (m : Model) (index : Nat) : List Member :=
  (m.shapes[index]?.map Shape.members).getD []

/-- The shape on one side of an operation. -/
def operationShape? (m : Model) (o : Operation) (r : Role) : Option Shape :=
  (o.shapeIndex? r).bind fun i => m.shapes[i]?

/-- Every shape that a type names is in the model. -/
def ClosedType (m : Model) (t : MemberType) : Prop :=
  ∀ i, t.shape? = some i → i < m.shapes.length

/-- Every shape that a member or an operation names is in the model. -/
def Closed (m : Model) : Prop :=
  (∀ s ∈ m.shapes, ∀ x ∈ s.members, m.ClosedType x.type) ∧
    ∀ o ∈ m.operations, ∀ r i, o.shapeIndex? r = some i → i < m.shapes.length

/-! ## Paths -/

/-- The shape under all containers of a type. -/
def shapeUnder? (m : Model) (t : MemberType) : Option Shape := t.shape?.bind fun i => m.shapes[i]?

/-- The member that a path reaches from a shape, its type inside the containers on the way. -/
def follow (m : Model) (s : Shape) : List String → Option Member
  | [] => none
  | [name] => s.member? name
  | name :: next :: rest =>
    match s.member? name with
    | none => none
    | some via =>
      match m.shapeUnder? via.type with
      | none => none
      | some inner =>
        (m.follow inner (next :: rest)).map fun x =>
          { x with type := MemberType.wrap via.type.layers x.type }

/-- The member that a path reaches from one side of an operation. -/
def followFrom (m : Model) (o : Operation) (path : List String) (r : Role) :
    Option (Role × Member) :=
  ((m.operationShape? o r).bind fun s => m.follow s path).map fun x => (r, x)

/-- The member that a path reaches from the output of an operation, or else from its input. -/
def locate (m : Model) (o : Operation) (path : List String) : Option (Role × Member) :=
  (m.followFrom o path .output).or (m.followFrom o path .input)

end Model

end FieldResolution
