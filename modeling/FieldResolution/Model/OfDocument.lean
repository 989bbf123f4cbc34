import FieldResolution.Model.Declaration
import FieldResolution.Model.Spelling

/-!
# Models from documents

A model document is a mapping.  Under `shapes` it maps names to shapes, each with its members as a
list of mappings or as a mapping from names to type spellings; under `operations` it lists the
operations, which name their shapes.  A shape may be named before it is declared.  Whatever counts
as absent (null, false, zero, empty) may stand for a missing part.

Shapes are read first, in order, each member completely before the next; then the operations in
order, each for its name, its kind, its input and its output.  The first fault met is the answer.
-/

namespace FieldResolution

/-- A list without an entry that a reader refuses. -/
def readAll {α β ε : Type} (read : α → Except ε β) : List α → Except ε (List β)
  | [] => .ok []
  | a :: rest => do
    let b ← read a
    let bs ← readAll read rest
    return b :: bs

namespace Document

/-- The value under a key of a mapping, if there is one that counts as present. -/
def presentAt? (entries : List (Scalar × Document)) (key : String) : Option Document :=
  (lookup entries key).bind present?

end Document

namespace Member

/-- A member of a shape from its name and the spelling of its type. -/
def ofParts (shapes : List String) (shape : String) (name type : Document) (required : Bool) :
    Except ModelError Member :=
  match name with
  | .scalar (.text name) =>
    match type with
    | .scalar (.text spelling) =>
      match MemberType.parse shapes spelling with
      | .ok type => .ok { name, type, required }
      | .error unknown => .error (.unknownType unknown (shape ++ "." ++ name))
    | type => .error (.memberTypeNotText shape name type)
  | name => .error (.memberNameNotText shape name)

/-- A member written as a mapping with a name and a type. -/
def ofDocument (shapes : List String) (shape : String) (d : Document) :
    Except ModelError Member :=
  match d with
  | .mapping entries =>
    match Document.lookup entries "name", Document.lookup entries "type" with
    | some name, some type =>
      ofParts shapes shape name type (Document.presentAt? entries "required").isSome
    | _, _ => .error (.memberIncomplete shape d)
  | _ => .error (.memberIncomplete shape d)

/-- A member written as an entry from its name to the spelling of its type. -/
def ofEntry (shapes : List String) (shape : String) (e : Scalar × Document) :
    Except ModelError Member :=
  ofParts shapes shape (.scalar e.1) e.2 false

end Member

namespace Shape

/-- The members of a shape. -/
def membersOfDocument (shapes : List String) (shape : String) :
    Document → Except ModelError (List Member)
  | .mapping entries => readAll (Member.ofEntry shapes shape) entries
  | .list items => readAll (Member.ofDocument shapes shape) items
  | _ => .error (.membersMalformed shape)

/-- A shape from its name and its definition. -/
def ofEntry (shapes : List String) (e : Scalar × Document) : Except ModelError Shape :=
  match e.1 with
  | .text name =>
    match e.2.present? with
    | none => .ok { name }
    | some (.mapping definition) =>
      match Document.presentAt? definition "members" with
      | none => .ok { name }
      | some members => return { name, members := ← membersOfDocument shapes name members }
    | some _ => .error (.shapeNotMapping name)
  | name => .error (.shapeNameNotText name)

end Shape

namespace OperationDeclaration

/-- The kind of an operation, told by its name where none is given. -/
def kindOfDocument (operation : String) (kind : Option Document) :
    Except ModelError OperationKind :=
  match kind with
  | none => .ok (OperationKind.infer operation)
  | some d =>
    match d with
    | .scalar (.text s) =>
      match OperationKind.ofName? s with
      | some k => .ok k
      | none => .error (.unknownOperationKind operation d)
    | _ => .error (.unknownOperationKind operation d)

/-- The position of the shape that an operation names. -/
def referenceOfDocument (shapes : List String) (operation : String) :
    Option Document → Except ModelError (Option Int)
  | none => .ok none
  | some (.scalar .null) => .ok none
  | some (.scalar (.text name)) =>
    match lastIndex? shapes name with
    | some i => .ok (some i)
    | none => .error (.unknownShape operation name)
  | some d => .error (.referenceNotText operation d)

/-- An operation written as a mapping. -/
def ofDocument (shapes : List String) (d : Document) : Except ModelError OperationDeclaration :=
  match d with
  | .mapping entries =>
    match Document.presentAt? entries "name" with
    | none => .error (.operationIncomplete d)
    | some (.scalar (.text name)) => do
      let kind ← kindOfDocument name (Document.presentAt? entries "type")
      let input ← referenceOfDocument shapes name (Document.lookup entries "input")
      let output ← referenceOfDocument shapes name (Document.lookup entries "output")
      return { name, input, output, kind }
    | some other => .error (.operationNameNotText other)
  | _ => .error (.operationIncomplete d)

end OperationDeclaration

/-- The names among the keys of a mapping. -/
def textKeys (entries : List (Scalar × Document)) : List String :=
  entries.filterMap fun e =>
    match e.1 with
    | .text name => some name
    | _ => none

/-- The entries under `shapes`. -/
def shapeEntries : Option Document → Except ModelError (List (Scalar × Document))
  | none => .ok []
  | some (.mapping definitions) => .ok definitions
  | some _ => .error .shapesNotMapping

/-- The items under `operations`. -/
def operationItems : Option Document → Except ModelError (List Document)
  | none => .ok []
  | some (.list items) => .ok items
  | some _ => .error .operationsNotList

/-- The declarations that a document holds. -/
def Declarations.ofDocument : Document → Except ModelError Declarations
  | .mapping entries => do
    let definitions ← shapeEntries (Document.presentAt? entries "shapes")
    let items ← operationItems (Document.presentAt? entries "operations")
    let names := textKeys definitions
    let shapes ← readAll (Shape.ofEntry names) definitions
    let operations ← readAll (OperationDeclaration.ofDocument names) items
    return { shapes, operations }
  | _ => .error .notMapping

/-- The model that a document holds. -/
def Model.ofDocument (d : Document) : Except ModelError Model := do
  Model.ofDeclarations (← Declarations.ofDocument d)

end FieldResolution
