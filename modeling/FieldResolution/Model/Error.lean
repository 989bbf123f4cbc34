import FieldResolution.Document.Literal

/-!
# Faults of a model

Why a document or a list of declarations is no model, and how each fault is told.
-/

namespace FieldResolution

/-- Why a document or a list of declarations is no model. -/
inductive ModelError where
  | notMapping
  | shapesNotMapping
  | operationsNotList
  | shapeNameNotText (name : Scalar)
  | shapeNotMapping (shape : String)
  | membersMalformed (shape : String)
  | memberIncomplete (shape : String) (entry : Document)
  | memberNameNotText (shape : String) (name : Document)
  | memberTypeNotText (shape member : String) (type : Document)
  | unknownType (spelling context : String)
  | operationIncomplete (entry : Document)
  | operationNameNotText (name : Document)
  | unknownOperationKind (operation : String) (kind : Document)
  | referenceNotText (operation : String) (reference : Document)
  | unknownShape (operation shape : String)
  | duplicateShape (shape : String)
  | duplicateOperation (operation : String)
  | indexOutOfRange (operation : String) (index : Int)

namespace ModelError

def message : ModelError → String
  | notMapping => "Shape graph document must be a mapping at top level"
  | shapesNotMapping => "'shapes' must be a mapping of shape name to definition"
  | operationsNotList => "'operations' must be a list"
  | shapeNameNotText name => "Shape name must be a string: " ++ name.literal
  | shapeNotMapping shape => "Shape " ++ shape ++ " must be a mapping"
  | membersMalformed shape => "Members of shape " ++ shape ++ " must be a list or mapping"
  | memberIncomplete shape entry =>
    "Member of shape " ++ shape ++ " needs 'name' and 'type': " ++ entry.literal
  | memberNameNotText shape name =>
    "Member name in shape " ++ shape ++ " must be a string: " ++ name.literal
  | memberTypeNotText shape member type =>
    "Type of " ++ shape ++ "." ++ member ++ " must be a string: " ++ type.literal
  | unknownType spelling context => "Unknown type '" ++ spelling ++ "' for " ++ context
  | operationIncomplete entry => "Operation entry missing 'name': " ++ entry.literal
  | operationNameNotText name => "Operation name must be a string: " ++ name.literal
  | unknownOperationKind operation kind =>
    "Invalid operation type for " ++ operation ++ ": " ++ kind.plain
  | referenceNotText operation reference =>
    "Operation " ++ operation ++ " must reference its shapes by name, got " ++ reference.literal
  | unknownShape operation shape =>
    "Operation " ++ operation ++ " references unknown shape: " ++ shape
  | duplicateShape shape => "Duplicate shape: " ++ shape
  | duplicateOperation operation => "Duplicate operation: " ++ operation
  | indexOutOfRange operation index =>
    "Operation " ++ operation ++ " references unknown shape index " ++ toString index

end ModelError

end FieldResolution
