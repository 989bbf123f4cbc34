import FieldResolution.Field.Error
import FieldResolution.Field.Occurrence
import FieldResolution.Model.Basic
import FieldResolution.Model.Signature
import FieldResolution.Model.Spelling

/-!
# The type of a field

A field has one type.  A redirect decides it outright, and an attribute is a string; both make the
occurrences irrelevant.  Otherwise all occurrences have to agree in structure, and the first one
gives the type.
-/

namespace FieldResolution

namespace Model

/-- Where a redirect leads. -/
def follows (m : Model) (r : Redirect) : Except FieldFault (Role × Member) :=
  match m.operation? r.operation with
  | none => .error (.missingOperation r.operation)
  | some o =>
    match m.locate o r.segments with
    | none => .error (.unresolvedPath r.path r.operation)
    | some found => .ok found

/-- The first occurrence of every structure among the types of some occurrences. -/
def distinctReadings (m : Model) : List Occurrence → List Occurrence
  | [] => []
  | o :: rest => o :: (m.distinctReadings rest).filter fun x => !m.alike o.type x.type

/-- How an occurrence reads. -/
def reading (m : Model) (o : Occurrence) : Reading :=
  { spelling := m.spell o.type, operation := o.operation, role := o.role }

/-- The type on which some occurrences agree. -/
def commonType (m : Model) : List Occurrence → Except FieldFault MemberType
  | [] => .error .noOccurrence
  | first :: rest =>
    if rest.all fun o => m.alike first.type o.type then .ok first.type
    else .error (.divergentTypes ((m.distinctReadings (first :: rest)).map m.reading))

/-- The type of a field from its occurrences and directives. -/
def fieldType (m : Model) (occurrences : List Occurrence) (d : FieldDirectives) :
    Except FieldFault MemberType :=
  match d.redirect with
  | some r =>
    if d.isOn .isAttribute then .error .redirectedAttribute
    else (m.follows r).map fun found => found.2.type
  | none => if d.isOn .isAttribute then .ok .string else m.commonType occurrences

end Model

end FieldResolution
