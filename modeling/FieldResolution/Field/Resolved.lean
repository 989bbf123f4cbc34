import FieldResolution.Field.Policy
import FieldResolution.Model.Type

/-!
# Resolved fields

Everything that is decided about one field.  `provenance` records, in the order of decision, who
decided which aspect of the field.

The fields that are listed have columns.  They stand in the order of the fields' positions or, where
that is asked for, by ascending index, a missing index counting as zero and fields of one index
keeping the order of their positions.
-/

namespace FieldResolution

/-- Everything that is decided about one field. -/
structure ResolvedField where
  name : String
  slot : Slot
  type : MemberType
  typeName : String
  isUnpacked : Bool := false
  isPrimaryKey : Bool := false
  isOwnerAccountId : Bool := false
  isArn : Bool := false
  isSecret : Bool := false
  isImmutable : Bool := false
  isRequired : Bool := false
  comparison : Comparison := {}
  listing : Option Listing := none
  backoff : Option Backoff := none
  sourceOperation : Option String := none
  sourcePath : Option String := none
  position : Int := 0
  provenance : List (String × Provenance) := []
  deriving DecidableEq, Repr

namespace ResolvedField

/-- Who decided one aspect of the field, if that is recorded. -/
def provenanceOf? (f : ResolvedField) (aspect : String) : Option Provenance :=
  f.provenance.lookup aspect

/-- An attribute is unpacked from a map of strings, so it is a string. -/
def unpack (f : ResolvedField) : ResolvedField :=
  { f with type := .string, typeName := Primitive.string.name, isUnpacked := true }

/-- Sets one of the flags that a single field carries. -/
def setFlag (f : ResolvedField) (flag : Flag) (b : Bool) : ResolvedField :=
  match flag with
  | .switch .isPrimaryKey => { f with isPrimaryKey := b }
  | .switch .isArn => { f with isArn := b }
  | .switch .isOwnerAccountId => { f with isOwnerAccountId := b }
  | _ => f

/-- Sets a flag and records who decided it. -/
def decideFlag (f : ResolvedField) (flag : Flag) (d : Decision Bool) : ResolvedField :=
  { f.setFlag flag d.value with provenance := f.provenance ++ [(flag.key, d.source)] }

end ResolvedField

/-! ## Columns -/

/-- A column of the listing. -/
structure Column where
  field : String
  header : String
  typeName : String
  priority : Int := 0
  deriving DecidableEq, Repr

namespace Column

/-- The fields that are listed, each with how. -/
def listed (fields : List ResolvedField) : List (ResolvedField × Listing) :=
  fields.filterMap fun f => f.listing.map fun l => (f, l)

/-- The listed fields in the order of their columns. -/
def arrange (order : ColumnOrder) (listed : List (ResolvedField × Listing)) :
    List (ResolvedField × Listing) :=
  let placed := listed.mergeSort fun a b => decide (a.1.position ≤ b.1.position)
  match order with
  | .declaration => placed
  | .index => placed.mergeSort fun a b => decide (a.2.index.getD 0 ≤ b.2.index.getD 0)

/-- The column of a listed field. -/
def ofListed (e : ResolvedField × Listing) : Column :=
  { field := e.1.name, header := e.2.header, typeName := e.1.typeName, priority := e.2.priority }

/-- The columns of some fields. -/
def ofFields (fields : List ResolvedField) (order : ColumnOrder) : List Column :=
  (arrange order (listed fields)).map ofListed

end Column

end FieldResolution
