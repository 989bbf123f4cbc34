import FieldResolution.Directive.ToDocument
import FieldResolution.Resolution.Run

/-!
# Reports

The two forms in which a result is reported.  As a document it has one record for each resolved
field, column and diagnostic, with null for what a field does not have.  As a table it has a line
for each field; every cell is filled up with blanks to the width of its column, and two blanks stand
between columns.  Widths are counted in characters and lines are as long as they need to be: a table
that is laid out for a terminal would give wide characters two places and stop at its edge.
-/

namespace FieldResolution

/-! ## As a document -/

open Document

def Comparison.toDocument (c : Comparison) : Document :=
  record [("is_ignored", .bool c.isIgnored), ("nil_equals_zero_value", .bool c.nilEqualsZero)]

def Listing.toDocument (l : Listing) : Document :=
  record [("column_name", .text l.header), ("priority", .int l.priority),
    ("index", ofOption .int l.index)]

def Backoff.toDocument (b : Backoff) : Document :=
  record [("min_backoff_seconds", .int b.min), ("max_backoff_seconds", .int b.max)]

def ResolvedField.toDocument (f : ResolvedField) : Document :=
  record
    [("name", .text f.name), ("slot", .text f.slot.name), ("type", .text f.typeName),
      ("is_attribute_unpacked", .bool f.isUnpacked), ("is_primary_key", .bool f.isPrimaryKey),
      ("is_owner_account_id", .bool f.isOwnerAccountId), ("is_arn", .bool f.isArn),
      ("is_secret", .bool f.isSecret), ("is_immutable", .bool f.isImmutable),
      ("is_required", .bool f.isRequired), ("compare", f.comparison.toDocument),
      ("print", ofOption Listing.toDocument f.listing),
      ("late_initialize", ofOption Backoff.toDocument f.backoff),
      ("source_operation", ofOption .text f.sourceOperation),
      ("source_path", ofOption .text f.sourcePath),
      ("provenance", record (f.provenance.map fun e => (e.1, .text e.2.name)))]

def Column.toDocument (c : Column) : Document :=
  record [("field", .text c.field), ("header", .text c.header), ("type", .text c.typeName),
    ("priority", .int c.priority)]

def Diagnostic.toDocument (d : Diagnostic) : Document :=
  record [("severity", .text d.severity.name), ("code", .text d.code), ("field", .text d.field),
    ("message", .text d.message)]

def FieldSet.toDocument (s : FieldSet) : Document :=
  record [("resource", .text s.resource), ("fields", .list (s.fields.map (·.toDocument))),
    ("columns", .list (s.columns.map (·.toDocument))),
    ("diagnostics", .list (s.diagnostics.map (·.toDocument)))]

/-! ## As a table -/

namespace Table

/-- The longest cell of a column. -/
def width (rows : List (List String)) (column : Nat) : Nat :=
  rows.foldl (fun w row => max w ((row[column]?).getD "").length) 0

/-- A cell filled up with blanks. -/
def pad (w : Nat) (cell : String) : String :=
  cell ++ String.ofList (List.replicate (w - cell.length) ' ')

/-- The lines of a table. -/
def lines (rows : List (List String)) : List String :=
  rows.map fun row => "  ".intercalate (row.zipIdx.map fun e => pad (width rows e.2) e.1)

end Table

/-- The marks of a field that are set. -/
def ResolvedField.marks (f : ResolvedField) : List String :=
  ([("primary-key", f.isPrimaryKey), ("arn", f.isArn), ("owner-account-id", f.isOwnerAccountId),
      ("attribute", f.isUnpacked), ("secret", f.isSecret), ("immutable", f.isImmutable),
      ("required", f.isRequired), ("compare-ignored", f.comparison.isIgnored),
      ("nil-equals-zero", f.comparison.nilEqualsZero), ("late-init", f.backoff.isSome)].filter
    Prod.snd).map Prod.fst

/-- The row of a field. -/
def ResolvedField.row (f : ResolvedField) : List String :=
  [f.name, f.slot.name, f.typeName,
    if f.marks.isEmpty then "-" else ",".intercalate f.marks]

/-- The lines of the table of a result. -/
def FieldSet.table (s : FieldSet) : List String :=
  Table.lines (["FIELD", "SLOT", "TYPE", "FLAGS"] :: s.fields.map ResolvedField.row)

end FieldResolution
