import FieldResolution.Directive.Basic
import FieldResolution.Document.Basic

/-!
# Directives as documents

The document of some directives, with every key written out: null where nothing is said, and the
default where one stands in.
-/

namespace FieldResolution

/-- A value that may be missing. -/
def Document.ofOption {α : Type} (write : α → Document) : Option α → Document
  | none => .null
  | some a => write a

open Document

def Redirect.toDocument (r : Redirect) : Document :=
  record [("operation", .text r.operation), ("path", .text r.path)]

def CompareDirective.toDocument (c : CompareDirective) : Document :=
  record [("is_ignored", .bool c.isIgnored), ("nil_equals_zero_value", .bool c.nilEqualsZero)]

def PrintDirective.toDocument (p : PrintDirective) : Document :=
  record [("name", ofOption .text p.name), ("priority", .int p.priority),
    ("index", ofOption .int p.index)]

def LateInitDirective.toDocument (l : LateInitDirective) : Document :=
  record [("min_backoff_seconds", .int l.minBackoff), ("max_backoff_seconds", .int l.maxBackoff)]

def FieldDirectives.toDocument (d : FieldDirectives) : Document :=
  record <|
    (Switch.all.map fun w => (w.key, ofOption .bool (d.switch w))) ++
      [("from", ofOption Redirect.toDocument d.redirect),
        ("compare", ofOption CompareDirective.toDocument d.compare),
        ("print", ofOption PrintDirective.toDocument d.print),
        ("late_initialize", ofOption LateInitDirective.toDocument d.lateInit)]

def ColumnOrder.toDocument : ColumnOrder → Document
  | .declaration => .null
  | .index => .text "index"

def ListingDirectives.toDocument (l : ListingDirectives) : Document :=
  record [("order_by", l.order.toDocument), ("add_age_column", .bool l.addAgeColumn)]

def ResourceDirectives.toDocument (r : ResourceDirectives) : Document :=
  record [("fields", record (r.fields.map fun f => (f.1, f.2.toDocument))),
    ("print", r.listing.toDocument)]

def Configuration.toDocument (c : Configuration) : Document :=
  record [("resources", record (c.resources.map fun r => (r.1, r.2.toDocument)))]

end FieldResolution
