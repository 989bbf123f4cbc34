import FieldResolution.Directive.Basic
import FieldResolution.Directive.Record
import FieldResolution.Directive.Value

/-!
# Directives from documents

Readers of the directives for a field, for a resource and for all resources.  Each key is read
where it is declared below, and every violation is reported.  The redirect of a field is written
under `from` or, where that key is absent, under `source`.
-/

namespace FieldResolution

open Checked

/-- A dotted path whose segments are all there. -/
def pathOfDocument (d : Document) : Checked String :=
  (text d).andThen fun path =>
    if (Text.segments path).contains "" then refuse (.malformedPath path) else accepted path

/-- A priority is never negative. -/
def priorityOfDocument (d : Document) : Checked Int :=
  (int d).andThen fun n => if n < 0 then refuse .negativePriority else accepted n

/-- The one order that can be asked for by name. -/
def columnOrderOfDocument : Document → Checked ColumnOrder
  | .scalar .null => accepted .declaration
  | .scalar (.text s) => if s = "index" then accepted .index else refuse .notIndexOrder
  | _ => refuse .notIndexOrder

namespace Redirect

def keys : List String := ["operation", "path"]

def ofDocument : Document → Checked Redirect :=
  record "SourceFieldConfig" (fun _ => keys) fun e =>
    Redirect.mk <$> required e "operation" text <*> required e "path" pathOfDocument

end Redirect

namespace CompareDirective

def keys : List String := ["is_ignored", "nil_equals_zero_value"]

def ofDocument : Document → Checked CompareDirective :=
  record "CompareFieldConfig" (fun _ => keys) fun e =>
    CompareDirective.mk <$> withDefault e "is_ignored" false bool
      <*> withDefault e "nil_equals_zero_value" false bool

end CompareDirective

namespace PrintDirective

def keys : List String := ["name", "priority", "index"]

def ofDocument : Document → Checked PrintDirective :=
  record "PrintFieldConfig" (fun _ => keys) fun e =>
    PrintDirective.mk <$> optional e "name" text <*> withDefault e "priority" 0 priorityOfDocument
      <*> optional e "index" int

end PrintDirective

namespace LateInitDirective

def keys : List String := ["min_backoff_seconds", "max_backoff_seconds"]

def ofDocument : Document → Checked LateInitDirective :=
  record "LateInitializeConfig" (fun _ => keys) fun e =>
    LateInitDirective.mk <$> withDefault e "min_backoff_seconds" 0 int
      <*> required e "max_backoff_seconds" int

end LateInitDirective

namespace FieldDirectives

/-- The key under which the redirect of a field is written. -/
def redirectKey (entries : List (Scalar × Document)) : String :=
  if (Document.lookup entries "from").isSome then "from" else "source"

def keys (entries : List (Scalar × Document)) : List String :=
  Switch.all.map Switch.key ++ [redirectKey entries, "compare", "print", "late_initialize"]

def ofDocument : Document → Checked FieldDirectives :=
  record "FieldConfig" keys fun e =>
    FieldDirectives.mk <$> optional e "is_attribute" bool <*> optional e "is_read_only" bool
      <*> optional e "is_required" bool <*> optional e "is_primary_key" bool
      <*> optional e "is_owner_account_id" bool <*> optional e "is_arn" bool
      <*> optional e "is_secret" bool <*> optional e "is_immutable" bool
      <*> optional e "is_ignored" bool <*> optional e (redirectKey e) Redirect.ofDocument
      <*> optional e "compare" CompareDirective.ofDocument
      <*> optional e "print" PrintDirective.ofDocument
      <*> optional e "late_initialize" LateInitDirective.ofDocument

end FieldDirectives

/-- The directives for the fields of a resource. -/
def Overrides.ofDocument : Document → Checked Overrides := dictionary FieldDirectives.ofDocument

namespace ListingDirectives

def keys : List String := ["order_by", "add_age_column"]

def ofDocument : Document → Checked ListingDirectives :=
  record "ResourcePrintConfig" (fun _ => keys) fun e =>
    ListingDirectives.mk <$> withDefault e "order_by" .declaration columnOrderOfDocument
      <*> withDefault e "add_age_column" true bool

end ListingDirectives

namespace ResourceDirectives

def keys : List String := ["fields", "print"]

def ofDocument : Document → Checked ResourceDirectives :=
  record "ResourceConfig" (fun _ => keys) fun e =>
    ResourceDirectives.mk <$> withDefault e "fields" [] Overrides.ofDocument
      <*> withDefault e "print" {} ListingDirectives.ofDocument

end ResourceDirectives

/-- Why a document holds no configuration. -/
inductive ConfigurationError where
  | notMapping
  | violations (vs : List Violation)

namespace Configuration

def keys : List String := ["resources"]

/-- The configuration of a document; null is the empty one. -/
def ofDocument (d : Document) : Except ConfigurationError Configuration :=
  match d with
  | .scalar .null => .ok {}
  | .mapping _ =>
    let read := record "GeneratorConfig" (fun _ => keys) fun e =>
      Configuration.mk <$> withDefault e "resources" [] (dictionary ResourceDirectives.ofDocument)
    match read d with
    | accepted c => .ok c
    | refused vs => .error (.violations vs)
  | _ => .error .notMapping

end Configuration

end FieldResolution
