import FieldResolution.Text.Segments

/-!
# Directives

What an author may say about the fields of a resource.  Every directive is optional; where one is
absent, the default rules decide.  Fields and resources keep the order in which they were written.
-/

namespace FieldResolution

/-- Takes the type of a field from a member of another operation. -/
structure Redirect where
  operation : String
  path : String
  deriving DecidableEq, Repr

/-- The member names of a redirect, from the outside in. -/
def Redirect.segments (r : Redirect) : List String := Text.segments r.path

/-- How two values of a field are compared. -/
structure CompareDirective where
  isIgnored : Bool := false
  nilEqualsZero : Bool := false
  deriving DecidableEq, Repr

/-- A listing column for a field.  Columns of positive priority are in the wide view only. -/
structure PrintDirective where
  name : Option String := none
  priority : Int := 0
  index : Option Int := none
  deriving DecidableEq, Repr

/-- Bounds, in seconds, for the retries of late initialization. -/
structure LateInitDirective where
  minBackoff : Int := 0
  maxBackoff : Int
  deriving DecidableEq, Repr

/-- The directives for one field. -/
structure FieldDirectives where
  isAttribute : Option Bool := none
  isReadOnly : Option Bool := none
  isRequired : Option Bool := none
  isPrimaryKey : Option Bool := none
  isOwnerAccountId : Option Bool := none
  isArn : Option Bool := none
  isSecret : Option Bool := none
  isImmutable : Option Bool := none
  isIgnored : Option Bool := none
  redirect : Option Redirect := none
  compare : Option CompareDirective := none
  print : Option PrintDirective := none
  lateInit : Option LateInitDirective := none
  deriving DecidableEq, Repr

/-- The directives that say yes or no. -/
inductive Switch where
  | isAttribute
  | isReadOnly
  | isRequired
  | isPrimaryKey
  | isOwnerAccountId
  | isArn
  | isSecret
  | isImmutable
  | isIgnored
  deriving DecidableEq, Repr

namespace Switch

def all : List Switch :=
  [isAttribute, isReadOnly, isRequired, isPrimaryKey, isOwnerAccountId, isArn, isSecret,
    isImmutable, isIgnored]

/-- The key under which a switch is written. -/
def key : Switch → String
  | isAttribute => "is_attribute"
  | isReadOnly => "is_read_only"
  | isRequired => "is_required"
  | isPrimaryKey => "is_primary_key"
  | isOwnerAccountId => "is_owner_account_id"
  | isArn => "is_arn"
  | isSecret => "is_secret"
  | isImmutable => "is_immutable"
  | isIgnored => "is_ignored"

def ofKey? (s : String) : Option Switch := all.find? fun w => w.key == s

theorem ofKey?_key (w : Switch) : ofKey? w.key = some w := by cases w <;> decide

end Switch

namespace FieldDirectives

/-- What the directives say about a switch, if anything. -/
def switch (d : FieldDirectives) : Switch → Option Bool
  | .isAttribute => d.isAttribute
  | .isReadOnly => d.isReadOnly
  | .isRequired => d.isRequired
  | .isPrimaryKey => d.isPrimaryKey
  | .isOwnerAccountId => d.isOwnerAccountId
  | .isArn => d.isArn
  | .isSecret => d.isSecret
  | .isImmutable => d.isImmutable
  | .isIgnored => d.isIgnored

/-- Do the directives switch something on? -/
def isOn (d : FieldDirectives) (w : Switch) : Bool := d.switch w == some true

end FieldDirectives

/-- A mark that at most one field of a resource carries: a switch, or a mark by its name alone, of
which no directive speaks. -/
inductive Flag where
  | switch (w : Switch)
  | named (name : String)
  deriving DecidableEq, Repr

namespace Flag

def key : Flag → String
  | switch w => w.key
  | named name => name

/-- The flag of a key: the switch that is written under it, if there is one. -/
def ofKey (s : String) : Flag :=
  match Switch.ofKey? s with
  | some w => switch w
  | none => named s

end Flag

/-- What the directives say about a flag, if anything. -/
def FieldDirectives.flag (d : FieldDirectives) : Flag → Option Bool
  | .switch w => d.switch w
  | .named _ => none

/-- The directives for the fields of a resource, by field name. -/
abbrev Overrides := List (String × FieldDirectives)

/-- What the overrides say of one field; of a field without an entry they say nothing. -/
def Overrides.get (o : Overrides) (name : String) : FieldDirectives := (o.lookup name).getD {}

/-- The order of the listing columns. -/
inductive ColumnOrder where
  | declaration
  | index
  deriving DecidableEq, Repr

/-- The directives for the listing of a resource. -/
structure ListingDirectives where
  order : ColumnOrder := .declaration
  addAgeColumn : Bool := true
  deriving DecidableEq, Repr

/-- The directives for one resource. -/
structure ResourceDirectives where
  fields : Overrides := []
  listing : ListingDirectives := {}
  deriving DecidableEq, Repr

/-- The directives for all resources, by resource name. -/
structure Configuration where
  resources : List (String × ResourceDirectives) := []
  deriving DecidableEq, Repr

/-- The directives for a resource; a resource that is not named has none. -/
def Configuration.resource (c : Configuration) (name : String) : ResourceDirectives :=
  (c.resources.lookup name).getD {}

end FieldResolution
