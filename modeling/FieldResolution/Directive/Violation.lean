import FieldResolution.Document.Literal

/-!
# Violations

What can be wrong with the directives of a document and where.  A reader of a part of a document
answers with a value of type `Checked`: the part it stands for, or every violation in it.  Two
checked parts are joined by `Checked.both`, which keeps the violations of both, so a reader of the
whole reports them all, in the order in which its parts are joined.
-/

namespace FieldResolution

/-- What can be wrong with a part of a document. -/
inductive Problem where
  | notRecord (model : String)
  | notDictionary
  | unknownKey
  | missing
  | notText
  | notIndexOrder
  | keyNotText
  | notBool
  | unreadableBool
  | notInt
  | fractionalInt
  | unreadableInt
  | oversizedInt
  | negativePriority
  | malformedPath (path : String)
  deriving DecidableEq, Repr

namespace Problem

def code : Problem → String
  | notRecord _ => "model_type"
  | notDictionary => "dict_type"
  | unknownKey => "extra_forbidden"
  | missing => "missing"
  | notText => "string_type"
  | notIndexOrder => "literal_error"
  | keyNotText => "invalid_key"
  | notBool => "bool_type"
  | unreadableBool => "bool_parsing"
  | notInt => "int_type"
  | fractionalInt => "int_from_float"
  | unreadableInt => "int_parsing"
  | oversizedInt => "int_parsing_size"
  | negativePriority => "value_error"
  | malformedPath _ => "value_error"

def message : Problem → String
  | notRecord model => "Input should be a valid dictionary or instance of " ++ model
  | notDictionary => "Input should be a valid dictionary"
  | unknownKey => "Extra inputs are not permitted"
  | missing => "Field required"
  | notText => "Input should be a valid string"
  | notIndexOrder => "Input should be 'index'"
  | keyNotText => "Keys should be strings"
  | notBool => "Input should be a valid boolean"
  | unreadableBool => "Input should be a valid boolean, unable to interpret input"
  | notInt => "Input should be a valid integer"
  | fractionalInt => "Input should be a valid integer, got a number with a fractional part"
  | unreadableInt => "Input should be a valid integer, unable to parse string as an integer"
  | oversizedInt => "Unable to parse input string as an integer, exceeded maximum size"
  | negativePriority => "Value error, priority must be >= 0"
  | malformedPath path =>
    "Value error, path must be dot-separated member names, got " ++ Text.quoted path

end Problem

/-- A step into a document. -/
inductive Step where
  | key (name : String)
  | index (value : Int)
  deriving DecidableEq, Repr

/-- The first integer that is too large for 64 bits. -/
def wordBound : Int := 0x8000000000000000

/-- Does an integer fit into 64 bits? -/
def isWordSized (n : Int) : Bool := -wordBound ≤ n && n < wordBound

/-- The step into the value of a key.  A truth value counts as a number; every other key, and a
number that needs more than 64 bits, is given by its text. -/
def Step.ofKey : Scalar → Step
  | .text s => .key s
  | .bool b => .index (if b then 1 else 0)
  | .int n => if isWordSized n then .index n else .key (toString n)
  | k => .key k.literal

/-- Something wrong at a place in a document. -/
structure Violation where
  location : List Step
  problem : Problem
  deriving DecidableEq, Repr

/-- The part that was read, or everything that is wrong with it. -/
inductive Checked (α : Type) where
  | accepted (value : α)
  | refused (violations : List Violation)
  deriving DecidableEq, Repr

namespace Checked

def map {α β : Type} (f : α → β) : Checked α → Checked β
  | accepted a => accepted (f a)
  | refused vs => refused vs

/-- Applies a checked function to a checked value and keeps what is wrong with either. -/
def both {α β : Type} : Checked (α → β) → Checked α → Checked β
  | accepted f, accepted a => accepted (f a)
  | accepted _, refused ws => refused ws
  | refused vs, accepted _ => refused vs
  | refused vs, refused ws => refused (vs ++ ws)

instance : Applicative Checked where
  pure := accepted
  seq f a := both f (a ())

/-- One thing wrong, here. -/
def refuse {α : Type} (p : Problem) : Checked α := refused [⟨[], p⟩]

/-- Checks an accepted value once more. -/
def andThen {α β : Type} (c : Checked α) (f : α → Checked β) : Checked β :=
  match c with
  | accepted a => f a
  | refused vs => refused vs

/-- A part that stands one step inside. -/
def inside {α : Type} (s : Step) : Checked α → Checked α
  | accepted a => accepted a
  | refused vs => refused (vs.map fun v => { v with location := s :: v.location })

/-- What is wrong with a part. -/
def violations {α : Type} : Checked α → List Violation
  | accepted _ => []
  | refused vs => vs

/-- The parts of a list, or everything that is wrong with any of them. -/
def all {α : Type} : List (Checked α) → Checked (List α)
  | [] => accepted []
  | c :: rest => both (c.map List.cons) (all rest)

end Checked

end FieldResolution
