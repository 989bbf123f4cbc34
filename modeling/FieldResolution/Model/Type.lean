/-!
# Member types

The type of a member is a primitive, a shape of the model given by its position, or a list or map
of another type.  Eight primitives can be spelled; a primitive with another name stands only in a
model that is put together from its parts.  `layers` and `core` take a type apart: the containers
around it, outermost first, and what they hold; `wrap` puts it together again
(`wrap_layers_core`).
-/

namespace FieldResolution

/-- The types without parts. -/
inductive Primitive where
  | string
  | integer
  | long
  | float
  | double
  | boolean
  | timestamp
  | blob
  | custom (name : String)
  deriving DecidableEq, Repr

namespace Primitive

/-- The primitives that can be spelled. -/
def all : List Primitive := [string, integer, long, float, double, boolean, timestamp, blob]

def name : Primitive → String
  | string => "string"
  | integer => "integer"
  | long => "long"
  | float => "float"
  | double => "double"
  | boolean => "boolean"
  | timestamp => "timestamp"
  | blob => "blob"
  | custom name => name

/-- The primitive that a name spells. -/
def ofName? (s : String) : Option Primitive := all.find? fun p => p.name == s

/-- The primitive of a name. -/
def ofName (s : String) : Primitive := (ofName? s).getD (custom s)

theorem ofName?_name : ∀ p ∈ all, ofName? p.name = some p := by decide

end Primitive

/-- The types around one element type. -/
inductive Container where
  | list
  | map
  deriving DecidableEq, Repr

namespace Container

def name : Container → String
  | list => "list"
  | map => "map"

end Container

/-- The type of a member. -/
inductive MemberType where
  | primitive (p : Primitive)
  | shape (index : Nat)
  | container (c : Container) (element : MemberType)
  deriving DecidableEq, Repr, Inhabited

namespace MemberType

abbrev string : MemberType := .primitive .string

/-- The containers around a type, outermost first. -/
def layers : MemberType → List Container
  | .container c element => c :: element.layers
  | _ => []

/-- What a type holds under all its containers. -/
def core : MemberType → MemberType
  | .container _ element => element.core
  | t => t

/-- A type inside containers, the first one outermost. -/
def wrap (cs : List Container) (t : MemberType) : MemberType := cs.foldr .container t

/-- The shape that a type holds under all its containers. -/
def shape? (t : MemberType) : Option Nat :=
  match t.core with
  | .shape i => some i
  | _ => none

@[simp] theorem wrap_nil (t : MemberType) : wrap [] t = t := rfl

@[simp] theorem wrap_cons (c : Container) (cs : List Container) (t : MemberType) :
    wrap (c :: cs) t = .container c (wrap cs t) := rfl

theorem wrap_append (cs ds : List Container) (t : MemberType) :
    wrap (cs ++ ds) t = wrap cs (wrap ds t) := by simp [wrap]

theorem wrap_layers_core (t : MemberType) : wrap t.layers t.core = t := by
  induction t with
  | container c element ih => simp [layers, core, ih]
  | _ => rfl

theorem layers_wrap (cs : List Container) (t : MemberType) :
    (wrap cs t).layers = cs ++ t.layers := by
  induction cs with
  | nil => rfl
  | cons c cs ih => simp [layers, ih]

theorem core_wrap (cs : List Container) (t : MemberType) : (wrap cs t).core = t.core := by
  induction cs with
  | nil => rfl
  | cons c cs ih => simpa [core] using ih

end MemberType

end FieldResolution
