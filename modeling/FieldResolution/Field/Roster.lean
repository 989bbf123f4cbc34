import FieldResolution.Field.Occurrence

/-!
# The roster of fields

`Roster.ofModel` groups the walk by field name.  The names stand in the order of their first
appearance, and each has its occurrences in the order of the walk.  Names that only the overrides
know come last, if they can be typed without an occurrence; the others are kept apart as unknown.
-/

namespace FieldResolution

/-- The fields of a resource with their occurrences. -/
structure Roster where
  groups : List (String × List Occurrence) := []
  flattened : List (String × String) := []
  unknown : List String := []
  deriving DecidableEq, Repr

namespace Roster

/-- Adds an occurrence to the group of its name, or a group at the end. -/
def addTo (groups : List (String × List Occurrence)) (e : String × Occurrence) :
    List (String × List Occurrence) :=
  match groups with
  | [] => [(e.1, [e.2])]
  | g :: rest => if g.1 = e.1 then (g.1, g.2 ++ [e.2]) :: rest else g :: addTo rest e

/-- The entries of a list, grouped by name. -/
def group (entries : List (String × Occurrence)) : List (String × List Occurrence) :=
  entries.foldl addTo []

/-- Can a field be typed without an occurrence? -/
def isSelfTyped (d : FieldDirectives) : Bool := d.redirect.isSome || d.isOn .isAttribute

/-- The fields of a model under some overrides. -/
def ofModel (m : Model) (overrides : Overrides) : Roster :=
  let flattened := flattening overrides
  let groups := group (m.walk (flattened.map Prod.fst))
  let extra := overrides.filter fun f => !(groups.map Prod.fst).contains f.1
  { groups := groups ++ (extra.filter fun f => isSelfTyped f.2).map fun f => (f.1, [])
    flattened
    unknown := (extra.filter fun f => !isSelfTyped f.2).map Prod.fst }

/-- The names of the fields. -/
def names (r : Roster) : List String := r.groups.map Prod.fst

/-- The occurrences of a field. -/
def occurrences (r : Roster) (name : String) : List Occurrence := (r.groups.lookup name).getD []

end Roster

end FieldResolution
