import FieldResolution.Model.Basic
import FieldResolution.Model.Error

/-!
# Declared models

`Model.ofDeclarations` builds a model from shapes and operations as they were declared.  Names are
declared once, and every shape that an operation names by position exists.  Shapes are looked at
first, then the operations in order, each for its name, its input and its output.
-/

namespace FieldResolution

/-- An operation whose positions have not been checked. -/
structure OperationDeclaration where
  name : String
  input : Option Int := none
  output : Option Int := none
  kind : OperationKind := .other
  deriving DecidableEq, Repr

/-- The first name that stands in a list a second time. -/
def firstRepeated? (seen : List String) : List String → Option String
  | [] => none
  | n :: rest => if n ∈ seen then some n else firstRepeated? (n :: seen) rest

theorem firstRepeated?_eq_none_iff {seen names : List String} :
    firstRepeated? seen names = none ↔ names.Nodup ∧ ∀ n ∈ names, n ∉ seen := by
  induction names generalizing seen with
  | nil => simp [firstRepeated?]
  | cons n rest ih =>
    simp only [firstRepeated?, List.nodup_cons, List.mem_cons, forall_eq_or_imp]
    split
    · rename_i h
      simp [h]
    · rename_i h
      rw [ih]
      simp only [List.mem_cons, not_or]
      constructor
      · rintro ⟨hr, hs⟩
        exact ⟨⟨fun hn => (hs n hn).1 rfl, hr⟩, h, fun x hx => (hs x hx).2⟩
      · rintro ⟨⟨hn, hr⟩, -, hs⟩
        exact ⟨hr, fun x hx => ⟨fun e => hn (e ▸ hx), hs x hx⟩⟩

/-- A position that lies in a model of the given size. -/
def checkedIndex (size : Nat) (operation : String) :
    Option Int → Except ModelError (Option Nat)
  | none => .ok none
  | some i =>
    if 0 ≤ i ∧ i < size then .ok (some i.toNat) else .error (.indexOutOfRange operation i)

namespace OperationDeclaration

/-- The operation, if its positions lie in a model of the given size. -/
def check (size : Nat) (d : OperationDeclaration) : Except ModelError Operation := do
  let input ← checkedIndex size d.name d.input
  let output ← checkedIndex size d.name d.output
  return { name := d.name, input, output, kind := d.kind }

/-- The operations, if their positions lie in a model of the given size and no name repeats. -/
def checkAll (size : Nat) (seen : List String) :
    List OperationDeclaration → Except ModelError (List Operation)
  | [] => .ok []
  | d :: rest =>
    if d.name ∈ seen then .error (.duplicateOperation d.name)
    else do
      let o ← d.check size
      let others ← checkAll size (d.name :: seen) rest
      return o :: others

end OperationDeclaration

/-- Shapes and operations as they were declared. -/
structure Declarations where
  shapes : List Shape
  operations : List OperationDeclaration

/-- The model of some declarations. -/
def Model.ofDeclarations (d : Declarations) : Except ModelError Model :=
  match firstRepeated? [] (d.shapes.map Shape.name) with
  | some name => .error (.duplicateShape name)
  | none => do
    let operations ← OperationDeclaration.checkAll d.shapes.length [] d.operations
    return { shapes := d.shapes, operations }

end FieldResolution
