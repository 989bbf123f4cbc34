import FieldResolution.Model.Basic
import FieldResolution.Model.Signature
import FieldResolution.Model.Spelling
import Mathlib.Data.List.Basic

/-!
# Shapes at other positions

`Renaming σ m m'` says that `m'` is `m` with the shape at position `i` moved to `σ i`.  Positions
are only ever compared and looked up, so a type keeps its signature and its spelling where its
positions are renamed (`signatureIn_rename`, `spell_rename`), and a path reaches the same member
(`locate_rename`).
-/

namespace FieldResolution

/-! ## Renamed parts of a model -/

namespace MemberType

/-- The type with every shape at its new position. -/
def rename (σ : Nat → Nat) : MemberType → MemberType
  | .primitive p => .primitive p
  | .shape i => .shape (σ i)
  | .container c element => .container c (element.rename σ)

variable (σ : Nat → Nat)

@[simp] theorem layers_rename (t : MemberType) : (t.rename σ).layers = t.layers := by
  induction t with
  | container c element ih => exact congrArg (c :: ·) ih
  | _ => rfl

@[simp] theorem shape?_rename (t : MemberType) : (t.rename σ).shape? = t.shape?.map σ := by
  induction t with
  | container c element ih => exact ih
  | _ => rfl

@[simp] theorem rename_wrap (cs : List Container) (t : MemberType) :
    (wrap cs t).rename σ = wrap cs (t.rename σ) := by
  induction cs with
  | nil => rfl
  | cons c cs ih => exact congrArg (container c) ih

end MemberType

/-- The member with the shapes of its type at their new positions. -/
def Member.rename (σ : Nat → Nat) (x : Member) : Member := { x with type := x.type.rename σ }

/-- The shape with the shapes of its members at their new positions. -/
def Shape.rename (σ : Nat → Nat) (s : Shape) : Shape :=
  { s with members := s.members.map (Member.rename σ) }

/-- The operation with its shapes at their new positions. -/
def Operation.rename (σ : Nat → Nat) (o : Operation) : Operation :=
  { o with input := o.input.map σ, output := o.output.map σ }

section Parts

variable (σ : Nat → Nat)

@[simp] theorem Member.name_rename (x : Member) : (x.rename σ).name = x.name := rfl

@[simp] theorem Member.type_rename (x : Member) : (x.rename σ).type = x.type.rename σ := rfl

@[simp] theorem Operation.shapeIndex?_rename (o : Operation) (r : Role) :
    (o.rename σ).shapeIndex? r = (o.shapeIndex? r).map σ := by
  cases r <;> rfl

theorem Shape.member?_rename (s : Shape) (name : String) :
    (s.rename σ).member? name = (s.member? name).map (Member.rename σ) :=
  List.find?_map

end Parts

theorem idxOf_map_of_injective {σ : Nat → Nat} (h : Function.Injective σ) (i : Nat)
    (opened : List Nat) : (opened.map σ).idxOf (σ i) = opened.idxOf i := by
  induction opened with
  | nil => rfl
  | cons j opened ih =>
    rw [List.map_cons, List.idxOf_cons, List.idxOf_cons, ih]
    by_cases hj : j = i
    · simp [hj]
    · have apart : σ j ≠ σ i := fun heq => hj (h heq)
      rw [beq_false_of_ne hj, beq_false_of_ne apart]

namespace Model

/-- One model is another with every shape moved to its new position. -/
structure Renaming (σ : Nat → Nat) (m m' : Model) : Prop where
  injective : Function.Injective σ
  shapes : ∀ i, m'.shapes[σ i]? = m.shapes[i]?.map (Shape.rename σ)
  operations : m'.operations = m.operations.map (Operation.rename σ)

namespace Renaming

variable {σ : Nat → Nat} {m m' : Model} (h : Renaming σ m m')

include h

/-! ## Look-ups -/

theorem membersAt_rename (i : Nat) :
    m'.membersAt (σ i) = (m.membersAt i).map (Member.rename σ) := by
  unfold membersAt
  rw [h.shapes]
  cases m.shapes[i]? <;> rfl

theorem operation?_rename (name : String) :
    m'.operation? name = (m.operation? name).map (Operation.rename σ) := by
  unfold operation?
  rw [h.operations, List.find?_map]
  rfl

theorem operationShape?_rename (o : Operation) (r : Role) :
    m'.operationShape? (o.rename σ) r = (m.operationShape? o r).map (Shape.rename σ) := by
  unfold operationShape?
  rw [Operation.shapeIndex?_rename]
  cases o.shapeIndex? r with
  | none => rfl
  | some i => exact h.shapes i

theorem shapeUnder?_rename (t : MemberType) :
    m'.shapeUnder? (t.rename σ) = (m.shapeUnder? t).map (Shape.rename σ) := by
  unfold shapeUnder?
  rw [MemberType.shape?_rename]
  cases t.shape? with
  | none => rfl
  | some i => exact h.shapes i

/-! ## Spellings and signatures -/

theorem shapeNames_rename (i : Nat) : m'.shapeNames[σ i]? = m.shapeNames[i]? := by
  unfold shapeNames
  rw [List.getElem?_map, List.getElem?_map, h.shapes]
  cases m.shapes[i]? <;> rfl

theorem spell_rename (t : MemberType) : m'.spell (t.rename σ) = m.spell t := by
  induction t with
  | primitive p => rfl
  | shape i =>
    show (m'.shapeNames[σ i]?).getD "" = (m.shapeNames[i]?).getD ""
    rw [h.shapeNames_rename]
  | container c element ih => exact congrArg (fun s => c.name ++ "<" ++ s ++ ">") ih

/-- The positions on the stack are renamed along, so a reference counts the same shapes out. -/
theorem signatureIn_rename (opened : List Nat) (t : MemberType) :
    m'.signatureIn (opened.map σ) (t.rename σ) = m.signatureIn opened t := by
  fun_induction m.signatureIn opened t with
  | case1 opened p => exact signatureIn_primitive _ _ _
  | case2 opened c element ih => rw [MemberType.rename, signatureIn_container, ih]
  | case3 opened i hi =>
    have open' : σ i ∈ opened.map σ := List.mem_map_of_mem hi
    rw [MemberType.rename, signatureIn_shape_of_mem open', idxOf_map_of_injective h.injective]
  | case4 opened i hi hnone =>
    have closed : σ i ∉ opened.map σ := mt (List.mem_map_of_injective h.injective).1 hi
    have empty : m.membersAt i = [] := by simp [membersAt, hnone]
    rw [MemberType.rename, signatureIn_shape_of_not_mem closed, h.membersAt_rename, empty]
    rfl
  | case5 opened i hi shape hsome ih =>
    have closed : σ i ∉ opened.map σ := mt (List.mem_map_of_injective h.injective).1 hi
    have members : m.membersAt i = shape.members := by simp [membersAt, hsome]
    rw [MemberType.rename, signatureIn_shape_of_not_mem closed, h.membersAt_rename, members,
      List.map_map]
    refine congrArg Signature.record (List.map_congr_left fun x _ => ?_)
    exact congrArg (Prod.mk x.name) (ih x)

theorem alike_rename (a b : MemberType) :
    m'.alike (a.rename σ) (b.rename σ) = m.alike a b := by
  have whole (t : MemberType) : m'.signature (t.rename σ) = m.signature t :=
    h.signatureIn_rename [] t
  unfold alike
  rw [whole, whole]

/-! ## Paths -/

theorem follow_rename (s : Shape) (path : List String) :
    m'.follow (s.rename σ) path = (m.follow s path).map (Member.rename σ) := by
  fun_induction m.follow s path with
  | case1 s => rfl
  | case2 s name => exact s.member?_rename σ name
  | case3 s name next rest hnone =>
    rw [follow, Shape.member?_rename, hnone]
    rfl
  | case4 s name next rest via hvia hnone =>
    have under : m'.shapeUnder? (via.type.rename σ) = none := by
      rw [h.shapeUnder?_rename, hnone]
      rfl
    rw [follow, Shape.member?_rename, hvia]
    simp only [Option.map_some, Member.type_rename, under, Option.map_none]
  | case5 s name next rest via hvia inner hinner ih =>
    have under : m'.shapeUnder? (via.type.rename σ) = some (inner.rename σ) := by
      rw [h.shapeUnder?_rename, hinner]
      rfl
    rw [follow, Shape.member?_rename, hvia]
    simp only [Option.map_some, Member.type_rename, under, ih, MemberType.layers_rename,
      Option.map_map]
    refine Option.map_congr fun x _ => ?_
    simp [Member.rename]

theorem followFrom_rename (o : Operation) (path : List String) (r : Role) :
    m'.followFrom (o.rename σ) path r =
      (m.followFrom o path r).map (Prod.map id (Member.rename σ)) := by
  unfold followFrom
  rw [h.operationShape?_rename]
  cases m.operationShape? o r with
  | none => rfl
  | some s =>
    rw [Option.map_some, Option.bind_some, Option.bind_some, h.follow_rename, Option.map_map,
      Option.map_map]
    rfl

theorem locate_rename (o : Operation) (path : List String) :
    m'.locate (o.rename σ) path = (m.locate o path).map (Prod.map id (Member.rename σ)) := by
  unfold locate
  rw [h.followFrom_rename, h.followFrom_rename]
  cases m.followFrom o path .output <;> rfl

end Renaming

end Model

end FieldResolution
