import FieldResolution.Field.Type
import FieldResolution.Proofs.Model.Unfolding
import Mathlib.Data.List.Basic
import Mathlib.Data.List.Infix
import Mathlib.Data.List.Nodup

/-!
# Models with other operations, and longer models

A signature reads the members of the shapes that its type reaches (`signatureIn_eq_of_reaches`),
and a path the shapes that stand on its way (`follow_eq_of_shapes`).  So the operations of a model
do not matter to them, and neither do shapes and operations that are appended to a closed model
(`Extends`): there a type keeps its signature and its spelling, and a redirect that led to a member
leads to it still.
-/

namespace FieldResolution

/-- Where no key stands twice, an entry is found under its key. -/
theorem find?_key_of_mem {α : Type} {key : α → String} {l : List α} (distinct : (l.map key).Nodup)
    {a : α} (ha : a ∈ l) : (l.find? fun x => key x == key a) = some a := by
  have found : (l.find? fun x => key x == key a).isSome = true :=
    List.find?_isSome.2 ⟨a, ha, beq_self_eq_true _⟩
  obtain ⟨x, hx⟩ := Option.isSome_iff_exists.1 found
  have same : key x = key a := by simpa using List.find?_some hx
  rw [hx, List.inj_on_of_nodup_map distinct (List.mem_of_find?_eq_some hx) ha same]

namespace Model

variable {m m' : Model}

/-- Types have one signature in two models that agree on all shapes below them. -/
theorem signatureIn_eq_of_reaches (opened : List Nat) {t : MemberType}
    (same : ∀ i, m.Reaches t i → m'.membersAt i = m.membersAt i) :
    m'.signatureIn opened t = m.signatureIn opened t := by
  fun_induction m.signatureIn opened t with
  | case1 opened p => exact signatureIn_primitive _ _ _
  | case2 opened c element ih => rw [signatureIn_container, ih same]
  | case3 opened i hi => exact signatureIn_shape_of_mem hi
  | case4 opened i hi hnone =>
    have empty : m.membersAt i = [] := by simp [membersAt, hnone]
    rw [signatureIn_shape_of_not_mem hi, same i (reaches_shape i), empty, List.map_nil]
  | case5 opened i hi shape hsome ih =>
    have members : m.membersAt i = shape.members := by simp [membersAt, hsome]
    rw [signatureIn_shape_of_not_mem hi, same i (reaches_shape i), members]
    refine congrArg Signature.record (List.map_congr_left fun x hx => ?_)
    rw [← members] at hx
    refine congrArg (Prod.mk x.name) (ih x fun j hj => same j ?_)
    exact ⟨i, rfl, (hj.of_member hx).to_reflTransGen⟩

/-- A path leads from a shape to one member in two models that have the same shapes on its way. -/
theorem follow_eq_of_shapes {known : Shape → Prop}
    (same : ∀ s, known s → ∀ x ∈ s.members, m'.shapeUnder? x.type = m.shapeUnder? x.type)
    (below : ∀ s, known s → ∀ x ∈ s.members, ∀ inner, m.shapeUnder? x.type = some inner →
      known inner)
    {s : Shape} (hs : known s) (path : List String) : m'.follow s path = m.follow s path := by
  fun_induction m.follow s path with
  | case1 s => rfl
  | case2 s name => rfl
  | case3 s name next rest hnone => rw [follow, hnone]
  | case4 s name next rest via hvia hnone =>
    have under := same s hs via (List.mem_of_find?_eq_some hvia)
    rw [follow, hvia]
    simp only [under, hnone]
  | case5 s name next rest via hvia inner hinner ih =>
    have listed : via ∈ s.members := List.mem_of_find?_eq_some hvia
    have under := same s hs via listed
    rw [follow, hvia]
    simp only [under, hinner, ih (below s hs via listed inner hinner)]

/-! ## Other operations -/

/-- The shapes of a model under other operations. -/
def withOperations (m : Model) (operations : List Operation) : Model := { m with operations }

section Reordered

variable (m) (operations : List Operation)

theorem signature_withOperations (t : MemberType) :
    (m.withOperations operations).signature t = m.signature t :=
  signatureIn_eq_of_reaches [] fun _ _ => rfl

theorem locate_withOperations (o : Operation) (path : List String) :
    (m.withOperations operations).locate o path = m.locate o path := by
  have same (s : Shape) (_ : True) (x : Member) (_ : x ∈ s.members) :
      (m.withOperations operations).shapeUnder? x.type = m.shapeUnder? x.type := rfl
  have follow (s : Shape) : (m.withOperations operations).follow s path = m.follow s path :=
    follow_eq_of_shapes same (fun _ _ _ _ _ _ => trivial) trivial path
  unfold locate followFrom
  simp only [follow]
  rfl

variable {m operations} (distinct : (m.operations.map Operation.name).Nodup)
  (p : m.operations.Perm operations)

include distinct p

/-- No name stands for two operations, so their order does not matter to a look-up. -/
theorem operation?_withOperations (name : String) :
    (m.withOperations operations).operation? name = m.operation? name := by
  have distinct' : (operations.map Operation.name).Nodup := (p.map _).nodup_iff.1 distinct
  show operations.find? _ = m.operations.find? _
  cases h : m.operations.find? fun x => x.name == name with
  | none =>
    rw [List.find?_eq_none] at h ⊢
    exact fun o ho => h o (p.mem_iff.2 ho)
  | some o =>
    have named : o.name = name := by simpa using List.find?_some h
    rw [← named]
    exact find?_key_of_mem distinct' (p.mem_iff.1 (List.mem_of_find?_eq_some h))

theorem follows_withOperations (r : Redirect) :
    (m.withOperations operations).follows r = m.follows r := by
  unfold follows
  rw [operation?_withOperations distinct p]
  simp only [locate_withOperations]

end Reordered

/-! ## Closed models -/

theorem mem_shapes_of_operationShape? {o : Operation} {r : Role} {s : Shape}
    (hs : m.operationShape? o r = some s) : s ∈ m.shapes := by
  obtain ⟨i, -, hi⟩ := Option.bind_eq_some_iff.1 hs
  exact List.mem_of_getElem? hi

theorem mem_shapes_of_shapeUnder? {t : MemberType} {s : Shape} (hs : m.shapeUnder? t = some s) :
    s ∈ m.shapes := by
  obtain ⟨i, -, hi⟩ := Option.bind_eq_some_iff.1 hs
  exact List.mem_of_getElem? hi

/-- A position has members only if a shape stands there. -/
theorem exists_shape_of_mem_membersAt {i : Nat} {x : Member} (hx : x ∈ m.membersAt i) :
    ∃ s, m.shapes[i]? = some s ∧ x ∈ s.members := by
  unfold membersAt at hx
  cases hs : m.shapes[i]? with
  | none =>
    rw [hs] at hx
    cases hx
  | some s =>
    rw [hs] at hx
    exact ⟨s, rfl, hx⟩

theorem closedType_wrap {cs : List Container} {t : MemberType} (ht : m.ClosedType t) :
    m.ClosedType (MemberType.wrap cs t) := by
  intro i hi
  rw [MemberType.shape?, MemberType.core_wrap] at hi
  exact ht i hi

namespace Closed

variable (closed : m.Closed)

include closed

theorem closedType_of_mem_membersAt {i : Nat} {x : Member} (hx : x ∈ m.membersAt i) :
    m.ClosedType x.type := by
  obtain ⟨s, hs, member⟩ := exists_shape_of_mem_membersAt hx
  exact closed.1 s (List.mem_of_getElem? hs) x member

theorem lt_of_reaches {t : MemberType} (ht : m.ClosedType t) {i : Nat} (path : m.Reaches t i) :
    i < m.shapes.length := by
  obtain ⟨j, hj, path⟩ := path
  induction path with
  | refl => exact ht j hj
  | tail _ step _ =>
    obtain ⟨x, hx, hk⟩ := step
    exact closed.closedType_of_mem_membersAt hx _ hk

theorem closedType_of_follow {s : Shape} (hs : s ∈ m.shapes) {path : List String} {x : Member}
    (hx : m.follow s path = some x) : m.ClosedType x.type := by
  fun_induction m.follow s path generalizing x with
  | case1 s => cases hx
  | case2 s name => exact closed.1 s hs x (List.mem_of_find?_eq_some hx)
  | case3 s name next rest hnone => cases hx
  | case4 s name next rest via hvia hnone => cases hx
  | case5 s name next rest via hvia inner hinner ih =>
    obtain ⟨y, hy, rfl⟩ := Option.map_eq_some_iff.1 hx
    exact closedType_wrap (ih (mem_shapes_of_shapeUnder? hinner) hy)

theorem closedType_of_locate {o : Operation} {path : List String} {found : Role × Member}
    (hf : m.locate o path = some found) : m.ClosedType found.2.type := by
  have side : ∃ role, m.followFrom o path role = some found := by
    rcases Option.or_eq_some_iff.1 hf with out | ⟨-, inp⟩
    · exact ⟨_, out⟩
    · exact ⟨_, inp⟩
  obtain ⟨role, hrole⟩ := side
  obtain ⟨x, hx, rfl⟩ := Option.map_eq_some_iff.1 hrole
  obtain ⟨s, hs, path⟩ := Option.bind_eq_some_iff.1 hx
  exact closed.closedType_of_follow (mem_shapes_of_operationShape? hs) path

/-- A redirect leads to a member whose type is closed. -/
theorem closedType_of_follows {r : Redirect} {found : Role × Member}
    (hf : m.follows r = .ok found) : m.ClosedType found.2.type := by
  unfold follows at hf
  split at hf
  · cases hf
  · split at hf
    · cases hf
    · rename_i located
      cases hf
      exact closed.closedType_of_locate located

end Closed

/-! ## Longer models -/

/-- A model with further shapes and operations behind those of another. -/
structure Extends (m m' : Model) : Prop where
  shapes : m.shapes <+: m'.shapes
  operations : m.operations <+: m'.operations

namespace Extends

variable (h : Extends m m')

include h

theorem getElem?_shapes {i : Nat} (hi : i < m.shapes.length) : m'.shapes[i]? = m.shapes[i]? := by
  obtain ⟨rest, hrest⟩ := h.shapes
  rw [← hrest, List.getElem?_append_left hi]

theorem membersAt_eq {i : Nat} (hi : i < m.shapes.length) : m'.membersAt i = m.membersAt i := by
  unfold membersAt
  rw [h.getElem?_shapes hi]

theorem operation?_eq_some {name : String} {o : Operation} (ho : m.operation? name = some o) :
    m'.operation? name = some o := by
  obtain ⟨rest, hrest⟩ := h.operations
  unfold operation? at ho ⊢
  rw [← hrest, List.find?_append, ho]
  rfl

theorem spell_eq {t : MemberType} (ht : m.ClosedType t) : m'.spell t = m.spell t := by
  induction t with
  | primitive p => rfl
  | shape i =>
    have name : m'.shapeNames[i]? = m.shapeNames[i]? := by
      unfold shapeNames
      rw [List.getElem?_map, List.getElem?_map, h.getElem?_shapes (ht i rfl)]
    exact congrArg (Option.getD · "") name
  | container c element ih => exact congrArg (fun s => c.name ++ "<" ++ s ++ ">") (ih ht)

theorem shapeUnder?_eq {t : MemberType} (ht : m.ClosedType t) :
    m'.shapeUnder? t = m.shapeUnder? t := by
  unfold shapeUnder?
  cases hi : t.shape? with
  | none => rfl
  | some i => exact h.getElem?_shapes (ht i hi)

variable (closed : m.Closed)

include closed

theorem signature_eq {t : MemberType} (ht : m.ClosedType t) : m'.signature t = m.signature t :=
  signatureIn_eq_of_reaches [] fun _ path => h.membersAt_eq (closed.lt_of_reaches ht path)

theorem operationShape?_eq {o : Operation} (ho : o ∈ m.operations) (r : Role) :
    m'.operationShape? o r = m.operationShape? o r := by
  unfold operationShape?
  cases hi : o.shapeIndex? r with
  | none => rfl
  | some i => exact h.getElem?_shapes (closed.2 o ho r i hi)

theorem locate_eq {o : Operation} (ho : o ∈ m.operations) (path : List String) :
    m'.locate o path = m.locate o path := by
  have same (s : Shape) (hs : s ∈ m.shapes) (x : Member) (hx : x ∈ s.members) :
      m'.shapeUnder? x.type = m.shapeUnder? x.type := h.shapeUnder?_eq (closed.1 s hs x hx)
  have below (s : Shape) (_ : s ∈ m.shapes) (x : Member) (_ : x ∈ s.members) (inner : Shape)
      (hi : m.shapeUnder? x.type = some inner) : inner ∈ m.shapes := mem_shapes_of_shapeUnder? hi
  have from_side (r : Role) : m'.followFrom o path r = m.followFrom o path r := by
    unfold followFrom
    rw [h.operationShape?_eq closed ho]
    cases hs : m.operationShape? o r with
    | none => rfl
    | some s =>
      have known : s ∈ m.shapes := mem_shapes_of_operationShape? hs
      rw [Option.bind_some, Option.bind_some, follow_eq_of_shapes same below known]
  unfold locate
  rw [from_side, from_side]

/-- A redirect that leads to a member leads to it in every longer model. -/
theorem follows_eq_ok {r : Redirect} {found : Role × Member} (hf : m.follows r = .ok found) :
    m'.follows r = .ok found := by
  unfold follows at hf ⊢
  cases ho : m.operation? r.operation with
  | none =>
    rw [ho] at hf
    cases hf
  | some o =>
    rw [ho] at hf
    rw [h.operation?_eq_some ho]
    dsimp only at hf ⊢
    rw [h.locate_eq closed (List.mem_of_find?_eq_some ho)]
    exact hf

end Extends

end Model

end FieldResolution
