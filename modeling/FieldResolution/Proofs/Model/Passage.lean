import FieldResolution.Model.Basic

/-!
# Passages

`Passage` says where a path leads, one rule for the last segment and one for those before it: such a
segment names a member that holds a shape under some containers, and the rest of the path leads on
from there.  `follow` finds the member at the end of the passage with the containers around its type
(`follow_eq_some_iff`); an operation is searched on its output and, if the path does not lead
through there, on its input (`locate_eq_some_iff`).
-/

namespace FieldResolution

theorem MemberType.exists_wrap_of_shape? {t : MemberType} {i : Nat} (h : t.shape? = some i) :
    t = wrap t.layers (.shape i) := by
  have core : t.core = .shape i := by
    unfold shape? at h
    split at h
    · rename_i j hj
      cases h
      exact hj
    · cases h
  rw [← core, wrap_layers_core]

namespace Model

variable (m : Model)

/-- The path leads from the shape to the member, across these containers, outermost first. -/
inductive Passage : Shape → List String → List Container → Member → Prop
  | last {s : Shape} {name : String} {x : Member} (found : s.member? name = some x) :
      Passage s [name] [] x
  | through {s inner : Shape} {name : String} {rest : List String} {via x : Member} {i : Nat}
      {cs crossed : List Container} (found : s.member? name = some via)
      (type : via.type = .wrap cs (.shape i)) (there : m.shapes[i]? = some inner)
      (onward : Passage inner rest crossed x) : Passage s (name :: rest) (cs ++ crossed) x

/-- The path leads from the shape on one side of an operation to the member. -/
def PassageFrom (o : Operation) (r : Role) (path : List String) (crossed : List Container)
    (x : Member) : Prop :=
  ∃ s, m.operationShape? o r = some s ∧ m.Passage s path crossed x

variable {m}

theorem follow_of_passage {s : Shape} {path : List String} {crossed : List Container} {x : Member}
    (h : m.Passage s path crossed x) :
    m.follow s path = some { x with type := .wrap crossed x.type } := by
  induction h with
  | last found => exact found
  | @through s inner name rest via x i cs crossed found type there onward ih =>
    have shape : m.shapeUnder? via.type = some inner := by
      rw [shapeUnder?, type, MemberType.shape?, MemberType.core_wrap]
      exact there
    have layers : via.type.layers = cs := by
      rw [type, MemberType.layers_wrap]
      exact List.append_nil cs
    cases rest with
    | nil => cases onward
    | cons next rest =>
      rw [follow, found]
      simp only [shape, ih, layers, Option.map_some, MemberType.wrap_append]

theorem follow_eq_some_iff {s : Shape} {path : List String} {y : Member} :
    m.follow s path = some y ↔
      ∃ crossed x, m.Passage s path crossed x ∧ y = { x with type := .wrap crossed x.type } := by
  constructor
  · intro h
    fun_induction m.follow s path generalizing y with
    | case1 => cases h
    | case2 s name => exact ⟨[], y, .last h, rfl⟩
    | case3 => cases h
    | case4 => cases h
    | case5 s name next rest via found inner shape ih =>
      obtain ⟨z, hz, rfl⟩ := Option.map_eq_some_iff.1 h
      obtain ⟨crossed, x, onward, rfl⟩ := ih hz
      obtain ⟨i, hi, there⟩ := Option.bind_eq_some_iff.1 shape
      refine ⟨via.type.layers ++ crossed, x, ?_, by rw [MemberType.wrap_append]⟩
      exact .through found (MemberType.exists_wrap_of_shape? hi) there onward
  · rintro ⟨crossed, x, passage, rfl⟩
    exact follow_of_passage passage

variable {o : Operation} {path : List String} {found : Role × Member}

theorem followFrom_eq_some_iff {r : Role} :
    m.followFrom o path r = some found ↔
      ∃ crossed x, m.PassageFrom o r path crossed x ∧
        found = (r, { x with type := .wrap crossed x.type }) := by
  unfold followFrom PassageFrom
  simp only [Option.map_eq_some_iff, Option.bind_eq_some_iff, follow_eq_some_iff]
  constructor
  · rintro ⟨_, ⟨s, hs, crossed, x, passage, rfl⟩, rfl⟩
    exact ⟨crossed, x, ⟨s, hs, passage⟩, rfl⟩
  · rintro ⟨crossed, x, ⟨s, hs, passage⟩, rfl⟩
    exact ⟨_, ⟨s, hs, crossed, x, passage, rfl⟩, rfl⟩

theorem followFrom_eq_none_iff {r : Role} :
    m.followFrom o path r = none ↔ ∀ crossed x, ¬ m.PassageFrom o r path crossed x := by
  constructor
  · intro none crossed x passage
    cases none.symm.trans (followFrom_eq_some_iff.2 ⟨crossed, x, passage, rfl⟩)
  · intro blocked
    cases h : m.followFrom o path r with
    | none => rfl
    | some found =>
      obtain ⟨crossed, x, passage, -⟩ := followFrom_eq_some_iff.1 h
      exact absurd passage (blocked crossed x)

/-- The input is searched only if the path does not lead through the output. -/
theorem locate_eq_some_iff :
    m.locate o path = some found ↔
      ∃ role crossed x, m.PassageFrom o role path crossed x ∧
        (role = .input → ∀ ds y, ¬ m.PassageFrom o .output path ds y) ∧
        found = (role, { x with type := .wrap crossed x.type }) := by
  unfold locate
  rw [Option.or_eq_some_iff, followFrom_eq_none_iff]
  constructor
  · rintro (output | ⟨blocked, input⟩)
    · obtain ⟨crossed, x, passage, rfl⟩ := followFrom_eq_some_iff.1 output
      exact ⟨.output, crossed, x, passage, nofun, rfl⟩
    · obtain ⟨crossed, x, passage, rfl⟩ := followFrom_eq_some_iff.1 input
      exact ⟨.input, crossed, x, passage, fun _ => blocked, rfl⟩
  · rintro ⟨role, crossed, x, passage, blocked, rfl⟩
    cases role with
    | output => exact .inl (followFrom_eq_some_iff.2 ⟨crossed, x, passage, rfl⟩)
    | input => exact .inr ⟨blocked rfl, followFrom_eq_some_iff.2 ⟨crossed, x, passage, rfl⟩⟩

end Model

end FieldResolution
