import FieldResolution.Field.Roster
import FieldResolution.Proofs.Field.Roster
import FieldResolution.Proofs.Model.Extension

/-!
# The walk

A member is flattened if an override reaches into it and none bears its name
(`mem_keys_flattening`); which override is the first to do so decides nothing.  The walk asks of
the flattened members only which they are (`walk_eq_of_parents`), so two tables of overrides that
flatten the same members walk the model alike.  In a closed model it meets closed types only
(`closedType_of_mem_walk`), and the walk of a longer model begins with it (`walk_prefix`).
-/

namespace FieldResolution

theorem mem_keys_firstPerKey {α : Type} {entries : List (String × α)} {key : String} :
    key ∈ (firstPerKey entries).map Prod.fst ↔ key ∈ entries.map Prod.fst := by
  induction entries with
  | nil => rfl
  | cons e rest ih =>
    rw [firstPerKey, List.map_cons, List.map_cons, List.mem_cons, List.mem_cons, ← ih]
    by_cases h : key = e.1
    · simp [h]
    · simp [h, List.mem_map, List.mem_filter]

/-- A member is flattened if some override reaches into it and none is its own. -/
theorem mem_keys_flattening {o : Overrides} {parent : String} :
    parent ∈ (flattening o).map Prod.fst ↔
      (∃ e ∈ o, e.2.entered? = some parent) ∧ parent ∉ o.map Prod.fst := by
  unfold flattening
  rw [mem_keys_firstPerKey, List.mem_map]
  constructor
  · rintro ⟨found, hfound, rfl⟩
    obtain ⟨e, he, h⟩ := List.mem_filterMap.1 hfound
    split at h
    · rename_i p hp
      split_ifs at h with own
      cases h
      refine ⟨⟨e, he, hp⟩, ?_⟩
      simpa using own
    · cases h
  · rintro ⟨⟨e, he, hp⟩, own⟩
    refine ⟨(parent, e.1), List.mem_filterMap.2 ⟨e, he, ?_⟩, rfl⟩
    have absent : (o.map Prod.fst).contains parent = false := by simpa using own
    rw [hp]
    simp only [absent]
    rfl

namespace Model

section SameMembers

variable (m : Model) {flat flat' : List String}

theorem appearances_eq_of_parents (h : ∀ p, p ∈ flat ↔ p ∈ flat') (o : Operation) (r : Role)
    (x : Member) : m.appearances flat o r x = m.appearances flat' o r x := by
  have same : flat.contains x.name = flat'.contains x.name := by
    rw [Bool.eq_iff_iff, List.contains_iff_mem, List.contains_iff_mem]
    exact h x.name
  unfold appearances
  rw [same]

theorem walk_eq_of_parents (h : ∀ p, p ∈ flat ↔ p ∈ flat') : m.walk flat = m.walk flat' := by
  have appearances (o : Operation) (r : Role) :
      m.appearances flat o r = m.appearances flat' o r :=
    funext (m.appearances_eq_of_parents h o r)
  unfold walk walkSide
  simp only [appearances]

end SameMembers

/-! ## Closed and longer models -/

variable {m m' : Model}

theorem closedType_of_mem_walk (closed : m.Closed) {flat : List String} {e : String × Occurrence}
    (he : e ∈ m.walk flat) : m.ClosedType e.2.type := by
  have side {o : Operation} {r : Role} (he : e ∈ m.walkSide flat o r) :
      m.ClosedType e.2.type := by
    unfold walkSide at he
    split at he
    · rename_i s hs
      obtain ⟨x, hx, he⟩ := List.mem_flatMap.1 he
      unfold appearances at he
      split at he
      · obtain ⟨y, hy, rfl⟩ := List.mem_map.1 he
        exact closed.closedType_of_mem_membersAt hy
      · obtain rfl := List.mem_singleton.1 he
        exact closed.1 s (mem_shapes_of_operationShape? hs) x hx
    · cases he
  obtain ⟨o, -, he⟩ := List.mem_flatMap.1 he
  rcases List.mem_append.1 he with input | output
  · exact side input
  · exact side output

namespace Extends

variable (h : m.Extends m') (closed : m.Closed) (flat : List String)

include h

theorem appearances_eq (o : Operation) (r : Role) {x : Member} (hx : m.ClosedType x.type) :
    m'.appearances flat o r x = m.appearances flat o r x := by
  unfold appearances
  cases hs : x.type with
  | shape i =>
    have inside : i < m.shapes.length := hx i (by rw [hs]; rfl)
    cases flat.contains x.name with
    | true =>
      dsimp only
      rw [h.membersAt_eq inside]
    | false => rfl
  | _ => rfl

include closed

theorem walkSide_eq {o : Operation} (ho : o ∈ m.operations) (r : Role) :
    m'.walkSide flat o r = m.walkSide flat o r := by
  unfold walkSide
  rw [h.operationShape?_eq closed ho]
  cases hs : m.operationShape? o r with
  | none => rfl
  | some s =>
    refine List.flatMap_congr fun x hx => ?_
    exact h.appearances_eq flat o r (closed.1 s (mem_shapes_of_operationShape? hs) x hx)

/-- The walk of a longer model begins with the walk of the shorter one. -/
theorem walk_prefix : m.walk flat <+: m'.walk flat := by
  obtain ⟨rest, hrest⟩ := h.operations
  have begun : (m.operations.flatMap fun o =>
        m'.walkSide flat o .input ++ m'.walkSide flat o .output) = m.walk flat := by
    refine List.flatMap_congr fun o ho => ?_
    rw [h.walkSide_eq closed flat ho, h.walkSide_eq closed flat ho]
  have split : m'.walk flat = m.walk flat ++ rest.flatMap fun o =>
        m'.walkSide flat o .input ++ m'.walkSide flat o .output := by
    unfold walk
    rw [← hrest, List.flatMap_append, begun]
    rfl
  rw [split]
  exact List.prefix_append _ _

end Extends

end Model

end FieldResolution
