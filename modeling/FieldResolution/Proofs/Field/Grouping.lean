import FieldResolution.Proofs.Field.Contribution

/-!
# The walk and its groups

`Model.Walks` tells the walk of a model by rules, stop by stop: operations in order, the input of
each before its output, members in order, and for a flattened member the members of its shape.  The
rules leave no choice (`walks_iff`).  Sorting the walk into groups loses no entry and files none
twice (`entries_group_perm`), and it keeps the order of the walk inside each group.  So the roster
is the walk, grouped by name, with the names that only the overrides know (`exists_walk_groups`).
-/

namespace FieldResolution

/-! ## The walk by its rules -/

/-- A member of the shape on one side of an operation. -/
structure Stop where
  operation : Operation
  role : Role
  member : Member

namespace Model

/-- The members on one side of an operation, in order. -/
def sideStops (m : Model) (o : Operation) (r : Role) : List Stop :=
  match m.operationShape? o r with
  | some s => s.members.map fun x => ⟨o, r, x⟩
  | none => []

/-- The members that a walk comes by, in order. -/
def stops (m : Model) : List Stop :=
  m.operations.flatMap fun o => m.sideStops o .input ++ m.sideStops o .output

/-- What a walk lists at a member: the member itself, or the members of its shape if it is
flattened. -/
inductive Lists (m : Model) (overrides : Overrides) (o : Operation) (r : Role) :
    Member → List (String × Occurrence) → Prop
  | whole {x : Member} (whole : ¬ x.Flattened overrides) :
      Lists m overrides o r x [(x.name, .ofMember o r x.name x)]
  | parts {p : Member} {i : Nat} (flattened : p.Flattened overrides) (type : p.type = .shape i) :
      Lists m overrides o r p
        ((m.membersAt i).map fun x =>
          (p.name ++ x.name, .ofMember o r (p.name ++ "." ++ x.name) x))

/-- What a walk lists at some stops, one after the other. -/
inductive Walks (m : Model) (overrides : Overrides) :
    List Stop → List (String × Occurrence) → Prop
  | done : Walks m overrides [] []
  | onward {stop : Stop} {rest : List Stop} {here later : List (String × Occurrence)}
      (listed : m.Lists overrides stop.operation stop.role stop.member here)
      (walked : Walks m overrides rest later) : Walks m overrides (stop :: rest) (here ++ later)

variable {m : Model} {overrides : Overrides}

theorem lists_iff {o : Operation} {r : Role} {x : Member} {here : List (String × Occurrence)} :
    m.Lists overrides o r x here ↔
      here = m.appearances ((flattening overrides).map Prod.fst) o r x := by
  constructor
  · rintro (whole | ⟨flattened, type⟩)
    · rw [appearances_of_whole whole]
    · rw [appearances_of_flattened flattened type]
  · rintro rfl
    by_cases flattened : x.Flattened overrides
    · obtain ⟨i, type⟩ := flattened.record
      rw [appearances_of_flattened flattened type]
      exact .parts flattened type
    · rw [appearances_of_whole flattened]
      exact .whole flattened

/-- Some stops can be walked in one way only. -/
theorem walks_iff {stops : List Stop} {walk : List (String × Occurrence)} :
    m.Walks overrides stops walk ↔
      walk = stops.flatMap fun stop =>
        m.appearances ((flattening overrides).map Prod.fst) stop.operation stop.role
          stop.member := by
  induction stops generalizing walk with
  | nil =>
    constructor
    · rintro ⟨⟩
      rfl
    · rintro rfl
      exact .done
  | cons stop rest ih =>
    rw [List.flatMap_cons]
    constructor
    · rintro (_ | ⟨listed, walked⟩)
      rw [lists_iff.1 listed, ih.1 walked]
    · rintro rfl
      exact .onward (lists_iff.2 rfl) (ih.2 rfl)

theorem walkSide_eq_flatMap_sideStops (flat : List String) (o : Operation) (r : Role) :
    m.walkSide flat o r =
      (m.sideStops o r).flatMap fun stop =>
        m.appearances flat stop.operation stop.role stop.member := by
  unfold walkSide sideStops
  cases m.operationShape? o r with
  | none => rfl
  | some s =>
    dsimp only
    rw [List.flatMap_map]

/-- The walk lists what stands at the stops. -/
theorem walk_eq_flatMap_stops (flat : List String) :
    m.walk flat =
      m.stops.flatMap fun stop => m.appearances flat stop.operation stop.role stop.member := by
  unfold walk stops
  rw [List.flatMap_assoc]
  refine List.flatMap_congr fun o _ => ?_
  rw [List.flatMap_append, walkSide_eq_flatMap_sideStops, walkSide_eq_flatMap_sideStops]

/-- By the rules there is one walk of a model. -/
theorem walks_stops_iff {walk : List (String × Occurrence)} :
    m.Walks overrides m.stops walk ↔ walk = Roster.walk m overrides := by
  rw [walks_iff, Roster.walk, walk_eq_flatMap_stops]

end Model

namespace Roster

/-! ## Grouping loses nothing -/

/-- The occurrences of some groups, each with the name of its group. -/
def entries (groups : List (String × List Occurrence)) : List (String × Occurrence) :=
  groups.flatMap fun g => g.2.map (Prod.mk g.1)

/-- Adding an occurrence files it once and keeps the others. -/
theorem entries_addTo_perm (groups : List (String × List Occurrence)) (e : String × Occurrence) :
    (entries (addTo groups e)).Perm (entries groups ++ [e]) := by
  induction groups with
  | nil => exact .refl _
  | cons g rest ih =>
    rw [addTo]
    split_ifs with own
    · have joined : entries ((g.1, g.2 ++ [e.2]) :: rest) =
          g.2.map (Prod.mk g.1) ++ ([e] ++ entries rest) := by
        simp [entries, own]
      have apart : entries (g :: rest) ++ [e] =
          g.2.map (Prod.mk g.1) ++ (entries rest ++ [e]) := by
        simp [entries]
      rw [joined, apart]
      exact List.perm_append_comm.append_left _
    · have kept : entries (g :: addTo rest e) =
          g.2.map (Prod.mk g.1) ++ entries (addTo rest e) := by
        simp [entries]
      have apart : entries (g :: rest) ++ [e] =
          g.2.map (Prod.mk g.1) ++ (entries rest ++ [e]) := by
        simp [entries]
      rw [kept, apart]
      exact ih.append_left _

/-- Grouping files every entry once. -/
theorem entries_group_perm (l : List (String × Occurrence)) : (entries (group l)).Perm l := by
  induction l using List.reverseRecOn with
  | nil => exact .refl _
  | append_singleton l e ih =>
    have step : group (l ++ [e]) = addTo (group l) e := by
      rw [group, List.foldl_append]
      rfl
    rw [step]
    exact (entries_addTo_perm _ _).trans (ih.append_right _)

/-- Names without an occurrence add no entry. -/
theorem entries_append_bare (groups : List (String × List Occurrence)) (o : Overrides) :
    entries (groups ++ o.map fun e => (e.1, [])) = entries groups := by
  simp [entries, List.flatMap_append, List.flatMap_map]

/-! ## The roster -/

/-- The overrides of names that do not appear in a walk. -/
def absent (o : Overrides) (walk : List (String × Occurrence)) : Overrides :=
  o.filter fun e => e.1 ∉ walk.map Prod.fst

/-- The roster is a walk, grouped by name: each name has the part of the walk that bears it; the
names stand in the order of their first appearance, and behind them those of overrides that are
typed on their own.  The other overrides of names that do not appear are unknown. -/
structure Groups (r : Roster) (o : Overrides) (walk : List (String × Occurrence)) : Prop where
  groups : r.groups =
    r.names.map fun n => (n, (walk.filter fun e => e.1 == n).map Prod.snd)
  names : r.names = (walk.map Prod.fst).eraseDups ++
    ((absent o walk).filter fun e =>
      e.2.redirect.isSome || e.2.isAttribute == some true).map Prod.fst
  unknown : r.unknown =
    ((absent o walk).filter fun e =>
      !(e.2.redirect.isSome || e.2.isAttribute == some true)).map Prod.fst
  complete : (entries r.groups).Perm walk

variable (m : Model) (o : Overrides)

theorem strangers_eq_absent : strangers m o = absent o (walk m o) := by
  unfold strangers absent
  refine List.filter_congr fun e _ => ?_
  rw [Bool.eq_iff_iff]
  simp

/-- There is one walk of a model by the rules, and the roster is that walk, grouped by name. -/
theorem exists_walk_groups :
    ∃ walk, (∀ w, m.Walks o m.stops w ↔ w = walk) ∧ (ofModel m o).Groups o walk := by
  refine ⟨walk m o, fun w => Model.walks_stops_iff, ?_, ?_, ?_, ?_⟩
  · rw [groups_eq_map_names]
    refine List.map_congr_left fun n _ => ?_
    rw [occurrences_ofModel]
    rfl
  · rw [names_ofModel, strangers_eq_absent]
    rfl
  · rw [unknown_ofModel, strangers_eq_absent]
    rfl
  · rw [groups_ofModel, entries_append_bare]
    exact entries_group_perm _

end Roster

end FieldResolution
