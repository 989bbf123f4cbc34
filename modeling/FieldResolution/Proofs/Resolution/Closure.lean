import FieldResolution.Proofs.Model.Lookup
import FieldResolution.Proofs.Resolution.Growth

/-!
# Nothing leaves a model that was read

A model that was read is closed, and so is every type that a resolution takes from it: the types of
the walk, those that a path reaches and those of the resolved fields.  So no signature, spelling,
path or walk looks for a shape that is not there (`Complete`).  All of this together is
`closed_complete_of_ofDocument`.
-/

namespace FieldResolution

namespace Model

/-! ## The walk -/

/-- The appearances of a member, the shape of a flattened one fetched. -/
def strictAppearances (m : Model) (flat : List String) (o : Operation) (r : Role) (x : Member) :
    Except Nat (List (String × Occurrence)) :=
  match x.type, flat.contains x.name with
  | .shape i, true =>
    (m.fetch i).map fun s => s.members.map fun y =>
      (x.name ++ y.name, .ofMember o r (x.name ++ "." ++ y.name) y)
  | _, _ => .ok [(x.name, .ofMember o r x.name x)]

/-- The appearances on one side of an operation, every shape fetched. -/
def strictWalkSide (m : Model) (flat : List String) (o : Operation) (r : Role) :
    Except Nat (List (String × Occurrence)) := do
  match ← m.strictOperationShape o r with
  | some s => (readAll (m.strictAppearances flat o r) s.members).map List.flatten
  | none => return []

/-- The appearances of all fields, every shape fetched. -/
def strictWalk (m : Model) (flat : List String) : Except Nat (List (String × Occurrence)) :=
  (readAll (fun o => do
    let input ← m.strictWalkSide flat o .input
    let output ← m.strictWalkSide flat o .output
    return input ++ output) m.operations).map List.flatten

variable {m : Model}

theorem strictAppearances_eq {flat : List String} {o : Operation} {r : Role} {x : Member}
    (hx : m.ClosedType x.type) :
    m.strictAppearances flat o r x = .ok (m.appearances flat o r x) := by
  unfold strictAppearances appearances
  cases ht : x.type with
  | shape i =>
    cases flat.contains x.name with
    | true =>
      obtain ⟨s, hs, fetched⟩ := exists_fetch (hx i (by rw [ht]; rfl))
      simp only [fetched, membersAt, hs]
      rfl
    | false => rfl
  | _ => rfl

namespace Closed

variable (closed : m.Closed)

include closed

theorem strictWalkSide_eq (flat : List String) {o : Operation} (ho : o ∈ m.operations) (r : Role) :
    m.strictWalkSide flat o r = .ok (m.walkSide flat o r) := by
  unfold strictWalkSide walkSide
  rw [closed.strictOperationShape_eq ho]
  cases hs : m.operationShape? o r with
  | none => rfl
  | some s =>
    have members : readAll (m.strictAppearances flat o r) s.members =
        .ok (s.members.map (m.appearances flat o r)) :=
      readAll_eq_ok_map fun x hx =>
        strictAppearances_eq (closed.1 s (mem_shapes_of_operationShape? hs) x hx)
    show (readAll _ s.members).map List.flatten = _
    rw [members]
    rfl

theorem strictWalk_eq (flat : List String) : m.strictWalk flat = .ok (m.walk flat) := by
  unfold strictWalk walk
  rw [readAll_eq_ok_map
    (f := fun o => m.walkSide flat o .input ++ m.walkSide flat o .output) fun o ho => ?_]
  · rfl
  · rw [closed.strictWalkSide_eq flat ho, closed.strictWalkSide_eq flat ho]
    rfl

end Closed

/-! ## Models that were read -/

/-- Every shape that is looked up is there. -/
structure Complete (m : Model) : Prop where
  signature : ∀ t, m.ClosedType t → m.strictSignature t = .ok (m.signature t)
  spell : ∀ t, m.ClosedType t → m.strictSpell t = .ok (m.spell t)
  locate : ∀ o ∈ m.operations, ∀ path, m.strictLocate o path = .ok (m.locate o path)
  walk : ∀ flat, m.strictWalk flat = .ok (m.walk flat)

theorem Closed.complete (closed : m.Closed) : m.Complete where
  signature _ ht := closed.strictSignature_eq ht
  spell _ ht := strictSpell_eq ht
  locate _ ho path := closed.strictLocate_eq ho path
  walk flat := closed.strictWalk_eq flat

theorem closedType_of_mem_groups (closed : m.Closed) {overrides : Overrides}
    {g : String × List Occurrence} (hg : g ∈ (Roster.ofModel m overrides).groups) :
    ∀ x ∈ g.2, m.ClosedType x.type := by
  rw [Roster.groups_eq_map_names] at hg
  obtain ⟨name, -, rfl⟩ := List.mem_map.1 hg
  intro x hx
  rw [Roster.occurrences_ofModel] at hx
  obtain ⟨e, he, rfl⟩ := List.mem_map.1 hx
  exact closedType_of_mem_walk closed (List.mem_filter.1 he).1

end Model

namespace Request

variable {q : Request}

theorem closedType_of_mem_fields (closed : q.model.Closed) {s : FieldSet} (h : q.resolve = .ok s)
    {f : ResolvedField} (hf : f ∈ s.fields) : q.model.ClosedType f.type :=
  Model.closedType_of_fieldType closed (closedType_of_mem_occurrences closed)
    (fieldType_of_mem_fields h hf)

end Request

/-- No position that a model holds or hands out leaves a model that was read: the positions in its
types and operations are those of shapes, and each shape is found at its own under a name that no
other has; the types of the walk, of every path and of the resolved fields are closed; and no
look-up on the way fails. -/
theorem closed_complete_of_ofDocument {d : Document} {m : Model} (h : Model.ofDocument d = .ok m) :
    m.Closed ∧
      (∀ i s, m.shapes[i]? = some s → m.positionOf? s.name = some i) ∧
      m.shapeNames.Nodup ∧ (m.operations.map Operation.name).Nodup ∧
      (∀ overrides, ∀ g ∈ (Roster.ofModel m overrides).groups, ∀ x ∈ g.2, m.ClosedType x.type) ∧
      (∀ o path role x, m.locate o path = some (role, x) → m.ClosedType x.type) ∧
      (∀ q : Request, q.model = m → ∀ s, q.resolve = .ok s → ∀ f ∈ s.fields,
        m.ClosedType f.type) ∧
      m.Complete := by
  have closed : m.Closed := Model.closed_of_ofDocument h
  refine ⟨closed, fun i s => Model.positionOf?_name h, Model.nodup_shapeNames h,
    Model.nodup_operations h, fun _ _ hg => Model.closedType_of_mem_groups closed hg,
    fun o path role x found => closed.closedType_of_locate found, ?_, closed.complete⟩
  rintro q rfl s resolved f hf
  exact Request.closedType_of_mem_fields closed resolved hf

/-- A shape that holds itself in a list, and another in a map before that is declared. -/
def folderDocument : Document :=
  .record
    [("shapes", .record
      [("Folder", .record
        [("members", .record
          [("Folders", .text "list<Folder>"), ("Owners", .text "map<list<User>>")])]),
        ("User", .record [("members", .record [("Name", .text "string")])])]),
      ("operations", .list
        [.record [("name", .text "GetFolder"), ("output", .text "Folder")],
          .record [("name", .text "CreateUser"), ("input", .text "User")]])]

def folder : Model :=
  { shapes :=
      [{ name := "Folder"
         members :=
          [{ name := "Folders", type := .container .list (.shape 0) },
            { name := "Owners", type := .container .map (.container .list (.shape 1)) }] },
        { name := "User", members := [{ name := "Name", type := .string }] }]
    operations :=
      [{ name := "GetFolder", output := some 0, kind := .readOne },
        { name := "CreateUser", input := some 1, kind := .create }] }

theorem closed_complete_of_ofDocument_folder :
    Model.ofDocument folderDocument = .ok folder ∧ folder.Closed ∧
      folder.positionOf? "User" = some 1 ∧
      (∀ s, ({ model := folder, resource := "Folder" } : Request).resolve = .ok s →
        ∀ f ∈ s.fields, folder.ClosedType f.type) ∧
      folder.Complete := by
  have read : Model.ofDocument folderDocument = .ok folder := by cbv
  obtain ⟨closed, positions, -, -, -, -, fields, complete⟩ := closed_complete_of_ofDocument read
  exact ⟨read, closed, positions 1 _ rfl, fields _ rfl, complete⟩

end FieldResolution
