import FieldResolution.Proofs.Resolution.SourcePath

/-!
# Records under the name of a flattened member

Where a member is flattened, the records of its name give way to their members, and what else bears
the name is kept (`mem_occurrences_of_topLevel_iff`).  The name may still come about a second way:
the members of a flattened record appear under its name joined with theirs, and they are not
flattened again.  So a record occurs under the name of a flattened member exactly if it is joined
to that name (`record_occurs_iff`).
-/

namespace FieldResolution

/-- The type of the occurrence is a shape, with no container around it. -/
def Occurrence.IsRecord (x : Occurrence) : Prop := ∃ i, x.type = .shape i

namespace Model

/-- In the shape of a flattened member stands a record, and the names of both make up the name. -/
def JoinsRecord (m : Model) (overrides : Overrides) (name : String) : Prop :=
  ∃ o ∈ m.operations, ∃ r s, m.operationShape? o r = some s ∧
    ∃ p ∈ s.members, p.Flattened overrides ∧ ∃ i, p.type = .shape i ∧
      ∃ x ∈ m.membersAt i, p.name ++ x.name = name ∧ ∃ j, x.type = .shape j

variable {m : Model} {overrides : Overrides} {name : String} {x : Occurrence}

/-- Of the members that bear the name of a flattened one, those that are no records are kept. -/
theorem mem_occurrences_of_topLevel_iff (entered : name ∈ (flattening overrides).map Prod.fst)
    (top : m.TopLevel name x) :
    x ∈ (Roster.ofModel m overrides).occurrences name ↔ ¬ x.IsRecord := by
  obtain ⟨o, ho, r, s, side, y, mem, rfl, rfl⟩ := top
  have flattened : y.Flattened overrides ↔ ∃ i, y.type = .shape i := by
    rw [Member.flattened_iff]
    exact and_iff_right entered
  constructor
  · intro occurs record
    exact notMem_occurrences_of_flattened (flattened.2 record) occurs
  · intro other
    exact mem_occurrences_of_whole ho side mem (mt flattened.1 other)

/-- A record of a flattened name stands inside a flattened member. -/
theorem standsInside_of_isRecord (entered : name ∈ (flattening overrides).map Prod.fst)
    (hx : x ∈ (Roster.ofModel m overrides).occurrences name) (record : x.IsRecord) :
    m.StandsInside overrides name x.path := by
  rcases occurrence_cases hx with ⟨top, -⟩ | inside
  · exact absurd record ((mem_occurrences_of_topLevel_iff entered top).1 hx)
  · exact inside

theorem exists_record_of_joinsRecord (h : m.JoinsRecord overrides name) :
    ∃ x ∈ (Roster.ofModel m overrides).occurrences name, x.IsRecord := by
  obtain ⟨o, ho, r, s, side, p, mem, flattened, i, type, y, inside, rfl, j, record⟩ := h
  have contributes := Contributes.part side mem flattened type inside
  exact ⟨_, mem_occurrences_iff.2 ⟨o, ho, r, _, y, contributes, rfl⟩, j, record⟩

theorem joinsRecord_of_isRecord (entered : name ∈ (flattening overrides).map Prod.fst)
    (hx : x ∈ (Roster.ofModel m overrides).occurrences name) (record : x.IsRecord) :
    m.JoinsRecord overrides name := by
  obtain ⟨o, ho, r, path, y, contributes, rfl⟩ := mem_occurrences_iff.1 hx
  cases contributes with
  | whole side mem whole =>
    exact absurd (Member.flattened_iff.2 ⟨entered, record⟩) whole
  | @part s p _ i side mem flattened type inside =>
    exact ⟨o, ho, r, s, side, p, mem, flattened, i, type, y, inside, rfl, record⟩

/-- No record that bears the name of a flattened member is kept, and every other member of the name
is.  A record occurs under the name exactly if it is joined to it: it stands in the shape of a
flattened member, and the names of both make up the name. -/
theorem record_occurs_iff (m : Model) (overrides : Overrides) (name : String)
    (entered : name ∈ (flattening overrides).map Prod.fst) :
    (∀ x, m.TopLevel name x →
      (x ∈ (Roster.ofModel m overrides).occurrences name ↔ ¬ x.IsRecord)) ∧
    (∀ x ∈ (Roster.ofModel m overrides).occurrences name, x.IsRecord →
      m.StandsInside overrides name x.path) ∧
    ((∃ x ∈ (Roster.ofModel m overrides).occurrences name, x.IsRecord) ↔
      m.JoinsRecord overrides name) := by
  refine ⟨fun x top => mem_occurrences_of_topLevel_iff entered top,
    fun x hx record => standsInside_of_isRecord entered hx record, ?_⟩
  constructor
  · rintro ⟨x, hx, record⟩
    exact joinsRecord_of_isRecord entered hx record
  · exact exists_record_of_joinsRecord

/-- A record `Sha` inside `Code`, and a member `CodeSha`, a record in one place and a string in
another. -/
def bundle : Model where
  shapes :=
    [{ name := "CreateInput", members := [⟨"Name", .string, true⟩, ⟨"Code", .shape 1, false⟩] },
      { name := "CodeChoice", members := [⟨"Uri", .string, false⟩, ⟨"Sha", .shape 2, false⟩] },
      { name := "Digest", members := [⟨"Kind", .string, false⟩, ⟨"Sum", .string, false⟩] },
      { name := "GetOutput", members := [⟨"Code", .shape 1, false⟩, ⟨"CodeSha", .shape 2, false⟩] },
      { name := "ListOutput", members := [⟨"CodeSha", .string, false⟩] }]
  operations :=
    [{ name := "CreateBundle", input := some 0, kind := .create },
      { name := "GetBundle", output := some 3, kind := .readOne },
      { name := "ListBundles", output := some 4, kind := .readMany }]

/-- Redirects lead into both `Code` and `CodeSha`. -/
def bundleOverrides : Overrides :=
  [("CodeUri", { redirect := some ⟨"GetBundle", "Code.Uri"⟩ }),
    ("Checksum", { redirect := some ⟨"GetBundle", "CodeSha.Sum"⟩ })]

theorem record_occurs_iff_bundle :
    "CodeSha" ∈ (flattening bundleOverrides).map Prod.fst ∧
      ((Roster.ofModel bundle bundleOverrides).occurrences "CodeSha").map
          (fun x => (x.operation, x.path, x.type)) =
        [("CreateBundle", "Code.Sha", .shape 2), ("GetBundle", "Code.Sha", .shape 2),
          ("ListBundles", "CodeSha", .string)] ∧
      bundle.JoinsRecord bundleOverrides "CodeSha" ∧
      ∀ x, bundle.TopLevel "CodeSha" x →
        (x ∈ (Roster.ofModel bundle bundleOverrides).occurrences "CodeSha" ↔ ¬ x.IsRecord) := by
  have entered : "CodeSha" ∈ (flattening bundleOverrides).map Prod.fst := by decide +kernel
  have listed : ((Roster.ofModel bundle bundleOverrides).occurrences "CodeSha").map
      (fun x => (x.operation, x.path, x.type)) =
        [("CreateBundle", "Code.Sha", .shape 2), ("GetBundle", "Code.Sha", .shape 2),
          ("ListBundles", "CodeSha", .string)] := by cbv
  obtain ⟨top, -, joined⟩ := record_occurs_iff bundle bundleOverrides "CodeSha" entered
  refine ⟨entered, listed, joined.1 ?_, top⟩
  have first := congrArg List.head? listed
  rw [List.head?_map, List.head?_cons, Option.map_eq_some_iff] at first
  obtain ⟨x, found, e⟩ := first
  exact ⟨x, List.mem_of_head? found, 2, congrArg (·.2.2) e⟩

end Model

namespace Request

/-- No operation gives the string. -/
def bundleRequest : Request where
  model := Model.bundle.withOperations (Model.bundle.operations.take 2)
  resource := "Bundle"
  directives := { fields := Model.bundleOverrides }

/-- A run may say of a member that it is flattened, and resolve its name to a record. -/
theorem flattened_resolved_as_record :
    "CodeSha" ∈ (flattening bundleRequest.overrides).map Prod.fst ∧
      (∃ x ∈ bundleRequest.roster.occurrences "CodeSha", x.IsRecord) ∧
      ∃ s, bundleRequest.resolve = .ok s ∧
        ∃ f ∈ s.fields, f.name = "CodeSha" ∧ ∃ i, f.type = .shape i := by
  have entered : "CodeSha" ∈ (flattening bundleRequest.overrides).map Prod.fst := by
    decide +kernel
  have types : (bundleRequest.roster.occurrences "CodeSha").map Occurrence.type =
      [.shape 2, .shape 2] := by cbv
  have accepted : bundleRequest.findings.errors = [] := by cbv
  have told : (bundleRequest.findings.fields.map fun f => (f.name, f.type)) =
      [("Name", .string), ("CodeUri", .string), ("CodeSha", .shape 2), ("CodeShaKind", .string),
        ("CodeShaSum", .string), ("Checksum", .string)] := by cbv
  obtain ⟨s, hs⟩ := bundleRequest.resolve_isOk_iff.2 accepted
  refine ⟨entered, ?_, s, hs, ?_⟩
  · have record : .shape 2 ∈ (bundleRequest.roster.occurrences "CodeSha").map Occurrence.type := by
      rw [types]
      exact List.mem_cons_self
    obtain ⟨x, hx, type⟩ := List.mem_map.1 record
    exact ⟨x, hx, 2, type⟩
  · have known : ("CodeSha", .shape 2) ∈ s.fields.map fun f => (f.name, f.type) := by
      rw [fields_eq_findings hs, told]
      decide
    obtain ⟨f, hf, e⟩ := List.mem_map.1 known
    obtain ⟨name, type⟩ := Prod.mk.inj e
    exact ⟨f, hf, name, 2, type⟩

end Request

end FieldResolution
