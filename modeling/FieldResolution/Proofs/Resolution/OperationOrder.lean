import FieldResolution.Proofs.Model.Extension
import FieldResolution.Proofs.Model.Loaded
import FieldResolution.Proofs.Model.Structures
import FieldResolution.Proofs.Resolution.Alignment

/-!
# The order of the operations

The order of the operations puts the walk in its order, and so decides the places of the names,
which occurrence of a name is the first, and which name is the first to match a flag.  The verdicts
on a name ask which occurrences there are, never in which order (`settle_of_perm`): two orders are
refused for faults of the same kinds (`aligned_withOperations`), and the fields they give differ in
what the first occurrence or the first match decides (`field?_withOperations`).
-/

namespace FieldResolution

section Occurrences

variable {occurrences occurrences' : List Occurrence} (p : occurrences.Perm occurrences')

include p

theorem impliedSlot_of_perm : impliedSlot occurrences' = impliedSlot occurrences := by
  unfold impliedSlot
  rw [p.any_eq, p.any_eq]

theorem decideSlot_of_perm (d : FieldDirectives) :
    decideSlot occurrences' d = decideSlot occurrences d := by
  unfold decideSlot directedSlot? isKept keptSlot
  rw [impliedSlot_of_perm p, p.any_eq, p.isEmpty_eq]

theorem decideRequired_of_perm (d : FieldDirectives) (slot : Slot) :
    decideRequired occurrences' d slot = decideRequired occurrences d slot := by
  unfold decideRequired impliedRequired
  rw [p.any_eq]

end Occurrences

namespace Model

variable {m m' : Model} {occurrences occurrences' : List Occurrence}

/-- Two answers for a type: both are types, of one structure, or both are faults, of one kind. -/
structure TypedAlike (m : Model) (x y : Except FieldFault MemberType) : Prop where
  isOk_iff : (∃ t, x = .ok t) ↔ ∃ t, y = .ok t
  signature : ∀ t t', x = .ok t → y = .ok t' → m.signature t' = m.signature t
  kind : ∀ e e', x = .error e → y = .error e' → e.kind = e'.kind

theorem TypedAlike.refl (m : Model) (x : Except FieldFault MemberType) : m.TypedAlike x x where
  isOk_iff := Iff.rfl
  signature _ _ h h' := by
    rw [Except.ok.inj (h.symm.trans h')]
  kind _ _ h h' := by
    rw [Except.error.inj (h.symm.trans h')]

section SameTypes

variable (signatures : ∀ t, m'.signature t = m.signature t)
  (p : occurrences.Perm occurrences')

include signatures p

theorem agree_iff_of_perm : m'.Agree occurrences' ↔ m.Agree occurrences := by
  unfold Agree
  simp only [signatures, p.mem_iff]

theorem commonType_of_perm :
    m.TypedAlike (m.commonType occurrences) (m'.commonType occurrences') where
  isOk_iff := by
    rw [commonType_isOk_iff, commonType_isOk_iff, agree_iff_of_perm signatures p, ne_eq, ne_eq,
      ← List.isEmpty_iff, ← List.isEmpty_iff, p.isEmpty_eq]
  signature t t' ht ht' := by
    have agree : m.Agree occurrences := (commonType_eq_ok_iff.1 ht).1
    obtain ⟨o, rest, rfl, rfl⟩ := exists_first_of_commonType ht
    obtain ⟨o', rest', rfl, rfl⟩ := exists_first_of_commonType ht'
    exact agree o' (p.mem_iff.2 List.mem_cons_self) o List.mem_cons_self
  kind e e' he he' := by
    have empty : occurrences = [] ↔ occurrences' = [] := by
      rw [← List.isEmpty_iff, ← List.isEmpty_iff, p.isEmpty_eq]
    obtain ⟨none, rfl⟩ | ⟨occurs, -, readings, rfl⟩ := commonType_eq_error he
    · obtain ⟨-, rfl⟩ | ⟨occurs', -⟩ := commonType_eq_error he'
      · rfl
      · exact absurd (empty.1 none) occurs'
    · obtain ⟨none', -⟩ | ⟨-, -, readings', rfl⟩ := commonType_eq_error he'
      · exact absurd (empty.2 none') occurs
      · rfl

theorem fieldType_of_perm (follows : ∀ r, m'.follows r = m.follows r) (d : FieldDirectives) :
    m.TypedAlike (m.fieldType occurrences d) (m'.fieldType occurrences' d) := by
  unfold fieldType
  cases d.redirect with
  | some r =>
    simp only [follows]
    exact .refl m _
  | none =>
    dsimp only
    split_ifs
    · exact .refl m _
    · exact commonType_of_perm signatures p

end SameTypes

end Model

namespace FieldCase

variable {c : FieldCase} {m m' : Model} {occurrences : List Occurrence} {place : Nat}
  (p : c.occurrences.Perm occurrences)
  (typed : m.TypedAlike (m.fieldType c.occurrences c.directives)
    (m'.fieldType occurrences c.directives))

include p typed

theorem kind_fault?_of_perm :
    (FieldCase.fault? { c with position := place, occurrences } m').map FieldFault.kind =
      (c.fault? m).map FieldFault.kind := by
  have slot : FieldCase.slot { c with position := place, occurrences } = c.slot :=
    decideSlot_of_perm p c.directives
  have type := map_refusal?_eq typed.isOk_iff typed.kind
  unfold fault?
  rw [slot]
  simp only [Option.map_or, type]

/-- Another order of the occurrences is another type of the same structure, or another path. -/
theorem settle_of_perm {g g' : ResolvedField} (hg : c.settle m = .ok g)
    (hg' : FieldCase.settle { c with position := place, occurrences } m' = .ok g') :
    g' = { g with
        type := g'.type, typeName := g'.typeName, sourcePath := g'.sourcePath
        position := g'.position } ∧
      m.signature g'.type = m.signature g.type := by
  have slot : FieldCase.slot { c with position := place, occurrences } = c.slot :=
    decideSlot_of_perm p c.directives
  have required : FieldCase.required { c with position := place, occurrences } = c.required := by
    unfold FieldCase.required
    rw [slot]
    exact decideRequired_of_perm p c.directives c.slot.value
  obtain ⟨type, comparison, listing, backoff, hType, -, hCompare, hList, hBackoff, rfl⟩ :=
    settle_eq_ok_iff.1 hg
  obtain ⟨type', comparison', listing', backoff', hType', -, hCompare', hList', hBackoff', rfl⟩ :=
    settle_eq_ok_iff.1 hg'
  rw [slot] at hCompare' hList' hBackoff'
  cases hCompare.symm.trans hCompare'
  cases hList.symm.trans hList'
  cases hBackoff.symm.trans hBackoff'
  have same := typed.signature type type' hType hType'
  unfold finish
  dsimp only
  split_ifs
  · refine ⟨?_, rfl⟩
    simp only [build, slot, required, ResolvedField.unpack]
  · refine ⟨?_, same⟩
    simp only [build, slot, required]

end FieldCase

/-- Two fields of a model that differ at most in what the first occurrence of a name decides, their
types being of one structure, in their place, and in the flags that no override decides. -/
structure ResolvedField.SameUpToWalk (m : Model) (f f' : ResolvedField) : Prop where
  fields : f' = { f with
    type := f'.type, typeName := f'.typeName, sourcePath := f'.sourcePath
    position := f'.position, isPrimaryKey := f'.isPrimaryKey, isArn := f'.isArn }
  signature : m.signature f'.type = m.signature f.type
  explicit : f.SameExplicitFlags f'

namespace Request

variable {q : Request} {operations : List Operation}

/-- The request with other operations over the same shapes. -/
def withOperations (q : Request) (operations : List Operation) : Request :=
  { q with model := q.model.withOperations operations }

section SameOperations

variable (p : q.model.operations.Perm operations)

include p

theorem walk_withOperations :
    (Roster.walk q.model q.overrides).Perm
      (Roster.walk (q.model.withOperations operations) q.overrides) := by
  unfold Roster.walk Model.walk
  exact p.flatMap_right _

theorem occurrences_withOperations (name : String) :
    (q.roster.occurrences name).Perm ((q.withOperations operations).roster.occurrences name) := by
  show ((Roster.ofModel q.model q.overrides).occurrences name).Perm
    ((Roster.ofModel (q.model.withOperations operations) q.overrides).occurrences name)
  rw [Roster.occurrences_ofModel, Roster.occurrences_ofModel]
  exact ((walk_withOperations p).filter _).map _

theorem names_withOperations :
    q.roster.names.Perm (q.withOperations operations).roster.names := by
  have keys := (walk_withOperations (q := q) p).map Prod.fst
  have walked : (Roster.walkNames q.model q.overrides).Perm
      (Roster.walkNames (q.model.withOperations operations) q.overrides) := by
    refine (List.perm_ext_iff_of_nodup (nodup_eraseDups _) (nodup_eraseDups _)).2 fun name => ?_
    rw [List.mem_eraseDups, List.mem_eraseDups, keys.mem_iff]
  have strangers : Roster.strangers (q.model.withOperations operations) q.overrides =
      Roster.strangers q.model q.overrides := by
    unfold Roster.strangers
    simp only [keys.contains_eq]
  show (Roster.ofModel q.model q.overrides).names.Perm
    (Roster.ofModel (q.model.withOperations operations) q.overrides).names
  rw [Roster.names_ofModel, Roster.names_ofModel, strangers]
  exact walked.append_right _

variable (distinct : (q.model.operations.map Operation.name).Nodup)

include distinct

theorem typedAlike_withOperations (name : String) (d : FieldDirectives) :
    q.model.TypedAlike (q.model.fieldType (q.roster.occurrences name) d)
      ((q.model.withOperations operations).fieldType
        ((q.withOperations operations).roster.occurrences name) d) :=
  Model.fieldType_of_perm (q.model.signature_withOperations operations)
    (occurrences_withOperations p name) (Model.follows_withOperations distinct p) d

theorem aligned_withOperations : Aligned q (q.withOperations operations) where
  names := names_withOperations p
  unknown := by
    unfold unknownErrors
    simp only [← (occurrences_withOperations p _).isEmpty_eq]
    exact .refl _
  directives _ := rfl
  kinds name :=
    FieldCase.kind_fault?_of_perm (c := q.caseAt (name, q.roster.names.idxOf name))
      (occurrences_withOperations p name) (typedAlike_withOperations p distinct name _)

theorem field?_withOperations {s s' : FieldSet} (hs : q.resolve = .ok s)
    (hs' : (q.withOperations operations).resolve = .ok s') {name : String} {f : ResolvedField}
    (found : s.field? name = some f) :
    ∃ f', s'.field? name = some f' ∧ f.SameUpToWalk q.model f' := by
  have aligned := aligned_withOperations p distinct
  obtain ⟨g, g', settled, settled', rfl, answer, explicit⟩ :=
    aligned.exists_settled_of_field? hs hs' found
  obtain ⟨moved, same⟩ := FieldCase.settle_of_perm
    (c := q.caseAt (name, q.roster.names.idxOf name)) (occurrences_withOperations p name)
    (typedAlike_withOperations p distinct name _) settled settled'
  refine ⟨_, answer, ?_, same, explicit⟩
  rw [aligned.flagged_eq, moved]
  rfl

end SameOperations

/-- The operations of a model that was read may stand in any order: the names are refused for faults
of the same kinds and the same flags are in conflict, or all names have the same fields up to what
the first occurrence and the first match decide. -/
theorem resolve_withOperations_of_perm (q : Request) {d : Document}
    (loaded : Model.ofDocument d = .ok q.model) {operations : List Operation}
    (p : q.model.operations.Perm operations) :
    ((∃ s, q.resolve = .ok s) ↔ ∃ s, (q.withOperations operations).resolve = .ok s) ∧
      (∀ s s', q.resolve = .ok s → (q.withOperations operations).resolve = .ok s' →
        (s.fields.map ResolvedField.name).Perm (s'.fields.map ResolvedField.name) ∧
          ∀ name f, s.field? name = some f →
            ∃ f', s'.field? name = some f' ∧ f.SameUpToWalk q.model f') ∧
      (((reportedErrors q.resolve).filter fun e => e.flag?.isNone).map fun e =>
          (e.code, e.field)).Perm
        (((reportedErrors (q.withOperations operations).resolve).filter fun e =>
          e.flag?.isNone).map fun e => (e.code, e.field)) ∧
      (reportedErrors (q.withOperations operations).resolve).filterMap FieldError.flag? =
        (reportedErrors q.resolve).filterMap FieldError.flag? := by
  have distinct := Model.nodup_operations loaded
  have aligned := aligned_withOperations p distinct
  refine ⟨aligned.resolve_isOk_iff, fun s s' hs hs' => ⟨aligned.map_name_perm hs hs', ?_⟩,
    aligned.flagless_perm, aligned.filterMap_flag?_eq⟩
  intro name f found
  exact field?_withOperations p distinct hs hs' found

def imageDocument : Document :=
  .record
    [("shapes", .mapping
        [Model.shapeEntry "CreateInput" [("Name", "string"), ("Source", "Origin")],
          Model.shapeEntry "GetOutput" [("ImageName", "string"), ("Source", "Location")],
          Model.shapeEntry "Origin" [("Uri", "string")],
          Model.shapeEntry "Location" [("Uri", "string")]]),
      ("operations", .list
        [.record [("name", .text "CreateImage"), ("input", .text "CreateInput")],
          .record [("name", .text "GetImage"), ("output", .text "GetOutput")]])]

/-- A member is of two shapes of one structure, and two names match the primary key. -/
def imageRequest : Request where
  model :=
    { shapes :=
        [{ name := "CreateInput", members := [⟨"Name", .string, false⟩,
            ⟨"Source", .shape 2, false⟩] },
          { name := "GetOutput", members := [⟨"ImageName", .string, false⟩,
            ⟨"Source", .shape 3, false⟩] },
          { name := "Origin", members := [⟨"Uri", .string, false⟩] },
          { name := "Location", members := [⟨"Uri", .string, false⟩] }]
      operations :=
        [{ name := "CreateImage", input := some 0, kind := .create },
          { name := "GetImage", output := some 1, kind := .readOne }] }
  resource := "Image"

/-- In the other order the member has the other shape, and the other name is the key. -/
theorem resolve_withOperations_of_perm_imageRequest :
    Model.ofDocument imageDocument = .ok imageRequest.model ∧
      imageRequest.model.operations.Perm imageRequest.model.operations.reverse ∧
      ∃ s s', imageRequest.resolve = .ok s ∧
        (imageRequest.withOperations imageRequest.model.operations.reverse).resolve = .ok s' ∧
        (s.fields.map fun f => (f.name, f.typeName, f.isPrimaryKey)) =
          [("Name", "string", true), ("Source", "Origin", false), ("ImageName", "string", false)] ∧
        (s'.fields.map fun f => (f.name, f.typeName, f.isPrimaryKey)) =
          [("ImageName", "string", true), ("Source", "Location", false),
            ("Name", "string", false)] ∧
        ∃ f f', s.field? "Source" = some f ∧ s'.field? "Source" = some f' ∧
          f.SameUpToWalk imageRequest.model f' := by
  have loaded : Model.ofDocument imageDocument = .ok imageRequest.model := by cbv
  have p : imageRequest.model.operations.Perm imageRequest.model.operations.reverse :=
    (List.reverse_perm _).symm
  have accepted : imageRequest.findings.errors = [] := by cbv
  have accepted' : (imageRequest.withOperations
      imageRequest.model.operations.reverse).findings.errors = [] := by cbv
  have fields : (imageRequest.findings.fields.map fun f =>
      (f.name, f.typeName, f.isPrimaryKey)) =
        [("Name", "string", true), ("Source", "Origin", false),
          ("ImageName", "string", false)] := by
    cbv
  have fields' : ((imageRequest.withOperations
      imageRequest.model.operations.reverse).findings.fields.map fun f =>
        (f.name, f.typeName, f.isPrimaryKey)) =
          [("ImageName", "string", true), ("Source", "Location", false),
            ("Name", "string", false)] := by
    cbv
  have known : "Source" ∈ imageRequest.roster.names := by
    have names : imageRequest.roster.names = ["Name", "Source", "ImageName"] := by cbv
    rw [names]
    decide
  obtain ⟨s, hs⟩ := imageRequest.resolve_isOk_iff.2 accepted
  obtain ⟨s', hs'⟩ := (imageRequest.withOperations _).resolve_isOk_iff.2 accepted'
  obtain ⟨-, success, -⟩ := resolve_withOperations_of_perm imageRequest loaded p
  obtain ⟨g, -, found⟩ := field?_of_mem_names hs known
  obtain ⟨f', found', same⟩ := (success s s' hs hs').2 _ _ found
  refine ⟨loaded, p, s, s', hs, hs', ?_, ?_, _, f', found, found', same⟩
  · rw [(resolve_eq_ok_iff.1 hs).2]
    exact fields
  · rw [(resolve_eq_ok_iff.1 hs').2]
    exact fields'

end Request

end FieldResolution
