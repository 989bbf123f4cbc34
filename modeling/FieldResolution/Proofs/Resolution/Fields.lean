import FieldResolution.Proofs.Resolution.Acceptance
import Mathlib

/-!
# The fields of an answer

The fields of an answer are the settled fields with the decisions on the three flags.  A decision
leaves the name, the place and the type of a field alone (`unflagged_applyFlags`), and every flag
is decided for every field (`provenance_applyFlags`).  So the fields stand for the names of the
roster, one by one and in order (`map_place_fields`).
-/

namespace FieldResolution

namespace Findings

theorem unflagged_applyFlag (f : ResolvedField) (a : FlagAssignment) :
    (applyFlag f a).unflagged = f.unflagged := by
  unfold applyFlag
  cases a.decisions.lookup f.name with
  | none => rfl
  | some d => exact f.unflagged_decideFlag a.flag d

/-- Assigning flags leaves everything else of a field alone. -/
theorem unflagged_applyFlags (as : List FlagAssignment) (f : ResolvedField) :
    (as.foldl applyFlag f).unflagged = f.unflagged := by
  induction as generalizing f with
  | nil => rfl
  | cons a as ih =>
    rw [List.foldl_cons, ih, unflagged_applyFlag]

/-- What is read off a field without its flags is kept. -/
theorem read_applyFlags {α : Type} (read : ResolvedField → α) (hr : ∀ f, read f.unflagged = read f)
    (as : List FlagAssignment) (f : ResolvedField) : read (as.foldl applyFlag f) = read f := by
  rw [← hr, unflagged_applyFlags, hr]

/-- Every assignment that decides a field adds its flag to the provenance. -/
theorem provenance_applyFlags (as : List FlagAssignment) (f : ResolvedField)
    (decided : ∀ a ∈ as, (a.decisions.lookup f.name).isSome = true) :
    (as.foldl applyFlag f).provenance.map Prod.fst =
      f.provenance.map Prod.fst ++ as.map fun a => a.flag.key := by
  induction as generalizing f with
  | nil => simp
  | cons a as ih =>
    have name : (applyFlag f a).name = f.name := read_applyFlags (·.name) (fun _ => rfl) [a] f
    have later : ∀ b ∈ as, (b.decisions.lookup (applyFlag f a).name).isSome = true := by
      intro b hb
      rw [name]
      exact decided b (List.mem_cons_of_mem _ hb)
    obtain ⟨d, hd⟩ := Option.isSome_iff_exists.1 (decided a List.mem_cons_self)
    have step : (applyFlag f a).provenance = f.provenance ++ [(a.flag.key, d.source)] := by
      rw [applyFlag, hd]
      exact f.provenance_decideFlag a.flag d
    rw [List.foldl_cons, ih _ later, step, List.map_append, List.map_cons, List.append_assoc]
    rfl

end Findings

namespace Request

variable {q : Request} {s : FieldSet}

theorem resolve_eq_ok_iff :
    q.resolve = .ok s ↔ q.findings.errors = [] ∧
      s = { resource := q.resource
            fields := q.findings.fields
            diagnostics := q.findings.diagnostics
            columns := Column.ofFields q.findings.fields q.directives.listing.order
            addAgeColumn := q.directives.listing.addAgeColumn } := by
  unfold resolve conclude
  by_cases h : q.findings.errors = []
  · rw [if_pos h, Except.ok.injEq]
    exact ⟨fun hs => ⟨h, hs.symm⟩, fun hs => hs.2.symm⟩
  · rw [if_neg h]
    simp [h]

theorem fields_eq_findings (h : q.resolve = .ok s) : s.fields = q.findings.fields := by
  rw [(resolve_eq_ok_iff.1 h).2]

theorem diagnostics_eq_findings (h : q.resolve = .ok s) :
    s.diagnostics = q.findings.diagnostics := by
  rw [(resolve_eq_ok_iff.1 h).2]

/-- The three assignments of a run that is answered with fields. -/
def assignments (q : Request) : List FlagAssignment :=
  [(q.question .isPrimaryKey (primaryKeyNames q.resource)).assignment,
    (q.question .isArn (arnNames q.resource)).assignment,
    (q.question .isOwnerAccountId []).assignment]

theorem assign_question (h : q.flagErrors = []) {w : Switch} (hw : w ∈ singletons)
    (patterns : List String) :
    (q.question w patterns).assign = .ok (q.question w patterns).assignment := by
  refine FlagQuestion.assign_of_length_le ?_
  rw [switchedOn_question]
  exact flagErrors_eq_nil_iff.1 h w hw

theorem assigned_findings (h : q.flagErrors = []) : q.findings.assigned = q.assignments := by
  have assign {w : Switch} (hw : w ∈ singletons) := assign_question h hw
  rw [Findings.assigned, assignments_findings, assign (by decide), assign (by decide),
    assign (by decide)]
  rfl

theorem exists_case_of_mem_settled {f : ResolvedField} (h : f ∈ q.findings.settled) :
    ∃ e ∈ q.roster.names.zipIdx, (q.caseAt e).settle q.model = .ok f := by
  rw [Findings.settled, outcomes_findings, List.filterMap_map] at h
  obtain ⟨e, he, hf⟩ := List.mem_filterMap.1 h
  refine ⟨e, he, ?_⟩
  rw [Function.comp_apply, Outcome.field?] at hf
  cases hs : (q.caseAt e).settle q.model with
  | error fault => simp [hs] at hf
  | ok g => simpa [hs] using hf

theorem map_place_settled (h : ∀ n ∈ q.roster.names, q.fault? n = none) :
    (q.findings.settled.map fun f => (f.name, f.position)) =
      q.roster.names.zipIdx.map fun e => (e.1, (e.2 : Int)) := by
  rw [Findings.settled, outcomes_findings, List.filterMap_map, List.map_filterMap,
    ← List.filterMap_eq_map]
  refine List.filterMap_congr fun e he => ?_
  have verdict := q.refusal?_settle_caseAt e
  rw [h e.1 (List.fst_mem_of_mem_zipIdx he), refusal?_eq_none_iff] at verdict
  obtain ⟨f, hf⟩ := verdict
  simp only [Function.comp_apply, Outcome.field?, hf, Option.map_some,
    FieldCase.name_of_settle hf, FieldCase.position_of_settle hf]
  rfl

theorem no_errors_of_resolve (h : q.resolve = .ok s) :
    q.unknownErrors = [] ∧ q.fieldErrors = [] ∧ q.flagErrors = [] := by
  have none := (resolve_eq_ok_iff.1 h).1
  rw [errors_findings, List.append_eq_nil_iff, List.append_eq_nil_iff] at none
  exact ⟨none.1.1, none.1.2, none.2⟩

theorem exists_settled_of_mem_fields (h : q.resolve = .ok s) {f : ResolvedField}
    (hf : f ∈ s.fields) :
    ∃ g ∈ q.findings.settled, f = q.assignments.foldl Findings.applyFlag g := by
  obtain ⟨-, rfl⟩ := resolve_eq_ok_iff.1 h
  obtain ⟨g, hg, rfl⟩ := List.mem_map.1 hf
  refine ⟨g, hg, ?_⟩
  rw [assigned_findings (no_errors_of_resolve h).2.2]

/-- The fields stand for the names of the roster, each at its place. -/
theorem map_place_fields (h : q.resolve = .ok s) :
    (s.fields.map fun f => (f.name, f.position)) =
      q.roster.names.zipIdx.map fun e => (e.1, (e.2 : Int)) := by
  rw [← map_place_settled (fieldErrors_eq_nil_iff.1 (no_errors_of_resolve h).2.1)]
  obtain ⟨-, rfl⟩ := resolve_eq_ok_iff.1 h
  show (q.findings.settled.map _).map _ = _
  rw [List.map_map]
  refine List.map_congr_left fun f _ => ?_
  exact Findings.read_applyFlags (fun g => (g.name, g.position)) (fun _ => rfl) _ f

theorem map_name_fields (h : q.resolve = .ok s) :
    s.fields.map ResolvedField.name = q.roster.names := by
  have names := congrArg (List.map Prod.fst) (map_place_fields h)
  rw [List.map_map, List.map_map] at names
  exact names.trans (List.zipIdx_map_fst 0 _)

theorem nodup_position_fields (h : q.resolve = .ok s) :
    (s.fields.map ResolvedField.position).Nodup := by
  have places : s.fields.map ResolvedField.position =
      (q.roster.names.zipIdx.map Prod.snd).map Int.ofNat := by
    have both := congrArg (List.map Prod.snd) (map_place_fields h)
    rw [List.map_map, List.map_map] at both
    rw [List.map_map]
    exact both
  rw [places, List.zipIdx_map_snd]
  exact List.Nodup.map Int.ofNat_injective List.nodup_range'

theorem position_of_getElem? (h : q.resolve = .ok s) {i : Nat} {f : ResolvedField}
    (hf : s.fields[i]? = some f) : f.position = i := by
  have place := congrArg (fun l => l[i]?) (map_place_fields h)
  simp only [List.getElem?_map, hf, List.getElem?_zipIdx, Option.map_some, Option.map_map] at place
  obtain ⟨n, -, hn⟩ := Option.map_eq_some_iff.1 place.symm
  have position := congrArg Prod.snd hn
  simpa using position.symm

/-- On success the overrides of names that do not occur are all typed, so all of them are fields. -/
theorem names_roster (h : q.resolve = .ok s) :
    q.roster.names = Roster.walkNames q.model q.overrides ++
      (q.overrides.map Prod.fst).filter fun n =>
        !((Roster.walk q.model q.overrides).map Prod.fst).contains n := by
  have typed : ∀ e ∈ Roster.strangers q.model q.overrides, Roster.isSelfTyped e.2 = true := by
    intro e he
    obtain ⟨hmem, fresh⟩ := (Roster.mem_strangers _ _).1 he
    refine Roster.isSelfTyped_iff.2 ?_
    exact unknownErrors_eq_nil_iff.1 (no_errors_of_resolve h).1 e hmem
      ((Roster.occurrences_eq_nil_iff _ _).2 fresh)
  rw [roster, Roster.names_ofModel, List.filter_eq_self.2 typed, Roster.strangers, List.filter_map]
  rfl

theorem exists_field_of_override (h : q.resolve = .ok s) {e : String × FieldDirectives}
    (he : e ∈ q.overrides) : ∃ f ∈ s.fields, f.name = e.1 := by
  have known : e.1 ∈ s.fields.map ResolvedField.name := by
    rw [map_name_fields h, names_roster h, List.mem_append]
    by_cases walked : e.1 ∈ (Roster.walk q.model q.overrides).map Prod.fst
    · exact Or.inl (List.mem_eraseDups.2 walked)
    · refine Or.inr (List.mem_filter.2 ⟨List.mem_map_of_mem he, ?_⟩)
      simpa using walked
  obtain ⟨f, hf, hn⟩ := List.mem_map.1 known
  exact ⟨f, hf, hn⟩

theorem typeName_of_mem_fields (h : q.resolve = .ok s) {f : ResolvedField} (hf : f ∈ s.fields) :
    f.typeName = q.model.spell f.type := by
  obtain ⟨g, hg, rfl⟩ := exists_settled_of_mem_fields h hf
  obtain ⟨e, -, settled⟩ := exists_case_of_mem_settled hg
  rw [Findings.read_applyFlags (·.typeName) (fun _ => rfl),
    Findings.read_applyFlags (·.type) (fun _ => rfl)]
  exact FieldCase.typeName_of_settle settled

/-- The type of a field is what its occurrences and its directives give. -/
theorem fieldType_of_mem_fields (h : q.resolve = .ok s) {f : ResolvedField} (hf : f ∈ s.fields) :
    q.model.fieldType (q.roster.occurrences f.name) (q.overrides.get f.name) = .ok f.type := by
  obtain ⟨g, hg, rfl⟩ := exists_settled_of_mem_fields h hf
  obtain ⟨e, -, settled⟩ := exists_case_of_mem_settled hg
  rw [Findings.read_applyFlags (·.name) (fun _ => rfl),
    Findings.read_applyFlags (·.type) (fun _ => rfl), FieldCase.name_of_settle settled]
  exact FieldCase.type_of_settle settled

theorem isUnpacked_of_mem_fields (h : q.resolve = .ok s) {f : ResolvedField} (hf : f ∈ s.fields) :
    f.isUnpacked = (q.overrides.get f.name).isOn .isAttribute := by
  obtain ⟨g, hg, rfl⟩ := exists_settled_of_mem_fields h hf
  obtain ⟨e, -, settled⟩ := exists_case_of_mem_settled hg
  rw [Findings.read_applyFlags (·.name) (fun _ => rfl),
    Findings.read_applyFlags (·.isUnpacked) (fun _ => rfl), FieldCase.name_of_settle settled]
  exact FieldCase.isUnpacked_of_settle settled

/-- Every settled name is asked about for every flag, so each flag is decided for it. -/
theorem provenance_of_mem_fields (h : q.resolve = .ok s) {f : ResolvedField} (hf : f ∈ s.fields) :
    f.provenance.map Prod.fst =
      ["slot", "is_required", "is_primary_key", "is_arn", "is_owner_account_id"] := by
  obtain ⟨g, hg, rfl⟩ := exists_settled_of_mem_fields h hf
  obtain ⟨e, -, settled⟩ := exists_case_of_mem_settled hg
  have asked : g.name ∈ q.settledNames := by
    rw [← names_settled]
    exact List.mem_map_of_mem hg
  have decided : ∀ a ∈ q.assignments, (a.decisions.lookup g.name).isSome = true := by
    intro a ha
    simp only [assignments, List.mem_cons, List.not_mem_nil, or_false] at ha
    rcases ha with rfl | rfl | rfl <;> rw [FlagQuestion.lookup_decisions asked] <;> rfl
  rw [Findings.provenance_applyFlags _ _ decided, FieldCase.provenance_of_settle settled]
  rfl

/-- The fields of an answer are the names of the roster, each once and at its place; each tells its
type as the model spells it, and who decided each of its five aspects. -/
theorem fields_of_resolve (q : Request) (keyed : q.overrides.Keyed) (s : FieldSet)
    (h : q.resolve = .ok s) :
    s.fields.map ResolvedField.name = q.roster.names ∧
      (q.roster.names = Roster.walkNames q.model q.overrides ++
        (q.overrides.map Prod.fst).filter fun n =>
          !((Roster.walk q.model q.overrides).map Prod.fst).contains n) ∧
      (s.fields.map ResolvedField.name).Nodup ∧
      (∀ (i : Nat) (f : ResolvedField), s.fields[i]? = some f → f.position = i) ∧
      (∀ e ∈ q.overrides, ∃ f ∈ s.fields, f.name = e.1) ∧
      ∀ f ∈ s.fields, f.typeName = q.model.spell f.type ∧
        f.provenance.map Prod.fst =
          ["slot", "is_required", "is_primary_key", "is_arn", "is_owner_account_id"] := by
  refine ⟨map_name_fields h, names_roster h, ?_, fun i f hf => position_of_getElem? h hf,
    fun e he => exists_field_of_override h he,
    fun f hf => ⟨typeName_of_mem_fields h hf, provenance_of_mem_fields h hf⟩⟩
  rw [map_name_fields h]
  exact Roster.nodup_names_ofModel q.model q.overrides keyed

/-- A member is flattened, one of its children is redirected, and a name is known to the overrides
alone. -/
def functionRequest : Request where
  model :=
    { shapes :=
        [{ name := "CreateInput", members := [⟨"FunctionName", .string, true⟩,
            ⟨"Code", .shape 2, true⟩] },
          { name := "GetOutput", members := [⟨"FunctionName", .string, false⟩,
            ⟨"Code", .shape 3, false⟩, ⟨"FunctionArn", .string, false⟩] },
          { name := "FunctionCode", members := [⟨"ImageUri", .string, false⟩,
            ⟨"Layers", .container .list .string, false⟩] },
          { name := "FunctionLocation", members := [⟨"ImageUri", .string, false⟩,
            ⟨"Location", .string, false⟩] }]
      operations :=
        [{ name := "CreateFunction", input := some 0, kind := .create },
          { name := "GetFunction", output := some 1, kind := .readOne }] }
  resource := "Function"
  directives :=
    { fields :=
        [("Policy", { isAttribute := some true }),
          ("CodeLocation",
            { isReadOnly := some true, redirect := some ⟨"GetFunction", "Code.Location"⟩ })] }

theorem fields_of_resolve_functionRequest :
    functionRequest.overrides.Keyed ∧ ∃ s, functionRequest.resolve = .ok s ∧
      s.fields.map ResolvedField.name =
        ["FunctionName", "CodeImageUri", "CodeLayers", "CodeLocation", "FunctionArn", "Policy"] ∧
      (s.fields.map ResolvedField.name).Nodup ∧
      (∀ (i : Nat) (f : ResolvedField), s.fields[i]? = some f → f.position = i) ∧
      ∀ f ∈ s.fields, f.typeName = functionRequest.model.spell f.type := by
  have keyed : functionRequest.overrides.Keyed := by decide
  have accepted : functionRequest.findings.errors = [] := by cbv
  have names : functionRequest.roster.names =
      ["FunctionName", "CodeImageUri", "CodeLayers", "CodeLocation", "FunctionArn", "Policy"] := by
    cbv
  obtain ⟨s, hs⟩ := functionRequest.resolve_isOk_iff.2 accepted
  obtain ⟨listed, -, once, placed, -, told⟩ := fields_of_resolve functionRequest keyed s hs
  exact ⟨keyed, s, hs, listed.trans names, once, placed, fun f hf => (told f hf).1⟩

end Request

end FieldResolution
