import FieldResolution.Proofs.Field.Contribution
import FieldResolution.Proofs.Resolution.Remarks
import FieldResolution.Proofs.Sorting
import Mathlib.Data.String.Basic

/-!
# Default slots

The slot of a field without directives is read off the model: it is a spec field if a create
operation takes it, a status field if it is only given back, and ignored otherwise; it is required
if a create operation demands it (`DefaultSlot`).  An answer warns of the fields that are ignored by
default, one by one and in their order, and names the operations in which they appear
(`filter_outside_diagnostics`).
-/

namespace FieldResolution

/-- The operations in which a field appears, in ascending order, each of them once. -/
structure Model.AppearsIn (m : Model) (overrides : Overrides) (name : String)
    (operations : List String) : Prop where
  ascending : operations.Pairwise (· < ·)
  mem_iff : ∀ n, n ∈ operations ↔
    ∃ o ∈ m.operations, o.name = n ∧ ∃ r path x, m.Contributes overrides o r name path x

/-- What a field without directives is, by what the operations do with it. -/
structure Model.DefaultSlot (m : Model) (overrides : Overrides) (f : ResolvedField) : Prop where
  spec : f.slot = .spec ↔ m.TakenOnCreate overrides f.name
  status : f.slot = .status ↔ ¬ m.TakenOnCreate overrides f.name ∧ m.GivenBack overrides f.name
  ignored : f.slot = .ignored ↔
    ¬ m.TakenOnCreate overrides f.name ∧ ¬ m.GivenBack overrides f.name
  required : f.isRequired = true ↔ m.DemandedOnCreate overrides f.name

theorem FieldCase.pairwise_operations (c : FieldCase) : c.operations.Pairwise (· < ·) := by
  refine strict_mergeSort_key id ?_
  rw [List.map_id]
  exact nodup_eraseDups _

theorem FieldCase.mem_operations {c : FieldCase} {n : String} :
    n ∈ c.operations ↔ ∃ o ∈ c.occurrences, o.operation = n := by
  unfold operations
  rw [(List.mergeSort_perm _ _).mem_iff, List.mem_eraseDups, List.mem_map]

namespace Request

variable {q : Request} {s : FieldSet}

theorem appearsIn_operations (q : Request) (name : String) :
    q.model.AppearsIn q.overrides name (q.caseOf name).operations where
  ascending := (q.caseOf name).pairwise_operations
  mem_iff := by
    intro n
    show n ∈ (q.caseOf name).operations ↔ _
    rw [FieldCase.mem_operations]
    show (∃ x ∈ (Roster.ofModel q.model q.overrides).occurrences name, x.operation = n) ↔ _
    simp only [Model.mem_occurrences_iff]
    constructor
    · rintro ⟨_, ⟨o, ho, r, path, x, contributes, rfl⟩, named⟩
      exact ⟨o, ho, named, r, path, x, contributes⟩
    · rintro ⟨o, ho, named, r, path, x, contributes⟩
      exact ⟨_, ⟨o, ho, r, path, x, contributes, rfl⟩, named⟩

/-! ## Fields without directives -/

theorem defaultSlot_of_mem_fields (h : q.resolve = .ok s) {f : ResolvedField} (hf : f ∈ s.fields)
    (plain : f.name ∉ q.overrides.map Prod.fst) : q.model.DefaultSlot q.overrides f := by
  have silent : q.overrides.get f.name = {} := Overrides.get_of_not_mem plain
  have slot : f.slot = impliedSlot ((Roster.ofModel q.model q.overrides).occurrences f.name) := by
    rw [slot_of_mem_fields h hf]
    show (decideSlot _ (q.overrides.get f.name)).value = _
    rw [silent, decideSlot_of_silent]
    rfl
  have required : f.isRequired = (f.slot == .spec &&
      ((Roster.ofModel q.model q.overrides).occurrences f.name).any fun o =>
        o.required && o.isCreateInput) := by
    rw [slot_of_mem_fields h hf, isRequired_of_mem_fields h hf]
    show (decideRequired _ (q.overrides.get f.name) _).value = _
    rw [silent]
    rfl
  obtain ⟨spec, status, ignored⟩ := Model.impliedSlot_occurrences q.model q.overrides f.name
  rw [← slot] at spec status ignored
  refine ⟨spec, status, ignored, ?_⟩
  rw [required, Bool.and_eq_true, beq_iff_eq, spec, ← Model.demandedOnCreate_iff]
  exact ⟨fun both => both.2, fun demanded => ⟨demanded.taken, demanded⟩⟩

/-! ## Warnings -/

theorem filter_outside_remarks {c : FieldCase}
    (typed : Roster.isSelfTyped c.directives = true ∨ c.occurrences ≠ []) :
    (c.remarks.filter fun d => d.code == "field_not_in_resource_shapes") =
      if c.isOutside then [.outsideResource c.name c.operations] else [] := by
  rw [FieldCase.remarks_of_typed typed]
  split_ifs
  · rfl
  · rfl
  · rfl

/-- The warnings of an answer are those about the fields that are ignored by default. -/
theorem filter_outside_diagnostics (h : q.resolve = .ok s) :
    (s.diagnostics.filter fun d => d.code == "field_not_in_resource_shapes") =
      (s.fields.filter fun f =>
          f.slot == .ignored && f.provenanceOf? "slot" == some .heuristic).map
        fun f => .outsideResource f.name (q.caseOf f.name).operations := by
  have flattened : (((flattening q.overrides).map fun e => Diagnostic.flattened e.1 e.2).filter
      fun d => d.code == "field_not_in_resource_shapes") = [] := by
    refine List.filter_eq_nil_iff.2 fun d hd => ?_
    obtain ⟨e, -, rfl⟩ := List.mem_map.1 hd
    exact Bool.false_ne_true
  have notes : ((singletons.flatMap fun w =>
      (q.asked w).assignment.notes.map (Diagnostic.flag (.switch w))).filter
        fun d => d.code == "field_not_in_resource_shapes") = [] := by
    refine List.filter_eq_nil_iff.2 fun d hd => ?_
    obtain ⟨w, -, hd⟩ := List.mem_flatMap.1 hd
    obtain ⟨note, -, rfl⟩ := List.mem_map.1 hd
    cases note <;> exact Bool.false_ne_true
  have fields : (s.fields.filter fun f =>
        f.slot == .ignored && f.provenanceOf? "slot" == some .heuristic) =
      s.fields.filter fun f => (q.caseOf f.name).isOutside := by
    refine List.filter_congr fun f hf => ?_
    rw [slot_of_mem_fields h hf, provenanceOf?_slot_of_mem_fields h hf]
    rfl
  have remarks : ((q.roster.names.flatMap fun n => (q.caseOf n).remarks).filter
        fun d => d.code == "field_not_in_resource_shapes") =
      (q.roster.names.filter fun n => (q.caseOf n).isOutside).map fun n =>
        .outsideResource n (q.caseOf n).operations := by
    rw [List.filter_flatMap, ← List.filterMap_eq_map, List.filterMap_filter,
      List.filterMap_eq_flatMap_toList]
    refine List.flatMap_congr fun n hn => ?_
    rw [filter_outside_remarks (typed_of_resolve h hn)]
    split_ifs <;> rfl
  rw [diagnostics_of_resolve h, List.filter_append, List.filter_append, flattened, notes, remarks,
    fields, ← map_name_fields h, List.filter_map, List.map_map, List.nil_append, List.append_nil]
  rfl

/-- The fields without directives have the slots and the marks that the model gives them, and the
warnings are, one by one, those about the fields that are ignored by default. -/
theorem slots_of_resolve (q : Request) (s : FieldSet) (h : q.resolve = .ok s) :
    (∀ f ∈ s.fields, f.name ∉ q.overrides.map Prod.fst → q.model.DefaultSlot q.overrides f) ∧
      List.Forall₂
        (fun f d => ∃ operations, q.model.AppearsIn q.overrides f.name operations ∧
          d = .outsideResource f.name operations)
        (s.fields.filter fun f =>
          f.slot == .ignored && f.provenanceOf? "slot" == some .heuristic)
        (s.diagnostics.filter fun d => d.code == "field_not_in_resource_shapes") := by
  refine ⟨fun f hf plain => defaultSlot_of_mem_fields h hf plain, ?_⟩
  rw [filter_outside_diagnostics h, List.forall₂_map_right_iff, List.forall₂_same]
  exact fun f _ => ⟨_, q.appearsIn_operations f.name, rfl⟩

/-- A member is flattened in the input of one operation and in the output of another; two names
appear only where no resource is created or read, one of them under a directive. -/
def layerRequest : Request where
  model :=
    { shapes :=
        [{ name := "CreateInput", members := [⟨"LayerName", .string, true⟩,
            ⟨"Content", .shape 3, true⟩] },
          { name := "GetOutput", members := [⟨"LayerName", .string, false⟩,
            ⟨"Content", .shape 4, false⟩, ⟨"Version", .primitive .long, false⟩] },
          { name := "Page", members := [⟨"Marker", .string, false⟩, ⟨"MaxItems", .string, true⟩] },
          { name := "ContentInput", members := [⟨"Bucket", .string, true⟩,
            ⟨"Sha", .string, false⟩] },
          { name := "ContentOutput", members := [⟨"Sha", .string, true⟩,
            ⟨"Location", .string, false⟩] }]
      operations :=
        [{ name := "ListLayers", input := some 2, kind := .readMany },
          { name := "CreateLayer", input := some 0, kind := .create },
          { name := "GetLayer", output := some 1, kind := .readOne },
          { name := "DeleteLayers", input := some 2, kind := .delete }] }
  resource := "Layer"
  directives :=
    { fields :=
        [("ContentLocation", { redirect := some ⟨"GetLayer", "Content.Location"⟩ }),
          ("MaxItems", { isSecret := some true })] }

theorem slots_of_resolve_layerRequest :
    ∃ s, layerRequest.resolve = .ok s ∧
      (s.fields.map fun f => (f.name, f.slot, f.provenanceOf? "slot", f.isRequired)) =
        [("Marker", .ignored, some .heuristic, false),
          ("MaxItems", .ignored, some .heuristic, false),
          ("LayerName", .spec, some .heuristic, true),
          ("ContentBucket", .spec, some .heuristic, true),
          ("ContentSha", .spec, some .heuristic, false),
          ("ContentLocation", .status, some .explicit, false),
          ("Version", .status, some .heuristic, false)] ∧
      (∀ f ∈ s.fields, f.name ∉ ["ContentLocation", "MaxItems"] →
        layerRequest.model.DefaultSlot layerRequest.overrides f) ∧
      List.Forall₂
        (fun f d => ∃ operations,
          layerRequest.model.AppearsIn layerRequest.overrides f.name operations ∧
            d = .outsideResource f.name operations)
        (s.fields.filter fun f =>
          f.slot == .ignored && f.provenanceOf? "slot" == some .heuristic)
        (s.diagnostics.filter fun d => d.code == "field_not_in_resource_shapes") := by
  have accepted : layerRequest.findings.errors = [] := by cbv
  have told : (layerRequest.findings.fields.map fun f =>
        (f.name, f.slot, f.provenanceOf? "slot", f.isRequired)) =
      [("Marker", .ignored, some .heuristic, false),
        ("MaxItems", .ignored, some .heuristic, false),
        ("LayerName", .spec, some .heuristic, true),
        ("ContentBucket", .spec, some .heuristic, true),
        ("ContentSha", .spec, some .heuristic, false),
        ("ContentLocation", .status, some .explicit, false),
        ("Version", .status, some .heuristic, false)] := by cbv
  obtain ⟨s, hs⟩ := layerRequest.resolve_isOk_iff.2 accepted
  obtain ⟨plain, warned⟩ := slots_of_resolve layerRequest s hs
  exact ⟨s, hs, fields_eq_findings hs ▸ told, plain, warned⟩

end Request

end FieldResolution
