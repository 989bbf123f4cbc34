import FieldResolution.Proofs.Resolution.Answer

/-!
# What an answer remarks

A field of an answer has the slot and the mark that were decided for its name, and tells who
decided them (`slot_of_mem_fields`, `isRequired_of_mem_fields`).  Besides the members that are
flattened and what is noted about the flags, an answer remarks on its fields one by one
(`diagnostics_of_resolve`): it warns of a field that nothing but its occurrences makes ignored, and
notes a slot that a directive has changed.
-/

namespace FieldResolution

/-! ## Remarks on one field -/

namespace FieldCase

variable {c : FieldCase}

/-- Is the field ignored, though no directive says so? -/
def isOutside (c : FieldCase) : Bool := c.slot.value == .ignored && c.slot.source == .heuristic

/-- Has a directive given the field another slot than its occurrences imply? -/
def isMoved (c : FieldCase) : Bool :=
  !c.occurrences.isEmpty && c.slot.source == .explicit && impliedSlot c.occurrences != c.slot.value

/-- Without an occurrence a field that can be typed on its own is ignored by directive only. -/
theorem exists_directedSlot?_of_isSelfTyped {d : FieldDirectives}
    (typed : Roster.isSelfTyped d = true) :
    ∃ decision, directedSlot? [] d = some decision ∧
      (decision.value = .ignored → decision.source = .explicit) := by
  unfold directedSlot?
  by_cases off : d.isOn .isIgnored = true
  · exact ⟨_, if_pos off, fun _ => rfl⟩
  · rw [if_neg off]
    cases d.isReadOnly with
    | some b => cases b <;> exact ⟨_, rfl, nofun⟩
    | none =>
      by_cases redirected : d.redirect.isSome = true
      · exact ⟨_, if_pos redirected, nofun⟩
      · have on : d.isOn .isAttribute = true :=
          (FieldDirectives.isOn_eq_true_iff _ _).2
            ((Roster.isSelfTyped_iff.1 typed).resolve_left redirected)
        refine ⟨.heuristic .spec, ?_, nofun⟩
        simp [redirected, on]

theorem occurs_of_isOutside (typed : Roster.isSelfTyped c.directives = true ∨ c.occurrences ≠ [])
    (outside : c.isOutside = true) : c.occurrences ≠ [] := by
  rintro nowhere
  obtain ⟨decision, directed, told⟩ :=
    exists_directedSlot?_of_isSelfTyped (typed.resolve_right (not_not.2 nowhere))
  have slot : c.slot = decision := by
    unfold slot decideSlot
    rw [nowhere, directed]
  rw [isOutside, Bool.and_eq_true, beq_iff_eq, beq_iff_eq, slot] at outside
  rw [told outside.1] at outside
  cases outside.2

theorem remarks_of_isOutside (occurs : c.occurrences ≠ []) (outside : c.isOutside = true) :
    c.remarks = [.outsideResource c.name c.operations] := by
  rw [isOutside, Bool.and_eq_true, beq_iff_eq, beq_iff_eq] at outside
  unfold remarks remarksOn
  rw [if_neg (by simpa using occurs), if_neg, if_pos outside.1]
  simp [Decision.isExplicit, outside.2]

theorem remarks_of_not_isOutside (inside : c.isOutside = false) :
    c.remarks =
      if c.isMoved then [.slotOverridden c.name (impliedSlot c.occurrences) c.slot.value]
      else [] := by
  unfold remarks remarksOn isMoved
  by_cases nowhere : c.occurrences = []
  · simp [nowhere]
  · cases hs : c.slot.source with
    | explicit =>
      by_cases kept : impliedSlot c.occurrences = c.slot.value
      · simp [Decision.isExplicit, hs, kept]
      · simp [Decision.isExplicit, hs, kept, nowhere]
    | heuristic =>
      have placed : c.slot.value ≠ .ignored := by simpa [isOutside, hs] using inside
      simp [Decision.isExplicit, hs, placed]

theorem remarks_of_isMoved (moved : c.isMoved = true) :
    c.remarks = [.slotOverridden c.name (impliedSlot c.occurrences) c.slot.value] := by
  have inside : c.isOutside = false := by
    unfold isMoved at moved
    rw [Bool.and_eq_true, Bool.and_eq_true, beq_iff_eq] at moved
    simp [isOutside, moved.1.2]
  rw [remarks_of_not_isOutside inside, if_pos moved]

/-- There is something to remark on a field that is ignored by default, and on one whose slot a
directive has changed. -/
theorem remarks_of_typed (typed : Roster.isSelfTyped c.directives = true ∨ c.occurrences ≠ []) :
    c.remarks =
      if c.isOutside then [.outsideResource c.name c.operations]
      else if c.isMoved then [.slotOverridden c.name (impliedSlot c.occurrences) c.slot.value]
      else [] := by
  by_cases outside : c.isOutside = true
  · rw [if_pos outside, remarks_of_isOutside (occurs_of_isOutside typed outside) outside]
  · rw [if_neg outside, remarks_of_not_isOutside (Bool.eq_false_iff.2 outside)]

/-- A remark that a default was changed is about the slot. -/
theorem isMoved_of_mem_remarks
    (typed : Roster.isSelfTyped c.directives = true ∨ c.occurrences ≠ []) {d : Diagnostic}
    (hd : d ∈ c.remarks) (code : d.code = "heuristic_overridden") : c.isMoved = true := by
  rw [remarks_of_typed typed] at hd
  split_ifs at hd with outside moved
  · obtain rfl := List.mem_singleton.1 hd
    have codes : "field_not_in_resource_shapes" = "heuristic_overridden" := code
    exact absurd codes (by decide)
  · exact moved
  · cases hd

end FieldCase

namespace Request

variable {q : Request} {s : FieldSet}

/-! ## What was decided for a field -/

theorem exists_case_of_mem_fields (h : q.resolve = .ok s) {f : ResolvedField} (hf : f ∈ s.fields) :
    ∃ place g, (q.caseAt (f.name, place)).settle q.model = .ok g ∧ f = q.flagged g := by
  have known : f.name ∈ q.roster.names := by
    rw [← map_name_fields h]
    exact List.mem_map_of_mem hf
  obtain ⟨g, hg, rfl⟩ := exists_settled_of_mem_fields h hf
  obtain ⟨e, -, settled⟩ := exists_case_of_mem_settled hg
  have asked : g.name ∈ q.settledNames := by
    rw [← names_settled]
    exact List.mem_map_of_mem hg
  rw [applyFlags_eq_flagged asked]
  have name : (q.flagged g).name = e.1 := FieldCase.name_of_settle settled
  rw [name]
  exact ⟨e.2, g, settled, rfl⟩

/-- The case of a name, wherever it stands. -/
def caseOf (q : Request) (name : String) : FieldCase := q.caseAt (name, 0)

theorem slot_of_mem_fields (h : q.resolve = .ok s) {f : ResolvedField} (hf : f ∈ s.fields) :
    f.slot = (q.caseOf f.name).slot.value := by
  obtain ⟨place, g, settled, hg⟩ := exists_case_of_mem_fields h hf
  have slot : g.slot = (q.caseAt (f.name, place)).slot.value := FieldCase.slot_of_settle settled
  have flags : f.slot = (q.flagged g).slot := congrArg _ hg
  exact flags.trans slot

theorem isRequired_of_mem_fields (h : q.resolve = .ok s) {f : ResolvedField} (hf : f ∈ s.fields) :
    f.isRequired = (q.caseOf f.name).required.value := by
  obtain ⟨place, g, settled, hg⟩ := exists_case_of_mem_fields h hf
  have required : g.isRequired = (q.caseAt (f.name, place)).required.value :=
    FieldCase.isRequired_of_settle settled
  have flags : f.isRequired = (q.flagged g).isRequired := congrArg _ hg
  exact flags.trans required

theorem provenanceOf?_slot_of_mem_fields (h : q.resolve = .ok s) {f : ResolvedField}
    (hf : f ∈ s.fields) : f.provenanceOf? "slot" = some (q.caseOf f.name).slot.source := by
  obtain ⟨place, g, settled, hg⟩ := exists_case_of_mem_fields h hf
  have provenance : f.provenance = g.provenance ++ _ := congrArg ResolvedField.provenance hg
  unfold ResolvedField.provenanceOf?
  rw [provenance, FieldCase.provenance_of_settle settled]
  rfl

/-- Every name of an answer can be typed. -/
theorem typed_of_resolve (h : q.resolve = .ok s) {name : String} (hn : name ∈ q.roster.names) :
    Roster.isSelfTyped (q.caseOf name).directives = true ∨ (q.caseOf name).occurrences ≠ [] := by
  have sound : q.fault? name = none :=
    fieldErrors_eq_nil_iff.1 (no_errors_of_resolve h).2.1 name hn
  exact (FieldCase.fault?_eq_none_iff.1 sound).2

/-! ## The diagnostics of an answer -/

theorem assignments_of_resolve (h : q.resolve = .ok s) :
    q.findings.assignments = singletons.map fun w => .ok (q.asked w).assignment := by
  rw [assignments_findings]
  exact List.map_congr_left fun w hw =>
    assign_question (no_errors_of_resolve h).2.2 hw (q.patterns w)

/-- What an answer says: which members are flattened, what there is to remark on its fields, and
what is noted about the flags. -/
theorem diagnostics_of_resolve (h : q.resolve = .ok s) :
    s.diagnostics =
      (flattening q.overrides).map (fun e => .flattened e.1 e.2) ++
        q.roster.names.flatMap (fun n => (q.caseOf n).remarks) ++
        singletons.flatMap fun w => (q.asked w).assignment.notes.map (.flag (.switch w)) := by
  have settled : ∀ n ∈ q.roster.names, q.fault? n = none :=
    fieldErrors_eq_nil_iff.1 (no_errors_of_resolve h).2.1
  have remarks : q.findings.outcomes.flatMap Outcome.diagnostics =
      q.roster.names.flatMap fun n => (q.caseOf n).remarks := by
    have names : q.roster.names.zipIdx.map Prod.fst = q.roster.names := List.zipIdx_map_fst 0 _
    conv_rhs => rw [← names, List.flatMap_map]
    rw [outcomes_findings, List.flatMap_map]
    refine List.flatMap_congr fun e he => ?_
    have sound : q.fault? e.1 = none := settled e.1 (List.fst_mem_of_mem_zipIdx he)
    unfold Outcome.diagnostics
    rw [Outcome.error?_eq, refusal?_settle_caseAt, sound]
    rfl
  have unknown : q.findings.unknownErrors = [] :=
    q.unknownErrors_findings.trans (no_errors_of_resolve h).1
  have flags : q.findings.assignments.flatMap Findings.flagDiagnostics =
      singletons.flatMap fun w => (q.asked w).assignment.notes.map (.flag (.switch w)) := by
    rw [assignments_of_resolve h, List.flatMap_map]
    rfl
  rw [diagnostics_eq_findings h, Findings.diagnostics, unknown, remarks, flags, List.map_nil,
    List.append_nil]
  rfl

end Request

end FieldResolution
