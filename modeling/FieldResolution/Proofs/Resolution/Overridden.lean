import FieldResolution.Proofs.Resolution.Remarks

/-!
# Defaults that a directive changes

An answer notes which defaults the directives have changed.  A note stands beside a field if a
directive has given it another slot than its occurrences imply (`SlotOverridden`), or has set aside
a match of its name for a flag (`MatchOverridden`), and beside no other field
(`notedOverridden_iff`).  A directive that makes a field required, or not, is not noted on its own
account.
-/

namespace FieldResolution

namespace Request

variable {q : Request} {s : FieldSet}

/-- A directive has given the field another slot than its occurrences imply. -/
def SlotOverridden (q : Request) (f : ResolvedField) : Prop :=
  f.provenanceOf? "slot" = some .explicit ∧ f.slot ≠ impliedSlot (q.roster.occurrences f.name)

/-- A directive has given the field another mark than it would have as a field of its slot. -/
def RequiredOverridden (q : Request) (f : ResolvedField) : Prop :=
  f.provenanceOf? "is_required" = some .explicit ∧
    f.isRequired ≠ (f.slot == .spec &&
      (q.roster.occurrences f.name).any fun o => o.required && o.isCreateInput)

/-- The name of the field says that it carries a flag, and a directive on this field or on another
one says otherwise. -/
def MatchOverridden (q : Request) (s : FieldSet) (w : Switch) (f : ResolvedField) : Prop :=
  f.slot ≠ .ignored ∧ Text.lowercase f.name ∈ q.patterns w ∧
    ((q.overrides.get f.name).switch w = some false ∨
      (q.overrides.get f.name).switch w = none ∧
        ∃ g ∈ s.fields, (q.overrides.get g.name).switch w = some true)

/-- There is a note that a directive has changed a default of the field. -/
def NotedOverridden (s : FieldSet) (f : ResolvedField) : Prop :=
  ∃ d ∈ s.diagnostics, d.severity = .info ∧ d.code = "heuristic_overridden" ∧ d.field = f.name

/-! ## Notes on slots -/

theorem slotOverridden_iff (h : q.resolve = .ok s) {f : ResolvedField} (hf : f ∈ s.fields)
    (occurs : q.roster.occurrences f.name ≠ []) :
    q.SlotOverridden f ↔ (q.caseOf f.name).isMoved = true := by
  have there : (q.caseOf f.name).occurrences.isEmpty = false := List.isEmpty_eq_false_iff.2 occurs
  unfold SlotOverridden FieldCase.isMoved
  rw [provenanceOf?_slot_of_mem_fields h hf, slot_of_mem_fields h hf, there, Bool.not_false,
    Bool.true_and, Bool.and_eq_true, beq_iff_eq, bne_iff_ne, Option.some.injEq]
  exact and_congr_right' ne_comm

theorem slotOverridden_mem_diagnostics (h : q.resolve = .ok s) {f : ResolvedField}
    (hf : f ∈ s.fields) (occurs : q.roster.occurrences f.name ≠ []) (changed : q.SlotOverridden f) :
    .slotOverridden f.name (impliedSlot (q.roster.occurrences f.name)) f.slot ∈ s.diagnostics := by
  have known : f.name ∈ q.roster.names := mem_names_of_occurs occurs
  rw [diagnostics_of_resolve h, slot_of_mem_fields h hf]
  refine List.mem_append_left _ (List.mem_append_right _ (List.mem_flatMap.2 ⟨f.name, known, ?_⟩))
  rw [FieldCase.remarks_of_isMoved ((slotOverridden_iff h hf occurs).1 changed)]
  exact List.mem_singleton_self _

/-! ## Notes on flags -/

theorem matchOverridden_iff (keyed : q.overrides.Keyed) (h : q.resolve = .ok s) {f : ResolvedField}
    (hf : f ∈ s.fields) (w : Switch) :
    q.MatchOverridden s w f ↔
      ∃ note ∈ (q.asked w).assignment.notes,
        note.code = "heuristic_overridden" ∧ note.field = f.name := by
  have named : f.name ∈ (q.asked w).names := by
    rw [names_asked h]
    exact List.mem_map_of_mem hf
  have candidate : f.name ∈ (q.asked w).candidates ↔
      f.slot ≠ .ignored ∧ Text.lowercase f.name ∈ q.patterns w := by
    unfold FlagQuestion.candidates
    rw [List.mem_filter, FlagQuestion.isCandidate_iff, mem_ineligible_asked keyed h hf]
    exact and_iff_right named
  have occupied : (q.asked w).switchedOn ≠ [] ↔
      ∃ g ∈ s.fields, (q.overrides.get g.name).switch w = some true := by
    constructor
    · intro asks
      obtain ⟨n, hn⟩ := List.exists_mem_of_ne_nil _ asks
      rw [mem_switchedOn_asked h, List.mem_map] at hn
      obtain ⟨⟨g, hg, rfl⟩, on⟩ := hn
      exact ⟨g, hg, on⟩
    · rintro ⟨g, hg, on⟩
      exact List.ne_nil_of_mem ((mem_switchedOn_asked h).2 ⟨List.mem_map_of_mem hg, on⟩)
  rw [FlagQuestion.exists_overridden_note_iff, candidate, occupied, explicit?_asked, and_assoc]
  rfl

/-! ## All notes -/

theorem notedOverridden_iff (keyed : q.overrides.Keyed) (h : q.resolve = .ok s) {f : ResolvedField}
    (hf : f ∈ s.fields) (occurs : q.roster.occurrences f.name ≠ []) :
    NotedOverridden s f ↔ q.SlotOverridden f ∨ ∃ w ∈ singletons, q.MatchOverridden s w f := by
  constructor
  · rintro ⟨d, hd, info, code, field⟩
    rw [diagnostics_of_resolve h, List.mem_append, List.mem_append] at hd
    rcases hd with (hd | hd) | hd
    · obtain ⟨e, -, rfl⟩ := List.mem_map.1 hd
      have codes : "member_decomposed" = "heuristic_overridden" := code
      exact absurd codes (by decide)
    · obtain ⟨n, hn, hd⟩ := List.mem_flatMap.1 hd
      have own : n = f.name := ((q.caseOf n).remarksOn_eq hd).2.symm.trans field
      subst own
      left
      rw [slotOverridden_iff h hf occurs]
      exact FieldCase.isMoved_of_mem_remarks (typed_of_resolve h hn) hd code
    · obtain ⟨w, hw, hd⟩ := List.mem_flatMap.1 hd
      obtain ⟨note, hnote, rfl⟩ := List.mem_map.1 hd
      exact Or.inr ⟨w, hw, (matchOverridden_iff keyed h hf w).2 ⟨note, hnote, code, field⟩⟩
  · rintro (changed | ⟨w, hw, aside⟩)
    · exact ⟨_, slotOverridden_mem_diagnostics h hf occurs changed, rfl, rfl, rfl⟩
    · obtain ⟨note, hnote, code, field⟩ := (matchOverridden_iff keyed h hf w).1 aside
      refine ⟨.flag (.switch w) note, ?_, rfl, code, field⟩
      rw [diagnostics_of_resolve h]
      exact List.mem_append_right _
        (List.mem_flatMap.2 ⟨w, hw, List.mem_map_of_mem hnote⟩)

/-- A note that a default was changed stands beside exactly the fields whose slot was changed or
whose name was set aside for a flag, and one beside a changed slot names both slots. -/
theorem overridden_of_resolve (q : Request) (keyed : q.overrides.Keyed) (s : FieldSet)
    (h : q.resolve = .ok s) :
    ∀ f ∈ s.fields, q.roster.occurrences f.name ≠ [] →
      (NotedOverridden s f ↔ q.SlotOverridden f ∨ ∃ w ∈ singletons, q.MatchOverridden s w f) ∧
        (q.SlotOverridden f →
          .slotOverridden f.name (impliedSlot (q.roster.occurrences f.name)) f.slot ∈
            s.diagnostics) :=
  fun _ hf occurs =>
    ⟨notedOverridden_iff keyed h hf occurs, slotOverridden_mem_diagnostics h hf occurs⟩

/-- Directives change a slot, set a match of a name aside, and make fields required or not. -/
def tableRequest : Request where
  model :=
    { shapes :=
        [{ name := "CreateInput", members := [⟨"TableName", .string, true⟩,
            ⟨"KeyId", .string, true⟩, ⟨"Capacity", .primitive .integer, false⟩] },
          { name := "CreateOutput", members := [⟨"TableArn", .string, false⟩,
            ⟨"Capacity", .primitive .integer, false⟩] }]
      operations :=
        [{ name := "CreateTable", input := some 0, output := some 1, kind := .create }] }
  resource := "Table"
  directives :=
    { fields :=
        [("TableArn", { isPrimaryKey := some true }),
          ("Capacity", { isReadOnly := some true }),
          ("KeyId", { isRequired := some false })] }

theorem overridden_of_resolve_tableRequest :
    ∃ s, tableRequest.resolve = .ok s ∧
      (s.fields.map fun f => (f.name, f.slot, f.isRequired)) =
        [("TableName", .spec, true), ("KeyId", .spec, false), ("Capacity", .status, false),
          ("TableArn", .status, false)] ∧
      s.diagnostics =
        [.slotOverridden "Capacity" .spec .status,
          .flag (.switch .isPrimaryKey) (.overridden "TableName" "TableArn")] ∧
      ∀ f ∈ s.fields, tableRequest.roster.occurrences f.name ≠ [] →
        (NotedOverridden s f ↔ tableRequest.SlotOverridden f ∨
            ∃ w ∈ singletons, tableRequest.MatchOverridden s w f) ∧
          (tableRequest.SlotOverridden f →
            .slotOverridden f.name (impliedSlot (tableRequest.roster.occurrences f.name)) f.slot ∈
              s.diagnostics) := by
  have accepted : tableRequest.findings.errors = [] := by cbv
  have told : (tableRequest.findings.fields.map fun f => (f.name, f.slot, f.isRequired)) =
      [("TableName", .spec, true), ("KeyId", .spec, false), ("Capacity", .status, false),
        ("TableArn", .status, false)] := by cbv
  have noted : tableRequest.findings.diagnostics =
      [.slotOverridden "Capacity" .spec .status,
        .flag (.switch .isPrimaryKey) (.overridden "TableName" "TableArn")] := by cbv
  obtain ⟨s, hs⟩ := tableRequest.resolve_isOk_iff.2 accepted
  have keyed : tableRequest.overrides.Keyed := by decide
  exact ⟨s, hs, fields_eq_findings hs ▸ told, diagnostics_eq_findings hs ▸ noted,
    overridden_of_resolve tableRequest keyed s hs⟩

/-- The only directive makes a field required. -/
def sizedThing : Request where
  model :=
    { shapes := [{ name := "In", members := [⟨"Name", .string, false⟩,
        ⟨"Size", .primitive .integer, false⟩] }]
      operations := [{ name := "CreateThing", input := some 0, kind := .create }] }
  resource := "Thing"
  directives := { fields := [("Size", { isRequired := some true })] }

/-- That a directive makes a field required is not noted. -/
theorem overridden_silent_on_required :
    ∃ s f, sizedThing.resolve = .ok s ∧ f ∈ s.fields ∧ f.name = "Size" ∧
      sizedThing.roster.occurrences f.name ≠ [] ∧ sizedThing.RequiredOverridden f ∧
        ¬NotedOverridden s f := by
  have accepted : sizedThing.findings.errors = [] := by cbv
  have silent : sizedThing.findings.diagnostics = [] := by cbv
  have told : (sizedThing.findings.fields.any fun f =>
      f.name == "Size" && f.isRequired && f.provenanceOf? "is_required" == some .explicit) = true :=
    by cbv
  have optional : (sizedThing.roster.occurrences "Size").map (fun o => o.required) = [false] := by
    cbv
  obtain ⟨s, hs⟩ := sizedThing.resolve_isOk_iff.2 accepted
  obtain ⟨f, hf, told⟩ := List.any_eq_true.1 told
  rw [Bool.and_eq_true, Bool.and_eq_true, beq_iff_eq, beq_iff_eq] at told
  obtain ⟨⟨name, required⟩, source⟩ := told
  obtain ⟨o, only, plain⟩ := List.map_eq_singleton_iff.1 optional
  have implied : (f.slot == .spec && (sizedThing.roster.occurrences f.name).any fun o =>
      o.required && o.isCreateInput) = false := by
    simp [name, only, plain]
  have noteless : ¬NotedOverridden s f := by
    rintro ⟨d, hd, -⟩
    rw [diagnostics_eq_findings hs, silent] at hd
    cases hd
  refine ⟨s, f, hs, fields_eq_findings hs ▸ hf, name, ?_, ⟨source, ?_⟩, noteless⟩
  · rw [name, only]
    exact List.cons_ne_nil _ _
  · rw [implied, required]
    exact Bool.false_ne_true.symm

end Request

end FieldResolution
