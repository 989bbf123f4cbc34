import FieldResolution.Proofs.Resolution.Independence

/-!
# What a run takes from its overrides

The roster asks of the overrides which members they flatten, which names they know that do not occur
and which of those can be typed (`ofModel_eq_of_strangers`), so few revisions of their entries touch
it (`ofModel_revise`).  The flags ask what is said about them, name by name (`assign_under`).  So
two tables that agree on this and give every name the same directives cannot be told apart
(`findings_under`).  Where they give other directives that change the settled fields in a way of no
concern to the flags, the answer is changed in just that way (`resolve_of_changes`).
-/

namespace FieldResolution

/-! ## The roster -/

theorem Roster.ofModel_eq_of_strangers {m : Model} {o o' : Overrides}
    (flat : flattening o' = flattening o)
    (same : (strangers m o').map (fun e => (e.1, isSelfTyped e.2)) =
      (strangers m o).map fun e => (e.1, isSelfTyped e.2)) :
    ofModel m o' = ofModel m o := by
  have names (o : Overrides) (p : Bool → Bool) :
      ((strangers m o).filter fun e => p (isSelfTyped e.2)).map Prod.fst =
        (((strangers m o).map fun e => (e.1, isSelfTyped e.2)).filter fun e => p e.2).map
          Prod.fst := by
    rw [List.filter_map, List.map_map]
    rfl
  have walked : walk m o' = walk m o := by
    unfold walk
    rw [flat]
  have bare (o : Overrides) : ((strangers m o).filter fun e => isSelfTyped e.2).map
      (fun e => (e.1, ([] : List Occurrence))) =
        (((strangers m o).filter fun e => id (isSelfTyped e.2)).map Prod.fst).map fun n =>
          (n, []) := by
    rw [List.map_map]
    rfl
  have groups : (ofModel m o').groups = (ofModel m o).groups := by
    rw [groups_ofModel, groups_ofModel, walked, bare, bare, names, names, same]
  have unknown : (ofModel m o').unknown = (ofModel m o).unknown := by
    rw [unknown_ofModel, unknown_ofModel, names o' not, names o not, same]
  exact Roster.mk.injEq .. ▸ ⟨groups, flat, unknown⟩

/-! ## Tables revised entry by entry -/

namespace Overrides

/-- The overrides with other directives in their entries. -/
def revise (o : Overrides) (change : String → FieldDirectives → FieldDirectives) : Overrides :=
  o.map fun e => (e.1, change e.1 e.2)

variable (o : Overrides) (change : String → FieldDirectives → FieldDirectives)

theorem lookup_revise (name : String) :
    (o.revise change).lookup name = (o.lookup name).map (change name) := by
  induction o with
  | nil => rfl
  | cons first rest ih =>
    unfold revise at ih ⊢
    rw [List.map_cons, List.lookup_cons, List.lookup_cons]
    by_cases own : name = first.1
    · subst own
      rw [beq_self_eq_true]
      rfl
    · rw [beq_false_of_ne own]
      exact ih

theorem map_fst_revise : (o.revise change).map Prod.fst = o.map Prod.fst := by
  unfold revise
  rw [List.map_map]
  rfl

variable {o change}

/-- Where no redirect changes, the same members are flattened. -/
theorem flattening_revise (entered : ∀ name d, (change name d).entered? = d.entered?) :
    flattening (o.revise change) = flattening o := by
  unfold flattening
  rw [map_fst_revise]
  unfold revise
  rw [List.filterMap_map]
  simp only [Function.comp_def, entered]

end Overrides

/-- A revision matters to the roster by what it flattens and by which strangers it types. -/
theorem Roster.ofModel_revise {m : Model} {o : Overrides}
    {change : String → FieldDirectives → FieldDirectives}
    (entered : ∀ name d, (change name d).entered? = d.entered?)
    (typed : ∀ e ∈ strangers m o, isSelfTyped (change e.1 e.2) = isSelfTyped e.2) :
    ofModel m (o.revise change) = ofModel m o := by
  have flat := Overrides.flattening_revise entered (o := o)
  have strangers : strangers m (o.revise change) = (strangers m o).revise change := by
    have walked : walk m (o.revise change) = walk m o := by
      unfold walk
      rw [flat]
    unfold strangers
    rw [walked]
    exact List.filter_map
  refine ofModel_eq_of_strangers flat ?_
  rw [strangers, Overrides.revise, List.map_map]
  refine List.map_congr_left fun e he => ?_
  rw [← typed e he]
  rfl

/-! ## The flags -/

/-- Of the overrides an assignment asks only what they say about the flag. -/
theorem FlagQuestion.assign_under (q : FlagQuestion) {o : Overrides}
    (same : ∀ name, (o.get name).flag q.flag = (q.overrides.get name).flag q.flag) :
    assign { q with overrides := o } = q.assign := by
  have explicit : explicit? { q with overrides := o } = q.explicit? := by
    funext name
    rw [explicit?_eq, explicit?_eq]
    exact same name
  have on : switchedOn { q with overrides := o } = q.switchedOn := by
    unfold switchedOn
    rw [explicit]
  have owner : heuristicOwner? { q with overrides := o } = q.heuristicOwner? := by
    unfold heuristicOwner? firstMatch?
    rw [on, explicit]
    rfl
  have decided : decision { q with overrides := o } = q.decision := by
    unfold decision
    rw [explicit]
  have noted : note? { q with overrides := o } = q.note? := by
    funext switchedOn owner name
    unfold note?
    rw [explicit]
  have names : decidedNames { q with overrides := o } = q.decidedNames := by
    unfold decidedNames
    rw [explicit]
  unfold assign
  rw [on, owner, decided, noted, names]
  rfl

namespace Request

variable {q : Request} {o : Overrides}

/-! ## Tables that cannot be told apart -/

theorem findings_under (roster : (q.under o).roster = q.roster)
    (same : ∀ name, o.get name = q.overrides.get name) : (q.under o).findings = q.findings := by
  have outcomes : (q.under o).outcomes q.roster = q.outcomes q.roster := by
    have cases : (q.under o).cases q.roster = q.cases q.roster := by
      refine List.map_congr_left fun g _ => ?_
      have directives : (q.under o).overrides.get g.1.1 = q.overrides.get g.1.1 := same g.1.1
      rw [directives]
    rw [outcomes_eq, outcomes_eq, cases]
    rfl
  have assignments (settled : List ResolvedField) :
      ((q.under o).flagQuestions settled).map FlagQuestion.assign =
        (q.flagQuestions settled).map FlagQuestion.assign := by
    have asked : (q.under o).flagQuestions settled =
        (q.flagQuestions settled).map fun x => { x with overrides := o } := by
      unfold flagQuestions
      rw [List.map_map]
      rfl
    rw [asked, List.map_map]
    refine List.map_congr_left fun x hx => x.assign_under fun name => ?_
    obtain ⟨e, -, rfl⟩ := List.mem_map.1 hx
    rw [same name]
  unfold findings
  rw [roster]
  dsimp only
  rw [outcomes, assignments]

theorem resolve_eq_of_findings (same : (q.under o).findings = q.findings) :
    (q.under o).resolve = q.resolve := by
  unfold resolve
  rw [same]
  rfl

end Request

/-! ## Changed fields -/

/-- A change of fields that is of no concern to their flags. -/
structure ResolvedField.SparesFlags (change : ResolvedField → ResolvedField) : Prop where
  name : ∀ f, (change f).name = f.name
  slot : ∀ f, (change f).slot = f.slot
  decideFlag : ∀ f flag d, (change f).decideFlag flag d = change (f.decideFlag flag d)

theorem ResolvedField.SparesFlags.applyFlags {change : ResolvedField → ResolvedField}
    (spares : SparesFlags change) (as : List FlagAssignment) (f : ResolvedField) :
    as.foldl Findings.applyFlag (change f) = change (as.foldl Findings.applyFlag f) := by
  refine List.foldl_hom change fun f a => ?_
  unfold Findings.applyFlag
  rw [spares.name]
  cases a.decisions.lookup f.name with
  | none => rfl
  | some d => exact spares.decideFlag f a.flag d

namespace Request

/-- The overrides `o` leave a request its fields, what is remarked on them and what is said about
their flags, and every field that it settles they settle with the change. -/
structure Changes (q : Request) (o : Overrides) (change : ResolvedField → ResolvedField) :
    Prop where
  roster : (q.under o).roster = q.roster
  flags : ∀ name, ∀ w ∈ singletons, (o.get name).switch w = (q.overrides.get name).switch w
  remarks : ∀ e ∈ q.roster.names.zipIdx, ((q.under o).caseAt e).remarks = (q.caseAt e).remarks
  settles : ∀ e ∈ q.roster.names.zipIdx, ∀ f, (q.caseAt e).settle q.model = .ok f →
    ((q.under o).caseAt e).settle q.model = .ok (change f)

namespace Changes

variable {q : Request} {o : Overrides} {change : ResolvedField → ResolvedField} {s : FieldSet}
  (h : Changes q o change) (spares : ResolvedField.SparesFlags change) (hs : q.resolve = .ok s)

include h hs

theorem exists_settled {e : String × Nat} (he : e ∈ q.roster.names.zipIdx) :
    ∃ f, (q.caseAt e).settle q.model = .ok f ∧
      ((q.under o).caseAt e).settle q.model = .ok (change f) := by
  have sound : q.fault? e.1 = none :=
    fieldErrors_eq_nil_iff.1 (no_errors_of_resolve hs).2.1 _ (List.fst_mem_of_mem_zipIdx he)
  rw [← refusal?_settle_caseAt, refusal?_eq_none_iff] at sound
  obtain ⟨f, settled⟩ := sound
  exact ⟨f, settled, h.settles e he f settled⟩

theorem settled_eq : (q.under o).findings.settled = q.findings.settled.map change := by
  rw [Findings.settled, Findings.settled, outcomes_findings, outcomes_findings, h.roster,
    List.filterMap_map, List.filterMap_map, List.map_filterMap]
  refine List.filterMap_congr fun e he => ?_
  obtain ⟨f, settled, changed⟩ := h.exists_settled hs he
  simp only [Function.comp_apply, Outcome.field?, settled, Option.map_some]
  have told : ((q.under o).caseAt e).settle (q.under o).model = .ok (change f) := changed
  rw [told]

include spares

theorem question_eq (w : Switch) (patterns : List String) :
    (q.under o).question w patterns = { q.question w patterns with overrides := o } := by
  have names : (q.under o).settledNames = q.settledNames := by
    rw [← names_settled, ← names_settled, h.settled_eq hs, List.map_map]
    exact List.map_congr_left fun f _ => spares.name f
  unfold question
  rw [names, h.settled_eq hs, List.filter_map, List.map_map]
  simp only [Function.comp_def, spares.name, spares.slot]
  rfl

theorem assignments_eq : (q.under o).findings.assignments = q.findings.assignments := by
  have assign {w : Switch} (hw : w ∈ singletons) (patterns : List String) :
      ((q.under o).question w patterns).assign = (q.question w patterns).assign := by
    rw [h.question_eq spares hs]
    exact FlagQuestion.assign_under _ fun name => h.flags name w hw
  rw [assignments_findings, assignments_findings, assign (by decide), assign (by decide),
    assign (by decide)]
  rfl

theorem fields_eq : (q.under o).findings.fields = q.findings.fields.map change := by
  unfold Findings.fields Findings.assigned
  rw [h.assignments_eq spares hs, h.settled_eq hs, List.map_map, List.map_map]
  exact List.map_congr_left fun f _ => spares.applyFlags _ f

omit spares hs in
theorem unknownErrors_eq : (q.under o).findings.unknownErrors = q.findings.unknownErrors := by
  show ((q.under o).roster.unknown.map _) = q.roster.unknown.map _
  rw [h.roster]

theorem errors_eq_nil : (q.under o).findings.errors = [] := by
  have none := (resolve_eq_ok_iff.1 hs).1
  unfold Findings.errors at none ⊢
  rw [List.append_eq_nil_iff, List.append_eq_nil_iff] at none ⊢
  rw [h.unknownErrors_eq, h.assignments_eq spares hs]
  refine ⟨⟨none.1.1, ?_⟩, none.2⟩
  rw [outcomes_findings, List.filterMap_map, h.roster]
  refine List.filterMap_eq_nil_iff.2 fun e he => ?_
  obtain ⟨f, -, changed⟩ := h.exists_settled hs he
  have told : ((q.under o).caseAt e).settle (q.under o).model = .ok (change f) := changed
  rw [Function.comp_apply, Outcome.error?_eq, told]
  rfl

theorem diagnostics_eq : (q.under o).findings.diagnostics = q.findings.diagnostics := by
  have flattened : (q.under o).findings.roster.flattened = q.findings.roster.flattened :=
    congrArg Roster.flattened h.roster
  have outcomes : (q.under o).findings.outcomes.flatMap Outcome.diagnostics =
      q.findings.outcomes.flatMap Outcome.diagnostics := by
    rw [outcomes_findings, outcomes_findings, List.flatMap_map, List.flatMap_map, h.roster]
    refine List.flatMap_congr fun e he => ?_
    obtain ⟨f, settled, changed⟩ := h.exists_settled hs he
    have told : ((q.under o).caseAt e).settle (q.under o).model = .ok (change f) := changed
    unfold Outcome.diagnostics
    rw [Outcome.error?_eq, Outcome.error?_eq, told, settled]
    exact h.remarks e he
  unfold Findings.diagnostics
  rw [flattened, outcomes, h.unknownErrors_eq, h.assignments_eq spares hs]

/-- The answer under the other overrides is the answer with the change of its fields. -/
theorem resolve_of_changes :
    (q.under o).resolve = .ok
      { s with
        fields := s.fields.map change
        columns := Column.ofFields (s.fields.map change) q.directives.listing.order } := by
  obtain ⟨-, rfl⟩ := resolve_eq_ok_iff.1 hs
  refine resolve_eq_ok_iff.2 ⟨h.errors_eq_nil spares hs, ?_⟩
  rw [h.fields_eq spares hs, h.diagnostics_eq spares hs]
  rfl

end Changes

end Request

end FieldResolution
