import FieldResolution.Proofs.Resolution.Answer

/-!
# Two runs side by side

Two runs are aligned if they know the same names, in whatever order, give each of them the same
directives, and refuse the same names for faults of the same kinds.  Such runs settle the same names
(`settledNames_perm`), so the same flags are in conflict (`filterMap_flag?_eq`) and either both runs
are answered with fields or neither is (`resolve_isOk_iff`).
-/

namespace FieldResolution

theorem map_refusal?_eq {α β : Type} {x : Except FieldFault α} {y : Except FieldFault β}
    (ok : (∃ a, x = .ok a) ↔ ∃ b, y = .ok b)
    (kinds : ∀ e e', x = .error e → y = .error e' → e.kind = e'.kind) :
    (refusal? x).map FieldFault.kind = (refusal? y).map FieldFault.kind := by
  cases x with
  | ok a =>
    obtain ⟨b, rfl⟩ := ok.1 ⟨a, rfl⟩
    rfl
  | error e =>
    cases y with
    | ok b =>
      obtain ⟨a, ha⟩ := ok.2 ⟨b, rfl⟩
      cases ha
    | error e' => exact congrArg some (kinds e e' rfl rfl)

/-- The flags of a field of which an override speaks are those of another field. -/
def ResolvedField.SameExplicitFlags (f f' : ResolvedField) : Prop :=
  ∀ w ∈ Request.singletons, f.provenanceOf? w.key = some .explicit → f'.hasFlag w = f.hasFlag w

namespace Request

/-- No name marks the owner account. -/
theorem heuristicOwner?_isOwnerAccountId (q : Request) :
    (q.asked .isOwnerAccountId).heuristicOwner? = none := by
  rw [Option.eq_none_iff_forall_ne_some]
  intro name owner
  have candidate := FlagQuestion.isCandidate_of_heuristicOwner? owner
  exact List.not_mem_nil (FlagQuestion.isCandidate_iff.1 candidate).2

/-- Two requests that know the same names with the same directives, and refuse the same of them for
faults of the same kinds. -/
structure Aligned (q q' : Request) : Prop where
  names : q.roster.names.Perm q'.roster.names
  unknown : q.unknownErrors.Perm q'.unknownErrors
  directives : ∀ name, q'.overrides.get name = q.overrides.get name
  kinds : ∀ name, (q'.fault? name).map FieldFault.kind = (q.fault? name).map FieldFault.kind

namespace Aligned

variable {q q' : Request} (h : Aligned q q')

include h

theorem isNone_fault? (name : String) : (q'.fault? name).isNone = (q.fault? name).isNone := by
  have kinds := congrArg Option.isNone (h.kinds name)
  rwa [Option.isNone_map, Option.isNone_map] at kinds

theorem settledNames_perm : q.settledNames.Perm q'.settledNames := by
  unfold settledNames
  simp only [h.isNone_fault?]
  exact h.names.filter _

theorem holders_perm (w : Switch) : (q.holders w).Perm (q'.holders w) := by
  unfold holders
  simp only [h.directives]
  exact h.settledNames_perm.filter _

/-- The same flags are switched on for two names. -/
theorem conflict?_eq_none_iff (w : Switch) : q'.conflict? w = none ↔ q.conflict? w = none := by
  rw [Request.conflict?_eq_none_iff, Request.conflict?_eq_none_iff, (h.holders_perm w).length_eq]

theorem filterMap_flag?_eq :
    (reportedErrors q'.resolve).filterMap FieldError.flag? =
      (reportedErrors q.resolve).filterMap FieldError.flag? := by
  have conflict (w : Switch) : (q'.conflict? w).isSome = (q.conflict? w).isSome := by
    have same := h.conflict?_eq_none_iff w
    rw [Bool.eq_iff_iff, ← Option.ne_none_iff_isSome, ← Option.ne_none_iff_isSome]
    exact not_congr same
  rw [filterMap_flag?, filterMap_flag?]
  simp only [conflict]

theorem fieldErrors_perm :
    (q.fieldErrors.map fun e => (e.code, e.field)).Perm
      (q'.fieldErrors.map fun e => (e.code, e.field)) := by
  have told (r : Request) : (r.fieldErrors.map fun e => (e.code, e.field)) =
      r.roster.names.filterMap fun n =>
        ((r.fault? n).map FieldFault.kind).map fun kind => (kind.code, n) := by
    unfold fieldErrors
    rw [List.map_filterMap]
    apply List.filterMap_congr
    intro n _
    rw [Option.map_map, Option.map_map]
    rfl
  rw [told, told]
  simp only [h.kinds]
  exact h.names.filterMap _

/-- The faults that are no conflict over a flag have the same codes and fields. -/
theorem flagless_perm :
    (((reportedErrors q.resolve).filter fun e => e.flag?.isNone).map fun e =>
        (e.code, e.field)).Perm
      (((reportedErrors q'.resolve).filter fun e => e.flag?.isNone).map fun e =>
        (e.code, e.field)) := by
  rw [filter_flagless, filter_flagless, List.map_append, List.map_append]
  exact (h.unknown.map _).append h.fieldErrors_perm

theorem errors_eq_nil_iff : q'.findings.errors = [] ↔ q.findings.errors = [] := by
  have unknown : q.unknownErrors.length = q'.unknownErrors.length := h.unknown.length_eq
  have own : q.fieldErrors.length = q'.fieldErrors.length := by
    simpa using h.fieldErrors_perm.length_eq
  have flags : q'.flagErrors = [] ↔ q.flagErrors = [] := by
    unfold flagErrors
    rw [List.filterMap_eq_nil_iff, List.filterMap_eq_nil_iff]
    exact forall₂_congr fun w _ => h.conflict?_eq_none_iff w
  rw [errors_findings, errors_findings]
  simp only [List.append_eq_nil_iff, flags]
  simp only [← List.length_eq_zero_iff, unknown, own]

/-- Either both runs are answered with fields or neither is. -/
theorem resolve_isOk_iff : (∃ s, q.resolve = .ok s) ↔ ∃ s, q'.resolve = .ok s := by
  rw [Request.resolve_isOk_iff, Request.resolve_isOk_iff]
  exact h.errors_eq_nil_iff.symm

theorem map_name_perm {s s' : FieldSet} (hs : q.resolve = .ok s) (hs' : q'.resolve = .ok s') :
    (s.fields.map ResolvedField.name).Perm (s'.fields.map ResolvedField.name) := by
  rw [map_name_fields hs, map_name_fields hs']
  exact h.names

/-! ## What is decided about the flags -/

theorem source_verdict (w : Switch) (name : String) :
    (q'.verdict w name).source = (q.verdict w name).source := by
  unfold verdict
  rw [FlagQuestion.source_decision, FlagQuestion.source_decision, explicit?_asked, explicit?_asked,
    h.directives]

/-- What an override says about a flag stands in both runs. -/
theorem verdict_eq_of_explicit {w : Switch} {name : String}
    (explicit : (q.verdict w name).source = .explicit) : q'.verdict w name = q.verdict w name := by
  unfold verdict FlagQuestion.decision at explicit ⊢
  rw [explicit?_asked] at explicit
  rw [explicit?_asked, explicit?_asked, h.directives]
  cases hs : (q.overrides.get name).switch w with
  | none =>
    rw [hs] at explicit
    cases explicit
  | some b => rfl

/-- The verdicts on the flags of a field differ at most in its being the primary key or the ARN. -/
theorem flagged_eq (f : ResolvedField) :
    q'.flagged f = { q.flagged f with
      isPrimaryKey := (q'.flagged f).isPrimaryKey, isArn := (q'.flagged f).isArn } := by
  have owner : q'.verdict .isOwnerAccountId f.name = q.verdict .isOwnerAccountId f.name := by
    unfold verdict FlagQuestion.decision
    rw [explicit?_asked, explicit?_asked, h.directives, heuristicOwner?_isOwnerAccountId,
      heuristicOwner?_isOwnerAccountId]
  simp only [flagged, h.source_verdict, owner]

/-- A name that has a field in one answer has one in the other, with the same explicit flags. -/
theorem exists_settled_of_field? {s s' : FieldSet} (hs : q.resolve = .ok s)
    (hs' : q'.resolve = .ok s') {name : String} {f : ResolvedField}
    (found : s.field? name = some f) :
    ∃ g g', (q.caseAt (name, q.roster.names.idxOf name)).settle q.model = .ok g ∧
      (q'.caseAt (name, q'.roster.names.idxOf name)).settle q'.model = .ok g' ∧
      f = q.flagged g ∧ s'.field? name = some (q'.flagged g') ∧
      f.SameExplicitFlags (q'.flagged g') := by
  obtain ⟨known, g, settled, rfl⟩ := Request.exists_settled_of_field? hs found
  obtain ⟨g', settled', answer⟩ := field?_of_mem_names hs' (h.names.mem_iff.1 known)
  refine ⟨g, g', settled, settled', rfl, answer, fun w hw explicit => ?_⟩
  obtain ⟨hf, named⟩ := mem_of_field? found
  obtain ⟨hf', named'⟩ := mem_of_field? answer
  obtain ⟨flag, source⟩ := Prod.mk.inj (mark_eq_verdict hs hf hw)
  have flag' : (q'.flagged g').hasFlag w = _ := congrArg Prod.fst (mark_eq_verdict hs' hf' hw)
  rw [flag, flag', named', named]
  rw [named] at source
  rw [h.verdict_eq_of_explicit (Option.some.inj (source.symm.trans explicit))]

end Aligned

end Request

end FieldResolution
