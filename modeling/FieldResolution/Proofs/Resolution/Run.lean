import FieldResolution.Proofs.Field.Flag
import FieldResolution.Proofs.Resolution.Settle
import FieldResolution.Resolution.Run

/-!
# What a run finds

A run settles the names of the roster one by one: what comes of a name depends on its occurrences
and directives alone (`outcomes_findings`), and a name that is refused stops no other.  `fault?` is
why a name is refused, `settledNames` are the names that are not, and `conflict?` is the fault of a
flag that two of those are switched on for.  The faults of a run are read off them
(`errors_findings`), and so is its answer (`resolve_isOk_iff`).
-/

namespace FieldResolution

theorem Outcome.error?_eq (o : Outcome) :
    o.error? = (refusal? o.result).map fun fault => ⟨o.case.name, fault⟩ := by
  unfold Outcome.error?
  cases o.result <;> rfl

namespace Request

variable (q : Request)

/-! ## The fields of a run -/

/-- The case of a name at a place of the roster. -/
def caseAt (e : String × Nat) : FieldCase :=
  { name := e.1, position := e.2, occurrences := q.roster.occurrences e.1,
    directives := q.overrides.get e.1 }

/-- The fields of a roster with what is said of them; of a field without an entry it is nothing. -/
def cases (r : Roster) : List FieldCase :=
  r.groups.zipIdx.map fun g =>
    { name := g.1.1, position := g.2, occurrences := g.1.2, directives := q.overrides.get g.1.1 }

theorem outcomes_eq (r : Roster) :
    q.outcomes r = (q.cases r).map fun c => c.outcome q.model := by
  unfold outcomes cases
  rw [List.map_map]
  exact List.map_congr_left fun g _ => Outcome.ofEntry_eq _ _ _ _ _

theorem cases_roster : q.cases q.roster = q.roster.names.zipIdx.map q.caseAt := by
  have groups : q.roster.groups = q.roster.names.map fun n => (n, q.roster.occurrences n) :=
    Roster.groups_eq_map_names q.model q.overrides
  rw [cases, groups, List.zipIdx_map, List.map_map]
  rfl

theorem outcomes_findings :
    q.findings.outcomes =
      q.roster.names.zipIdx.map fun e =>
        ⟨q.caseAt e, (q.caseAt e).slot, (q.caseAt e).settle q.model⟩ := by
  show q.outcomes q.roster = _
  rw [outcomes_eq, cases_roster, List.map_map]
  rfl

/-- Why a name is refused, if it is; its place plays no part. -/
def fault? (name : String) : Option FieldFault :=
  (q.caseAt (name, q.roster.names.idxOf name)).fault? q.model

theorem refusal?_settle_caseAt (e : String × Nat) :
    refusal? ((q.caseAt e).settle q.model) = q.fault? e.1 :=
  FieldCase.refusal?_settle _ _

/-- The names that are settled, in order. -/
def settledNames : List String := q.roster.names.filter fun n => (q.fault? n).isNone

/-- The faults of the names that are refused, in order. -/
def fieldErrors : List FieldError :=
  q.roster.names.filterMap fun n => (q.fault? n).map fun fault => ⟨n, fault⟩

theorem filterMap_zipIdx_fst {α : Type} (names : List String) (f : String → Option α) :
    (names.zipIdx.filterMap fun e => f e.1) = names.filterMap f := by
  have h : names.zipIdx.map Prod.fst = names := List.zipIdx_map_fst 0 names
  calc names.zipIdx.filterMap (fun e => f e.1)
      = (names.zipIdx.map Prod.fst).filterMap f := List.filterMap_map.symm
    _ = names.filterMap f := by rw [h]

theorem fieldErrors_findings : q.findings.outcomes.filterMap Outcome.error? = q.fieldErrors := by
  rw [outcomes_findings, List.filterMap_map, fieldErrors, ← filterMap_zipIdx_fst]
  refine List.filterMap_congr fun e _ => ?_
  rw [Function.comp_apply, Outcome.error?_eq, refusal?_settle_caseAt]
  rfl

theorem names_settled : q.findings.settled.map ResolvedField.name = q.settledNames := by
  rw [Findings.settled, outcomes_findings, List.filterMap_map, List.map_filterMap, settledNames,
    ← List.filterMap_eq_filter, ← filterMap_zipIdx_fst]
  refine List.filterMap_congr fun e _ => ?_
  have verdict := q.refusal?_settle_caseAt e
  rw [Function.comp_apply, Outcome.field?]
  cases h : (q.caseAt e).settle q.model with
  | error fault =>
    rw [h] at verdict
    simp [Option.guard, ← verdict, refusal?]
  | ok f =>
    rw [h] at verdict
    simp [Option.guard, ← verdict, refusal?, FieldCase.name_of_settle h, caseAt]

/-! ## The flags of a run -/

/-- The switches that at most one field may have on, in the order in which they are assigned. -/
def singletons : List Switch := [.isPrimaryKey, .isArn, .isOwnerAccountId]

/-- The settled names that are switched on. -/
def holders (w : Switch) : List String :=
  q.settledNames.filter fun n => (q.overrides.get n).isOn w

/-- The fault of a flag for which two settled names are switched on. -/
def conflict? (w : Switch) : Option FieldError :=
  match q.holders w with
  | first :: second :: _ => some ⟨second, .flagTaken (.switch w) first⟩
  | _ => none

/-- What is asked about a flag once the names are settled. -/
def question (w : Switch) (patterns : List String) : FlagQuestion :=
  { flag := .switch w
    names := q.settledNames
    overrides := q.overrides
    patterns
    ineligible := (q.findings.settled.filter fun f => f.slot == .ignored).map ResolvedField.name }

theorem assignments_findings :
    q.findings.assignments =
      [(q.question .isPrimaryKey (primaryKeyNames q.resource)).assign,
        (q.question .isArn (arnNames q.resource)).assign,
        (q.question .isOwnerAccountId []).assign] := by
  simp only [question, ← names_settled]
  rfl

theorem switchedOn_question (w : Switch) (patterns : List String) :
    (q.question w patterns).switchedOn = q.holders w := by
  unfold FlagQuestion.switchedOn holders
  simp only [FlagQuestion.explicit?_eq]
  rfl

theorem flagError?_question (w : Switch) (patterns : List String) :
    Findings.flagError? (q.question w patterns).assign = q.conflict? w := by
  unfold conflict?
  rw [← q.switchedOn_question w patterns]
  cases hs : (q.question w patterns).switchedOn with
  | nil => rw [FlagQuestion.assign_of_length_le (by simp [hs])]; rfl
  | cons first rest =>
    cases rest with
    | nil => rw [FlagQuestion.assign_of_length_le (by simp [hs])]; rfl
    | cons second rest => rw [FlagQuestion.assign_of_two hs]; rfl

theorem conflict?_eq_none_iff {w : Switch} : q.conflict? w = none ↔ (q.holders w).length ≤ 1 := by
  unfold conflict?
  cases q.holders w with
  | nil => simp
  | cons first rest => cases rest <;> simp

/-! ## The faults of a run -/

/-- The overrides that name no field, in order. -/
def unknownErrors : List FieldError :=
  (q.overrides.filter fun e => (q.roster.occurrences e.1).isEmpty && !Roster.isSelfTyped e.2).map
    fun e => ⟨e.1, .unknownOverride⟩

/-- The faults of the flags, in order. -/
def flagErrors : List FieldError := singletons.filterMap q.conflict?

theorem unknownErrors_findings : q.findings.unknownErrors = q.unknownErrors := by
  show (q.roster.unknown.map fun n => (⟨n, .unknownOverride⟩ : FieldError)) = _
  rw [roster, Roster.unknown_ofModel, Roster.strangers, List.filter_filter, List.map_map]
  refine congrArg (List.map _) (List.filter_congr fun e _ => ?_)
  have fresh : (!((Roster.walk q.model q.overrides).map Prod.fst).contains e.1) =
      (q.roster.occurrences e.1).isEmpty := by
    rw [Bool.eq_iff_iff, List.isEmpty_iff, roster, Roster.occurrences_eq_nil_iff]
    simp
  rw [fresh, Bool.and_comm]

/-- The faults of a run: of the overrides, then of the names, then of the flags. -/
theorem errors_findings :
    q.findings.errors = q.unknownErrors ++ q.fieldErrors ++ q.flagErrors := by
  rw [Findings.errors, unknownErrors_findings, fieldErrors_findings, assignments_findings]
  simp only [flagErrors, singletons, List.filterMap_cons, List.filterMap_nil, flagError?_question]

/-- A run answers with the fields if and only if it finds no fault. -/
theorem resolve_isOk_iff : (∃ s, q.resolve = .ok s) ↔ q.findings.errors = [] := by
  unfold resolve conclude
  by_cases h : q.findings.errors = [] <;> simp [h]

end Request

end FieldResolution
