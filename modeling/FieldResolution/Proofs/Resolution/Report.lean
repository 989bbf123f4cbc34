import FieldResolution.Proofs.Resolution.Run
import Mathlib

/-!
# What a run reports

Whatever a run answers, its faults are those of the overrides that name no field, then those of the
names that are refused, then those of the flags, and the diagnostics repeat every fault in its place
(`filter_isError_diagnostics`).  A name that is refused leaves no remark behind
(`fault?_eq_none_of_isRemark`).
-/

namespace FieldResolution

/-- A note or a warning about the slot of a field. -/
def Diagnostic.isRemark : Diagnostic → Bool
  | slotOverridden _ _ _ | outsideResource _ _ => true
  | flattened _ _ | flag _ _ | failed _ => false

/-- The faults of an answer. -/
def reportedErrors : Except Failure FieldSet → List FieldError
  | .ok _ => []
  | .error failure => failure.errors

/-- The diagnostics of an answer. -/
def reportedDiagnostics : Except Failure FieldSet → List Diagnostic
  | .ok s => s.diagnostics
  | .error failure => failure.diagnostics

theorem FieldCase.remarksOn_eq (c : FieldCase) {slot : Decision Slot} {d : Diagnostic}
    (h : d ∈ c.remarksOn slot) : d.isError = false ∧ d.field = c.name := by
  unfold remarksOn at h
  split_ifs at h
  · simp at h
  · simp at h
  · obtain rfl := List.mem_singleton.1 h
    exact ⟨rfl, rfl⟩
  · obtain rfl := List.mem_singleton.1 h
    exact ⟨rfl, rfl⟩
  · simp at h

/-- Where every part of a run says its faults, the whole says them in order. -/
theorem filter_isError_flatMap {α : Type} {say : α → List Diagnostic}
    {error? : α → Option FieldError}
    (h : ∀ a, (say a).filter Diagnostic.isError = (error? a).toList.map Diagnostic.failed)
    (as : List α) :
    (as.flatMap say).filter Diagnostic.isError = (as.filterMap error?).map Diagnostic.failed := by
  rw [List.filter_flatMap, List.filterMap_eq_flatMap_toList, List.map_flatMap]
  exact List.flatMap_congr fun a _ => h a

theorem Outcome.filter_isError_diagnostics (o : Outcome) :
    o.diagnostics.filter Diagnostic.isError = o.error?.toList.map Diagnostic.failed := by
  unfold diagnostics
  cases o.error? with
  | some e => rfl
  | none =>
    refine List.filter_eq_nil_iff.2 fun d hd => ?_
    simp [(o.case.remarksOn_eq hd).1]

namespace Findings

variable (r : Findings)

theorem filter_isError_flagDiagnostics (a : Except FieldError FlagAssignment) :
    (flagDiagnostics a).filter Diagnostic.isError =
      (flagError? a).toList.map Diagnostic.failed := by
  cases a with
  | error e => rfl
  | ok a =>
    refine List.filter_eq_nil_iff.2 fun d hd => ?_
    obtain ⟨note, -, rfl⟩ := List.mem_map.1 hd
    exact Bool.false_ne_true

theorem filter_isError_diagnostics :
    r.diagnostics.filter Diagnostic.isError = r.errors.map Diagnostic.failed := by
  have notes : (r.roster.flattened.map fun e => Diagnostic.flattened e.1 e.2).filter
      Diagnostic.isError = [] := by
    refine List.filter_eq_nil_iff.2 fun d hd => ?_
    obtain ⟨e, -, rfl⟩ := List.mem_map.1 hd
    exact Bool.false_ne_true
  have unknown : (r.unknownErrors.map Diagnostic.failed).filter Diagnostic.isError =
      r.unknownErrors.map Diagnostic.failed := by
    refine List.filter_eq_self.2 fun d hd => ?_
    obtain ⟨e, -, rfl⟩ := List.mem_map.1 hd
    rfl
  rw [diagnostics, List.filter_append, List.filter_append, List.filter_append, notes, unknown,
    filter_isError_flatMap Outcome.filter_isError_diagnostics,
    filter_isError_flatMap filter_isError_flagDiagnostics, errors, List.map_append,
    List.map_append, List.nil_append]

/-- A remark of a run stands beside a name that was settled. -/
theorem exists_outcome_of_isRemark {d : Diagnostic} (hd : d ∈ r.diagnostics)
    (hr : d.isRemark = true) : ∃ o ∈ r.outcomes, o.error? = none ∧ d.field = o.case.name := by
  rw [diagnostics, List.mem_append, List.mem_append, List.mem_append] at hd
  rcases hd with ((hd | hd) | hd) | hd
  · obtain ⟨e, -, rfl⟩ := List.mem_map.1 hd
    cases hr
  · obtain ⟨e, -, rfl⟩ := List.mem_map.1 hd
    cases hr
  · obtain ⟨o, ho, hd⟩ := List.mem_flatMap.1 hd
    unfold Outcome.diagnostics at hd
    cases he : o.error? with
    | some e =>
      rw [he] at hd
      obtain rfl := List.mem_singleton.1 hd
      cases hr
    | none =>
      rw [he] at hd
      exact ⟨o, ho, he, (o.case.remarksOn_eq hd).2⟩
  · obtain ⟨a, -, hd⟩ := List.mem_flatMap.1 hd
    cases a with
    | error e =>
      obtain rfl := List.mem_singleton.1 hd
      cases hr
    | ok a =>
      obtain ⟨note, -, rfl⟩ := List.mem_map.1 hd
      cases hr

end Findings

namespace Request

variable (q : Request)

theorem reportedErrors_resolve : reportedErrors q.resolve = q.findings.errors := by
  unfold resolve conclude
  by_cases h : q.findings.errors = []
  · rw [if_pos h, h]
    rfl
  · rw [if_neg h]
    rfl

theorem reportedDiagnostics_resolve :
    reportedDiagnostics q.resolve = q.findings.diagnostics := by
  unfold resolve conclude
  by_cases h : q.findings.errors = []
  · rw [if_pos h]
    rfl
  · rw [if_neg h]
    rfl

theorem resolve_isError_iff : (∃ failure, q.resolve = .error failure) ↔ q.findings.errors ≠ [] := by
  unfold resolve conclude
  by_cases h : q.findings.errors = [] <;> simp [h]

theorem fault?_eq_none_of_isRemark {d : Diagnostic} (hd : d ∈ q.findings.diagnostics)
    (hr : d.isRemark = true) : q.fault? d.field = none := by
  obtain ⟨o, ho, he, hf⟩ := Findings.exists_outcome_of_isRemark _ hd hr
  rw [outcomes_findings] at ho
  obtain ⟨e, -, rfl⟩ := List.mem_map.1 ho
  rw [Outcome.error?_eq, refusal?_settle_caseAt, Option.map_eq_none_iff] at he
  rw [hf]
  exact he

/-- Each refused name has one fault, under its own name. -/
theorem field_fieldErrors :
    q.fieldErrors.map FieldError.field = q.roster.names.filter fun n => (q.fault? n).isSome := by
  rw [fieldErrors, List.map_filterMap, ← List.filterMap_eq_filter]
  refine List.filterMap_congr fun n _ => ?_
  cases h : q.fault? n <;> simp [Option.guard, h]

theorem nodup_field_unknownErrors (keyed : q.overrides.Keyed) :
    (q.unknownErrors.map FieldError.field).Nodup := by
  rw [unknownErrors, List.map_map]
  exact keyed.sublist (List.filter_sublist.map Prod.fst)

theorem nodup_field_fieldErrors (keyed : q.overrides.Keyed) :
    (q.fieldErrors.map FieldError.field).Nodup := by
  rw [field_fieldErrors]
  exact (Roster.nodup_names_ofModel q.model q.overrides keyed).filter _

/-- The faults of an answer are complete, in order, and each of them once; its diagnostics repeat
them one by one and say nothing else about the names that are refused. -/
theorem resolve_reports (q : Request) (keyed : q.overrides.Keyed) :
    reportedErrors q.resolve = q.unknownErrors ++ q.fieldErrors ++ q.flagErrors ∧
      (q.unknownErrors.map FieldError.field).Nodup ∧
      (q.fieldErrors.map FieldError.field = q.roster.names.filter fun n => (q.fault? n).isSome) ∧
      (q.fieldErrors.map FieldError.field).Nodup ∧
      (((reportedDiagnostics q.resolve).filter Diagnostic.isError).map fun d =>
          (d.code, d.field, d.message)) =
        ((reportedErrors q.resolve).map fun e => (e.code, e.field, e.detail)) ∧
      (∀ d ∈ reportedDiagnostics q.resolve, d.isRemark = true → q.fault? d.field = none) ∧
      ((∃ failure, q.resolve = .error failure) ↔ reportedErrors q.resolve ≠ []) := by
  rw [reportedDiagnostics_resolve, Findings.filter_isError_diagnostics, List.map_map,
    reportedErrors_resolve]
  refine ⟨q.errors_findings, q.nodup_field_unknownErrors keyed, q.field_fieldErrors,
    q.nodup_field_fieldErrors keyed, rfl, fun d hd hr => ?_, q.resolve_isError_iff⟩
  exact q.fault?_eq_none_of_isRemark hd hr

/-- Two overrides name no field, two names are refused, and two names are to be the primary key. -/
def faultyThing : Request where
  model :=
    { shapes :=
        [{ name := "In", members := [⟨"Name", .string, true⟩, ⟨"Size", .primitive .integer, false⟩,
            ⟨"Kind", .string, false⟩, ⟨"Label", .string, false⟩] },
          { name := "Out", members := [⟨"Size", .string, false⟩, ⟨"Owner", .string, false⟩] }]
      operations :=
        [{ name := "CreateThing", input := some 0, output := some 1, kind := .create }] }
  resource := "Thing"
  directives :=
    { fields :=
        [("Ghost", { isReadOnly := some true }), ("Label", { isPrimaryKey := some true }),
          ("Kind", { isIgnored := some true, print := some {} }),
          ("Name", { isPrimaryKey := some true }), ("Phantom", {}),
          ("Owner", { isReadOnly := some false })] }

theorem resolve_reports_faultyThing :
    faultyThing.overrides.Keyed ∧
      faultyThing.unknownErrors ++ faultyThing.fieldErrors ++ faultyThing.flagErrors =
        [⟨"Ghost", .unknownOverride⟩, ⟨"Phantom", .unknownOverride⟩,
          ⟨"Size", .divergentTypes [⟨"integer", "CreateThing", .input⟩,
            ⟨"string", "CreateThing", .output⟩]⟩,
          ⟨"Kind", .ignoredWithPolicy .print⟩,
          ⟨"Label", .flagTaken (.switch .isPrimaryKey) "Name"⟩] ∧
      (faultyThing.fieldErrors.map FieldError.field).Nodup ∧
      (∀ d ∈ reportedDiagnostics faultyThing.resolve, d.isRemark = true →
        faultyThing.fault? d.field = none) ∧
      ∃ failure, faultyThing.resolve = .error failure := by
  have keyed : faultyThing.overrides.Keyed := by decide
  have reported : reportedErrors faultyThing.resolve =
      [⟨"Ghost", .unknownOverride⟩, ⟨"Phantom", .unknownOverride⟩,
        ⟨"Size", .divergentTypes [⟨"integer", "CreateThing", .input⟩,
          ⟨"string", "CreateThing", .output⟩]⟩,
        ⟨"Kind", .ignoredWithPolicy .print⟩,
        ⟨"Label", .flagTaken (.switch .isPrimaryKey) "Name"⟩] := by cbv
  obtain ⟨errors, -, -, once, -, remarks, fails⟩ := resolve_reports faultyThing keyed
  refine ⟨keyed, errors.symm.trans reported, once, remarks, fails.2 ?_⟩
  rw [reported]
  exact List.cons_ne_nil _ _

end Request

end FieldResolution
