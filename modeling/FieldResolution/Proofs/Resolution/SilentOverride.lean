import FieldResolution.Proofs.Resolution.Frame

/-!
# Overrides that say nothing

An entry without directives says of its name what no entry says (`get_insert_silent`), and a run
reads the two alike: a field is settled as it is from its occurrences alone (`Outcome.ofEntry_eq`),
and no flag is spoken of (`FlagQuestion.explicit?_eq`).  The presence of the entry alone can matter
in two ways: no member of its name is flattened, and a name that does not occur becomes an unknown
one.  Where the name occurs and no redirect reaches into a member of
that name, the same members are flattened (`flattening_insert_silent`) and the roster is the same
(`roster_insert_silent`), so the run is the same, whether it is answered with fields or with faults.
-/

namespace FieldResolution

variable {before after : Overrides} {name : String}

theorem Overrides.get_insert_silent (fresh : name ∉ (before ++ after).map Prod.fst) (n : String) :
    Overrides.get (before ++ (name, {}) :: after) n = Overrides.get (before ++ after) n := by
  unfold Overrides.get
  rw [List.lookup_append, List.lookup_append, List.lookup_cons]
  by_cases own : n = name
  · subst own
    rw [List.map_append, List.mem_append, not_or] at fresh
    rw [lookup_of_not_mem fresh.1, lookup_of_not_mem fresh.2, beq_self_eq_true]
    rfl
  · rw [beq_false_of_ne own]

/-- An entry that redirects nowhere flattens nothing, and keeps whole only a member of its name. -/
theorem flattening_insert_silent (apart : ∀ e ∈ before ++ after, e.2.entered? ≠ some name) :
    flattening (before ++ (name, {}) :: after) = flattening (before ++ after) := by
  have nowhere : FieldDirectives.entered? {} = none := rfl
  have known (parent : String) (other : parent ≠ name) :
      ((before ++ (name, {}) :: after).map Prod.fst).contains parent =
        ((before ++ after).map Prod.fst).contains parent := by
    rw [Bool.eq_iff_iff]
    simp [other]
  unfold flattening
  refine congrArg firstPerKey ?_
  rw [List.filterMap_append, List.filterMap_append, List.filterMap_cons]
  simp only [nowhere]
  rw [← List.filterMap_append, ← List.filterMap_append]
  refine List.filterMap_congr fun e he => ?_
  cases reached : e.2.entered? with
  | none => rfl
  | some parent =>
    have other : parent ≠ name := by
      rintro rfl
      exact apart e he reached
    dsimp only
    rw [known parent other]

namespace Request

variable {q : Request}

theorem roster_insert_silent
    (occurs : (q.under (before ++ after)).roster.occurrences name ≠ [])
    (apart : ∀ e ∈ before ++ after, e.2.entered? ≠ some name) :
    (q.under (before ++ (name, {}) :: after)).roster = (q.under (before ++ after)).roster := by
  have flat := flattening_insert_silent apart
  have walked : name ∈ (Roster.walk q.model (before ++ after)).map Prod.fst := by
    by_contra absent
    exact occurs ((Roster.occurrences_eq_nil_iff _ _).2 absent)
  have walk : Roster.walk q.model (before ++ (name, {}) :: after) =
      Roster.walk q.model (before ++ after) := by
    unfold Roster.walk
    rw [flat]
  have strangers : Roster.strangers q.model (before ++ (name, {}) :: after) =
      Roster.strangers q.model (before ++ after) := by
    unfold Roster.strangers
    rw [walk, List.filter_append, List.filter_append, List.filter_cons_of_neg]
    simpa using walked
  exact Roster.ofModel_eq_of_strangers flat (congrArg (List.map _) strangers)

/-- An override without directives, put anywhere among the others, changes nothing about the answer,
if its name occurs, has no other override, and is no member that a redirect reaches into. -/
theorem resolve_insert_silent (q : Request) (before after : Overrides) (name : String)
    (occurs : (q.under (before ++ after)).roster.occurrences name ≠ [])
    (fresh : name ∉ (before ++ after).map Prod.fst)
    (apart : ∀ e ∈ before ++ after, e.2.entered? ≠ some name) :
    (q.under (before ++ (name, {}) :: after)).resolve = (q.under (before ++ after)).resolve := by
  have roster := roster_insert_silent occurs apart
  have same := Overrides.get_insert_silent fresh
  exact resolve_eq_of_findings
    (findings_under (q := q.under (before ++ after)) roster same)

/-- The name that is the primary key by default, and one that is flattened next to it. -/
theorem resolve_insert_silent_functionRequest :
    (functionRequest.roster.occurrences "FunctionName" ≠ [] ∧
        "FunctionName" ∉ functionRequest.overrides.map Prod.fst ∧
        ∀ e ∈ functionRequest.overrides, e.2.entered? ≠ some "FunctionName") ∧
      ∃ s, functionRequest.resolve = .ok s ∧
        s.primaryKey?.map ResolvedField.name = some "FunctionName" ∧
        (functionRequest.under (functionRequest.overrides.insertIdx 1
          ("FunctionName", {}))).resolve = .ok s := by
  have occurs : functionRequest.roster.occurrences "FunctionName" ≠ [] := by
    intro none
    have walked : (functionRequest.roster.occurrences "FunctionName").length = 2 := by cbv
    rw [none] at walked
    cases walked
  have fresh : "FunctionName" ∉ functionRequest.overrides.map Prod.fst := by decide
  have apart : ∀ e ∈ functionRequest.overrides, e.2.entered? ≠ some "FunctionName" := by decide
  have accepted : functionRequest.findings.errors = [] := by cbv
  have key : (functionRequest.findings.fields.find? ResolvedField.isPrimaryKey).map
      ResolvedField.name = some "FunctionName" := by
    cbv
  obtain ⟨s, hs⟩ := functionRequest.resolve_isOk_iff.2 accepted
  refine ⟨⟨occurs, fresh, apart⟩, s, hs, ?_, ?_⟩
  · rw [(resolve_eq_ok_iff.1 hs).2]
    exact key
  · rw [← hs]
    exact resolve_insert_silent functionRequest (functionRequest.overrides.take 1)
      (functionRequest.overrides.drop 1) "FunctionName" occurs fresh apart

end Request

end FieldResolution
