import FieldResolution.Proofs.Resolution.Run

/-!
# When a resource is resolved

A run answers with the fields of a resource exactly if the overrides keep to three rules: a name
without occurrences can be typed on its own, the directives of every name are admissible where the
name occurs, and no flag is switched on for two names.  The rules speak of the roster and the
overrides only, not of the steps of a run.
-/

namespace FieldResolution

theorem Overrides.mem_of_mem_keys {o : Overrides} {name : String} (h : name ∈ o.map Prod.fst) :
    (name, o.get name) ∈ o := by
  unfold Overrides.get
  induction o with
  | nil => simp at h
  | cons e rest ih =>
    rw [List.lookup_cons]
    by_cases hn : name = e.1
    · subst hn
      simp
    · rw [List.map_cons, List.mem_cons] at h
      rw [beq_false_of_ne hn]
      exact List.mem_cons_of_mem _ (ih (h.resolve_left hn))

theorem Roster.occurs_or_overridden {m : Model} {o : Overrides} {name : String}
    (h : name ∈ (ofModel m o).names) :
    (ofModel m o).occurrences name ≠ [] ∨ name ∈ o.map Prod.fst := by
  rw [names_ofModel, List.mem_append] at h
  rcases h with h | h
  · refine Or.inl fun hnil => ?_
    exact (occurrences_eq_nil_iff m o).1 hnil (List.mem_eraseDups.1 h)
  · obtain ⟨e, he, rfl⟩ := List.mem_map.1 h
    exact Or.inr (List.mem_map_of_mem ((mem_strangers m o).1 (List.mem_filter.1 he).1).1)

namespace Request

variable {q : Request}

/-- What the overrides of a resource keep to if all its fields are resolved. -/
structure Acceptable (q : Request) : Prop where
  strangers_typed : ∀ e ∈ q.overrides, q.roster.occurrences e.1 = [] →
    e.2.redirect.isSome = true ∨ e.2.isAttribute = some true
  names_admissible : ∀ n ∈ q.roster.names,
    Admissible q.model (q.roster.occurrences n) (q.overrides.get n)
  flags_single : ∀ w ∈ singletons,
    (q.roster.names.filter fun n => (q.overrides.get n).isOn w).length ≤ 1

theorem unknownErrors_eq_nil_iff :
    q.unknownErrors = [] ↔ ∀ e ∈ q.overrides, q.roster.occurrences e.1 = [] →
      e.2.redirect.isSome = true ∨ e.2.isAttribute = some true := by
  simp only [unknownErrors, List.map_eq_nil_iff, List.filter_eq_nil_iff, Bool.and_eq_true,
    List.isEmpty_iff, Bool.not_eq_true', not_and, Bool.not_eq_false, ← Roster.isSelfTyped_iff]

theorem fieldErrors_eq_nil_iff :
    q.fieldErrors = [] ↔ ∀ n ∈ q.roster.names, q.fault? n = none := by
  simp [fieldErrors]

theorem fault?_eq_none_iff {name : String} :
    q.fault? name = none ↔
      Admissible q.model (q.roster.occurrences name) (q.overrides.get name) ∧
        (Roster.isSelfTyped (q.overrides.get name) = true ∨ q.roster.occurrences name ≠ []) :=
  FieldCase.fault?_eq_none_iff

theorem settledNames_eq (h : ∀ n ∈ q.roster.names, q.fault? n = none) :
    q.settledNames = q.roster.names := by
  unfold settledNames
  refine List.filter_eq_self.2 fun n hn => ?_
  rw [h n hn]
  rfl

theorem flagErrors_eq_nil_iff : q.flagErrors = [] ↔ ∀ w ∈ singletons, (q.holders w).length ≤ 1 := by
  simp only [flagErrors, List.filterMap_eq_nil_iff, conflict?_eq_none_iff]

/-- The fields of a resource are resolved if and only if its overrides are acceptable. -/
theorem resolve_accepts_iff (q : Request) : (∃ s, q.resolve = .ok s) ↔ q.Acceptable := by
  rw [resolve_isOk_iff, errors_findings, List.append_eq_nil_iff, List.append_eq_nil_iff,
    unknownErrors_eq_nil_iff, fieldErrors_eq_nil_iff, flagErrors_eq_nil_iff]
  constructor
  · rintro ⟨⟨strangers, settled⟩, flags⟩
    refine ⟨strangers, fun n hn => (fault?_eq_none_iff.1 (settled n hn)).1, fun w hw => ?_⟩
    rw [← settledNames_eq settled]
    exact flags w hw
  · rintro ⟨strangers, admissible, flags⟩
    have settled : ∀ n ∈ q.roster.names, q.fault? n = none := by
      intro n hn
      refine fault?_eq_none_iff.2 ⟨admissible n hn, ?_⟩
      by_cases hocc : q.roster.occurrences n = []
      · have overridden := (Roster.occurs_or_overridden hn).resolve_left (not_not_intro hocc)
        have typed := strangers _ (Overrides.mem_of_mem_keys overridden) hocc
        exact Or.inl (Roster.isSelfTyped_iff.2 typed)
      · exact Or.inr hocc
    refine ⟨⟨strangers, settled⟩, fun w hw => ?_⟩
    rw [holders, settledNames_eq settled]
    exact flags w hw

end Request

end FieldResolution
