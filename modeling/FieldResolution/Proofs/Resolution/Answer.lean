import FieldResolution.Proofs.Resolution.Fault
import FieldResolution.Proofs.Resolution.Flags
import FieldResolution.Proofs.Resolution.Report

/-!
# An answer, name by name

What a run has to say about one name.  Its own faults, those that are no conflict over a flag, are
the one fault for which the name is refused (`ownErrors_eq`).  Its field is what was settled for
the name at its place, together with the verdicts on the three flags (`field?_of_mem_names`); the
place reaches nothing but the position (`settle_at`).  Two runs are compared by these.
-/

namespace FieldResolution

/-- The faults of an answer that are a name's own, and no conflict over a flag. -/
def ownErrors (answer : Except Failure FieldSet) (name : String) : List FieldError :=
  (reportedErrors answer).filter fun e => e.field == name && e.flag?.isNone

theorem filterMap_of_forall_ne {α β : Type} {l : List α} (once : l.Nodup) {a : α} (ha : a ∈ l)
    {f : α → Option β} (others : ∀ b ∈ l, b ≠ a → f b = none) : l.filterMap f = (f a).toList := by
  induction l with
  | nil => cases ha
  | cons b rest ih =>
    rw [List.nodup_cons] at once
    by_cases hb : b = a
    · subst hb
      have later : rest.filterMap f = [] := by
        apply List.filterMap_eq_nil_iff.2
        intro c hc
        apply others c (List.mem_cons_of_mem _ hc)
        rintro rfl
        exact once.1 hc
      rw [List.filterMap_cons, later]
      cases f b <;> rfl
    · have inside : a ∈ rest := List.mem_of_ne_of_mem (Ne.symm hb) ha
      rw [List.filterMap_cons, others b List.mem_cons_self hb]
      exact ih once.2 inside fun c hc => others c (List.mem_cons_of_mem _ hc)

@[simp] theorem ResolvedField.name_decideFlag (f : ResolvedField) (flag : Flag)
    (d : Decision Bool) : (f.decideFlag flag d).name = f.name := by
  unfold ResolvedField.decideFlag ResolvedField.setFlag
  split <;> rfl

/-- The place of a name reaches nothing but the position of its field. -/
theorem FieldCase.settle_at (c : FieldCase) (m : Model) (place : Nat) :
    { c with position := place }.settle m =
      (c.settle m).map fun f => { f with position := place } := by
  have same_slot : FieldCase.slot { c with position := place } = c.slot := rfl
  unfold settle
  rw [same_slot]
  dsimp only
  cases m.fieldType c.occurrences c.directives with
  | error fault => rfl
  | ok type =>
    cases slotFault? c.slot.value c.directives with
    | some fault => rfl
    | none =>
      cases c.directives.comparison c.slot.value with
      | error fault => rfl
      | ok comparison =>
        cases c.directives.listing? c.name c.slot.value with
        | error fault => rfl
        | ok listing =>
          cases c.directives.backoff? c.slot.value with
          | error fault => rfl
          | ok backoff =>
            refine congrArg Except.ok ?_
            show (if c.directives.isOn .isAttribute then _ else _) = _
            split_ifs <;> rfl

namespace Request

variable {q : Request} {s : FieldSet}

/-! ## The faults of a name -/

theorem flag?_of_mem_unknownErrors {e : FieldError} (h : e ∈ q.unknownErrors) : e.flag? = none := by
  obtain ⟨x, -, rfl⟩ := List.mem_map.1 h
  rfl

theorem mem_fieldErrors {e : FieldError} :
    e ∈ q.fieldErrors ↔ e.field ∈ q.roster.names ∧ q.fault? e.field = some e.fault := by
  unfold fieldErrors
  rw [List.mem_filterMap]
  constructor
  · rintro ⟨n, hn, h⟩
    obtain ⟨fault, hf, rfl⟩ := Option.map_eq_some_iff.1 h
    exact ⟨hn, hf⟩
  · rintro ⟨hn, hf⟩
    exact ⟨e.field, hn, Option.map_eq_some_iff.2 ⟨e.fault, hf, rfl⟩⟩

theorem flag?_of_mem_fieldErrors {e : FieldError} (h : e ∈ q.fieldErrors) : e.flag? = none :=
  FieldCase.flag?_of_fault? (mem_fieldErrors.1 h).2

theorem flag?_of_conflict? {w : Switch} {e : FieldError} (h : q.conflict? w = some e) :
    e.flag? = some (.switch w) := by
  unfold conflict? at h
  split at h
  · cases h
    rfl
  · cases h

/-- The faults of an answer that are no conflict over a flag. -/
theorem filter_flagless (q : Request) :
    ((reportedErrors q.resolve).filter fun e => e.flag?.isNone) =
      q.unknownErrors ++ q.fieldErrors := by
  rw [reportedErrors_resolve, errors_findings, List.filter_append, List.filter_append]
  have unknown : (q.unknownErrors.filter fun e => e.flag?.isNone) = q.unknownErrors := by
    apply List.filter_eq_self.2
    intro e he
    rw [flag?_of_mem_unknownErrors he]
    rfl
  have own : (q.fieldErrors.filter fun e => e.flag?.isNone) = q.fieldErrors := by
    apply List.filter_eq_self.2
    intro e he
    rw [flag?_of_mem_fieldErrors he]
    rfl
  have flags : (q.flagErrors.filter fun e => e.flag?.isNone) = [] := by
    apply List.filter_eq_nil_iff.2
    intro e he
    obtain ⟨w, -, hw⟩ := List.mem_filterMap.1 he
    rw [flag?_of_conflict? hw]
    exact Bool.false_ne_true
  rw [unknown, own, flags, List.append_nil]

/-- The flags over which the fields of an answer are in conflict. -/
theorem filterMap_flag? (q : Request) :
    (reportedErrors q.resolve).filterMap FieldError.flag? =
      (singletons.filter fun w => (q.conflict? w).isSome).map .switch := by
  rw [reportedErrors_resolve, errors_findings, List.filterMap_append, List.filterMap_append]
  have unknown : q.unknownErrors.filterMap FieldError.flag? = [] :=
    List.filterMap_eq_nil_iff.2 fun e he => flag?_of_mem_unknownErrors he
  have own : q.fieldErrors.filterMap FieldError.flag? = [] :=
    List.filterMap_eq_nil_iff.2 fun e he => flag?_of_mem_fieldErrors he
  rw [unknown, own, List.nil_append, List.nil_append, flagErrors, List.filterMap_filterMap,
    ← List.filterMap_eq_map, List.filterMap_filter]
  apply List.filterMap_congr
  intro w _
  cases h : q.conflict? w with
  | none => rfl
  | some e => exact flag?_of_conflict? h

theorem mem_walkNames_iff {name : String} :
    name ∈ Roster.walkNames q.model q.overrides ↔ q.roster.occurrences name ≠ [] := by
  rw [roster, ne_eq, Roster.occurrences_eq_nil_iff, not_not]
  exact List.mem_eraseDups

theorem mem_names_of_occurs {name : String} (occurs : q.roster.occurrences name ≠ []) :
    name ∈ q.roster.names := by
  rw [roster, Roster.names_ofModel]
  exact List.mem_append_left _ (mem_walkNames_iff.2 occurs)

theorem mem_names_iff (keyed : q.overrides.Keyed) {name : String} :
    name ∈ q.roster.names ↔
      q.roster.occurrences name ≠ [] ∨ Roster.isSelfTyped (q.overrides.get name) = true := by
  constructor
  · intro known
    rw [roster, Roster.names_ofModel, List.mem_append] at known
    rcases known with walked | extra
    · exact Or.inl (mem_walkNames_iff.1 walked)
    · obtain ⟨e, he, rfl⟩ := List.mem_map.1 extra
      obtain ⟨stray, typed⟩ := List.mem_filter.1 he
      rw [Overrides.get_of_mem keyed ((Roster.mem_strangers _ _).1 stray).1]
      exact Or.inr typed
  · rintro (occurs | typed)
    · exact mem_names_of_occurs occurs
    · by_cases occurs : q.roster.occurrences name = []
      · have entry : name ∈ q.overrides.map Prod.fst := by
          by_contra absent
          rw [Overrides.get_of_not_mem absent] at typed
          cases typed
        have stray := (Roster.mem_strangers q.model q.overrides).2
          ⟨Overrides.mem_of_mem_keys entry, (Roster.occurrences_eq_nil_iff _ _).1 occurs⟩
        rw [roster, Roster.names_ofModel]
        exact List.mem_append_right _
          (List.mem_map_of_mem (f := Prod.fst) (List.mem_filter.2 ⟨stray, typed⟩))
      · exact mem_names_of_occurs occurs

/-- The names of the walk keep their places, whatever stands behind them. -/
theorem idxOf_names {name : String} (occurs : q.roster.occurrences name ≠ []) :
    q.roster.names.idxOf name = (Roster.walkNames q.model q.overrides).idxOf name := by
  rw [roster, Roster.names_ofModel, List.idxOf_append_of_mem (mem_walkNames_iff.2 occurs)]

theorem field_ne_of_mem_unknownErrors (keyed : q.overrides.Keyed) {name : String}
    (hn : name ∈ q.roster.names) {e : FieldError} (he : e ∈ q.unknownErrors) : e.field ≠ name := by
  obtain ⟨x, hx, rfl⟩ := List.mem_map.1 he
  obtain ⟨entry, stray⟩ := List.mem_filter.1 hx
  rw [Bool.and_eq_true, List.isEmpty_iff, Bool.not_eq_true'] at stray
  rintro rfl
  rcases (mem_names_iff keyed).1 hn with occurs | typed
  · exact occurs stray.1
  · rw [Overrides.get_of_mem keyed entry, stray.2] at typed
    cases typed

/-- The only fault of a name's own is the one for which it is refused. -/
theorem ownErrors_eq (keyed : q.overrides.Keyed) {name : String} (hn : name ∈ q.roster.names) :
    ownErrors q.resolve name = ((q.fault? name).map (FieldError.mk name)).toList := by
  have once : q.roster.names.Nodup := Roster.nodup_names_ofModel q.model q.overrides keyed
  have unknown : (q.unknownErrors.filter fun e => e.field == name) = [] := by
    apply List.filter_eq_nil_iff.2
    intro e he
    rw [beq_iff_eq]
    exact field_ne_of_mem_unknownErrors keyed hn he
  rw [ownErrors, ← List.filter_filter, filter_flagless, List.filter_append, unknown,
    List.nil_append, fieldErrors, List.filter_filterMap, filterMap_of_forall_ne once hn]
  · cases q.fault? name with
    | none => rfl
    | some fault => simp
  · intro n _ other
    cases q.fault? n with
    | none => rfl
    | some fault => simp [Option.filter, other]

/-! ## The field of a name -/

theorem mem_of_field? {name : String} {f : ResolvedField} (h : s.field? name = some f) :
    f ∈ s.fields ∧ f.name = name := by
  unfold FieldSet.field? at h
  have named := List.find?_some h
  exact ⟨List.mem_of_find?_eq_some h, beq_iff_eq.1 named⟩

/-- What is decided about a flag of a name. -/
def verdict (q : Request) (w : Switch) (name : String) : Decision Bool :=
  (q.asked w).decision (q.asked w).heuristicOwner? name

theorem mark_eq_verdict (h : q.resolve = .ok s) {f : ResolvedField} (hf : f ∈ s.fields)
    {w : Switch} (hw : w ∈ singletons) :
    f.mark w = ((q.verdict w f.name).value, some (q.verdict w f.name).source) :=
  mark_of_mem_fields h hf hw

theorem mem_ineligible_iff {w : Switch} {name : String} :
    name ∈ (q.asked w).ineligible ↔
      name ∈ q.settledNames ∧ (q.caseAt (name, 0)).slot.value = .ignored := by
  have told {f : ResolvedField} (hf : f ∈ q.findings.settled) :
      f.slot = (q.caseAt (f.name, 0)).slot.value := by
    obtain ⟨e, -, settled⟩ := exists_case_of_mem_settled hf
    have name : f.name = e.1 := FieldCase.name_of_settle settled
    have slot : f.slot = (q.caseAt e).slot.value := FieldCase.slot_of_settle settled
    rw [name, slot]
    rfl
  rw [← names_settled]
  show name ∈ (q.findings.settled.filter fun f => f.slot == .ignored).map ResolvedField.name ↔ _
  simp only [List.mem_map, List.mem_filter, beq_iff_eq]
  constructor
  · rintro ⟨f, ⟨hf, ignored⟩, rfl⟩
    exact ⟨⟨f, hf, rfl⟩, (told hf).symm.trans ignored⟩
  · rintro ⟨⟨f, hf, rfl⟩, ignored⟩
    exact ⟨f, ⟨hf, (told hf).trans ignored⟩, rfl⟩

/-- A settled field with the verdicts on its flags. -/
def flagged (q : Request) (f : ResolvedField) : ResolvedField :=
  { f with
    isPrimaryKey := (q.verdict .isPrimaryKey f.name).value
    isArn := (q.verdict .isArn f.name).value
    isOwnerAccountId := (q.verdict .isOwnerAccountId f.name).value
    provenance := f.provenance ++ singletons.map fun w => (w.key, (q.verdict w f.name).source) }

theorem applyFlags_eq_flagged {f : ResolvedField} (known : f.name ∈ q.settledNames) :
    q.assignments.foldl Findings.applyFlag f = q.flagged f := by
  have decided (w : Switch) :
      (q.asked w).assignment.decisions.lookup f.name = some (q.verdict w f.name) :=
    FlagQuestion.lookup_decisions known
  have step (g : ResolvedField) (hg : g.name = f.name) (w : Switch) :
      Findings.applyFlag g (q.asked w).assignment = g.decideFlag (.switch w) (q.verdict w f.name) :=
    Findings.applyFlag_assign (fun _ => rfl) decided hg w
  rw [assignments_eq]
  simp only [singletons, List.map_cons, List.map_nil, List.foldl_cons, List.foldl_nil, step,
    ResolvedField.name_decideFlag]
  simp [flagged, singletons, ResolvedField.decideFlag, ResolvedField.setFlag, Flag.key]

theorem getElem?_fields (h : q.resolve = .ok s) {i : Nat} {name : String}
    (hn : q.roster.names[i]? = some name) :
    ∃ g, (q.caseAt (name, i)).settle q.model = .ok g ∧ s.fields[i]? = some (q.flagged g) := by
  have place : (s.fields[i]?).map ResolvedField.name = some name := by
    rw [← List.getElem?_map, map_name_fields h, hn]
  obtain ⟨f, hf, name_f⟩ := Option.map_eq_some_iff.1 place
  obtain ⟨g, hg, rfl⟩ := exists_settled_of_mem_fields h (List.mem_of_getElem? hf)
  obtain ⟨e, he, settled⟩ := exists_case_of_mem_settled hg
  have known : g.name ∈ q.settledNames := by
    rw [← names_settled]
    exact List.mem_map_of_mem hg
  rw [applyFlags_eq_flagged known] at hf name_f
  have at_name : e.1 = name := (FieldCase.name_of_settle settled).symm.trans name_f
  have at_place : e.2 = i := by
    have position := position_of_getElem? h hf
    have same : (e.2 : Int) = g.position := (FieldCase.position_of_settle settled).symm
    exact Int.ofNat.inj (same.trans position)
  obtain ⟨n, k⟩ := e
  cases at_name
  cases at_place
  exact ⟨g, settled, hf⟩

/-- The field of a name is what was settled for it at its place, with the verdicts on its flags. -/
theorem field?_of_mem_names (h : q.resolve = .ok s) {name : String}
    (hn : name ∈ q.roster.names) :
    ∃ g, (q.caseAt (name, q.roster.names.idxOf name)).settle q.model = .ok g ∧
      s.field? name = some (q.flagged g) := by
  have place : q.roster.names[q.roster.names.idxOf name]? = some name := List.getElem?_idxOf hn
  obtain ⟨g, settled, hf⟩ := getElem?_fields h place
  refine ⟨g, settled, ?_⟩
  unfold FieldSet.field?
  rw [List.find?_eq_some_iff_getElem]
  obtain ⟨hi, hget⟩ := List.getElem?_eq_some_iff.1 hf
  have same : (q.flagged g).name = name := FieldCase.name_of_settle settled
  refine ⟨beq_iff_eq.2 same, _, hi, hget, fun j hj => ?_⟩
  have earlier : q.roster.names[j]? ≠ some name := by
    intro hjn
    obtain ⟨hlt, heq⟩ := List.getElem?_eq_some_iff.1 hjn
    have differs := List.not_of_lt_findIdx hj
    rw [heq, beq_self_eq_true] at differs
    cases differs
  rw [← map_name_fields h, List.getElem?_map] at earlier
  have hlt : j < s.fields.length := by omega
  rw [List.getElem?_eq_getElem hlt, Option.map_some] at earlier
  simpa using earlier

theorem exists_settled_of_field? (h : q.resolve = .ok s) {name : String} {f : ResolvedField}
    (found : s.field? name = some f) :
    name ∈ q.roster.names ∧
      ∃ g, (q.caseAt (name, q.roster.names.idxOf name)).settle q.model = .ok g ∧
        f = q.flagged g := by
  obtain ⟨hf, named⟩ := mem_of_field? found
  have known : name ∈ q.roster.names := by
    rw [← map_name_fields h, ← named]
    exact List.mem_map_of_mem hf
  obtain ⟨g, settled, answer⟩ := field?_of_mem_names h known
  exact ⟨known, g, settled, Option.some.inj (found.symm.trans answer)⟩

end Request

end FieldResolution
