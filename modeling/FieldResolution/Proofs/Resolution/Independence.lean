import FieldResolution.Proofs.Field.Walk
import FieldResolution.Proofs.Resolution.Answer

/-!
# One override among others

What the overrides of other names may do to a name: flatten members, and take part in the
assignment of flags.  Where two tables flatten the same members, they walk the model alike
(`occurrences_under`), so a name with the same directives in both is refused for the same fault
(`fault?_under`) or settled with the same decisions (`settle_under`); only its place may differ.
-/

namespace FieldResolution

/-- The field without its place and without what is decided about its flags. -/
def ResolvedField.own (f : ResolvedField) : ResolvedField :=
  { f with
    position := 0
    isPrimaryKey := false
    isArn := false
    isOwnerAccountId := false
    provenance := f.provenance.filter fun e =>
      !(Request.singletons.map Switch.key).contains e.1 }

namespace Request

variable {q : Request} {o : Overrides}

/-- The request under other overrides. -/
def under (q : Request) (o : Overrides) : Request :=
  { q with directives := { q.directives with fields := o } }

theorem own_flagged (q : Request) (f : ResolvedField) : (q.flagged f).own = f.own := by
  have marks : ((singletons.map fun w => (w.key, (q.verdict w f.name).source)).filter fun e =>
      !(singletons.map Switch.key).contains e.1) = [] := by
    apply List.filter_eq_nil_iff.2
    intro e he
    obtain ⟨w, hw, rfl⟩ := List.mem_map.1 he
    simp [List.mem_map_of_mem hw]
  unfold ResolvedField.own flagged
  simp only [List.filter_append, marks, List.append_nil]

section SameMembers

variable (parents : ∀ p,
  p ∈ (flattening q.overrides).map Prod.fst ↔ p ∈ (flattening o).map Prod.fst)

include parents

theorem walk_under : Roster.walk q.model o = Roster.walk q.model q.overrides :=
  (q.model.walk_eq_of_parents parents).symm

theorem walkNames_under : Roster.walkNames q.model o = Roster.walkNames q.model q.overrides := by
  unfold Roster.walkNames
  rw [walk_under parents]

theorem occurrences_under (name : String) :
    (q.under o).roster.occurrences name = q.roster.occurrences name := by
  show (Roster.ofModel q.model o).occurrences name =
    (Roster.ofModel q.model q.overrides).occurrences name
  rw [Roster.occurrences_ofModel, Roster.occurrences_ofModel, walk_under parents]

variable {name : String} (same : o.get name = q.overrides.get name)

include same

theorem caseAt_under (place : Nat) : (q.under o).caseAt (name, place) = q.caseAt (name, place) := by
  have directives : (q.under o).overrides.get name = q.overrides.get name := same
  unfold caseAt
  rw [occurrences_under parents, directives]

theorem fault?_under : (q.under o).fault? name = q.fault? name := by
  unfold fault?
  rw [caseAt_under parents same]
  rfl

theorem settle_under {i j : Nat} {g g' : ResolvedField}
    (hg : (q.caseAt (name, i)).settle q.model = .ok g)
    (hg' : ((q.under o).caseAt (name, j)).settle q.model = .ok g') :
    g' = { g with position := j } := by
  rw [caseAt_under parents same] at hg'
  have moved := (q.caseAt (name, i)).settle_at q.model j
  rw [hg] at moved
  exact Except.ok.inj (hg'.symm.trans moved)

theorem mem_names_under (keyed : q.overrides.Keyed) (keyed' : o.Keyed)
    (known : name ∈ q.roster.names) : name ∈ (q.under o).roster.names := by
  have table : (q.under o).overrides.Keyed := keyed'
  rw [mem_names_iff keyed, ← same] at known
  rw [mem_names_iff table, occurrences_under parents]
  exact known

end SameMembers

/-- Overrides of other names that flatten the same members change nothing about a name but its
place and its flags: it has the same faults of its own, and on success the same field otherwise. -/
theorem resolve_under_of_get_eq (q : Request) (o : Overrides) (keyed : q.overrides.Keyed)
    (keyed' : o.Keyed)
    (parents : ∀ p, p ∈ (flattening q.overrides).map Prod.fst ↔ p ∈ (flattening o).map Prod.fst)
    (name : String) (known : name ∈ q.roster.names)
    (same : o.get name = q.overrides.get name) :
    ownErrors (q.under o).resolve name = ownErrors q.resolve name ∧
      ∀ s s', q.resolve = .ok s → (q.under o).resolve = .ok s' →
        ∃ f f', s.field? name = some f ∧ s'.field? name = some f' ∧ f'.own = f.own := by
  have known' : name ∈ (q.under o).roster.names := mem_names_under parents same keyed keyed' known
  have table : (q.under o).overrides.Keyed := keyed'
  constructor
  · rw [ownErrors_eq table known', ownErrors_eq keyed known, fault?_under parents same]
  · intro s s' hs hs'
    obtain ⟨g, settled, found⟩ := field?_of_mem_names hs known
    obtain ⟨g', settled', found'⟩ := field?_of_mem_names hs' known'
    refine ⟨_, _, found, found', ?_⟩
    rw [own_flagged, own_flagged, settle_under parents same settled settled']
    rfl

/-- Overrides for the functions of `functionRequest` that enter the same member by another path, put
one more name before the policy, and let the name of the function be its key. -/
def functionOverrides : Overrides :=
  [("Note", { isAttribute := some true }),
    ("CodeLayers", { redirect := some ⟨"CreateFunction", "Code.Layers"⟩ }),
    ("FunctionName", { isPrimaryKey := some true, isImmutable := some true }),
    ("Policy", { isAttribute := some true })]

theorem resolve_under_of_get_eq_functionOverrides :
    functionRequest.overrides.Keyed ∧ functionOverrides.Keyed ∧
      (∀ p, p ∈ (flattening functionRequest.overrides).map Prod.fst ↔
        p ∈ (flattening functionOverrides).map Prod.fst) ∧
      "Policy" ∈ functionRequest.roster.names ∧
      functionOverrides.get "Policy" = functionRequest.overrides.get "Policy" ∧
      ownErrors (functionRequest.under functionOverrides).resolve "Policy" =
        ownErrors functionRequest.resolve "Policy" ∧
      ∃ s s' f f', functionRequest.resolve = .ok s ∧
        (functionRequest.under functionOverrides).resolve = .ok s' ∧
        s.field? "Policy" = some f ∧ s'.field? "Policy" = some f' ∧ f'.own = f.own := by
  have keyed : functionRequest.overrides.Keyed := by decide
  have keyed' : functionOverrides.Keyed := by decide
  have flat : (flattening functionRequest.overrides).map Prod.fst = ["Code"] := by cbv
  have flat' : (flattening functionOverrides).map Prod.fst = ["Code"] := by cbv
  have parents (p : String) : p ∈ (flattening functionRequest.overrides).map Prod.fst ↔
      p ∈ (flattening functionOverrides).map Prod.fst := by
    rw [flat, flat']
  have names : functionRequest.roster.names =
      ["FunctionName", "CodeImageUri", "CodeLayers", "CodeLocation", "FunctionArn", "Policy"] := by
    cbv
  have known : "Policy" ∈ functionRequest.roster.names := by
    rw [names]
    decide
  have accepted : functionRequest.findings.errors = [] := by cbv
  have accepted' : (functionRequest.under functionOverrides).findings.errors = [] := by cbv
  obtain ⟨s, hs⟩ := functionRequest.resolve_isOk_iff.2 accepted
  obtain ⟨s', hs'⟩ := (functionRequest.under functionOverrides).resolve_isOk_iff.2 accepted'
  obtain ⟨errors, fields⟩ := resolve_under_of_get_eq functionRequest functionOverrides keyed keyed'
    parents "Policy" known rfl
  obtain ⟨f, f', hf, hf', same⟩ := fields s s' hs hs'
  exact ⟨keyed, keyed', parents, known, rfl, errors, s, s', f, f', hs, hs', hf, hf', same⟩

end Request

end FieldResolution
