import FieldResolution.Proofs.Resolution.Independence
import FieldResolution.Proofs.Resolution.Alignment

/-!
# The order of the overrides

The order of the overrides puts the names that no shape knows in their order, and so decides which
of those is the first to match a flag.  It reaches nothing else: two orders flatten the same
members, so the runs are aligned (`aligned_under`), and the names of the walk stand before all
others, at the same places (`settledNames_eq_append`).
-/

namespace FieldResolution

theorem Overrides.get_of_perm {o o' : Overrides} (keyed : o.Keyed) (p : o.Perm o')
    (name : String) : o'.get name = o.get name := by
  have keys : (o.map Prod.fst).Perm (o'.map Prod.fst) := p.map Prod.fst
  have keyed' : o'.Keyed := keys.nodup_iff.1 keyed
  by_cases h : name ∈ o.map Prod.fst
  · exact Overrides.get_of_mem keyed' (p.mem_iff.1 (Overrides.mem_of_mem_keys h))
  · rw [Overrides.get_of_not_mem h, Overrides.get_of_not_mem (mt keys.mem_iff.2 h)]

theorem mem_keys_flattening_of_perm {o o' : Overrides} (p : o.Perm o') (parent : String) :
    parent ∈ (flattening o).map Prod.fst ↔ parent ∈ (flattening o').map Prod.fst := by
  simp only [mem_keys_flattening, p.mem_iff, (p.map Prod.fst).mem_iff]

/-- Later entries do not decide whether a search finds an entry that is not among them. -/
theorem find?_append_eq_some_iff {α : Type} {l rest : List α} {p : α → Bool} {a : α}
    (h : a ∉ rest) : (l ++ rest).find? p = some a ↔ l.find? p = some a := by
  rw [List.find?_append, Option.or_eq_some_iff]
  constructor
  · rintro (found | ⟨-, later⟩)
    · exact found
    · exact absurd (List.mem_of_find?_eq_some later) h
  · exact Or.inl

/-- Two fields that differ at most in their place and in the flags that no override decides. -/
structure ResolvedField.SameUpToPlace (f f' : ResolvedField) : Prop where
  fields : f' = { f with
    position := f'.position, isPrimaryKey := f'.isPrimaryKey, isArn := f'.isArn }
  explicit : f.SameExplicitFlags f'

namespace Request

variable {q : Request} {o : Overrides}

/-- The names of the walk are settled before all others. -/
theorem settledNames_eq_append (q : Request) :
    ∃ rest, q.settledNames =
        (Roster.walkNames q.model q.overrides).filter (fun n => (q.fault? n).isNone) ++ rest ∧
      ∀ n ∈ rest, q.roster.occurrences n = [] := by
  have split : q.roster.names = Roster.walkNames q.model q.overrides ++ _ :=
    Roster.names_ofModel q.model q.overrides
  rw [settledNames, split, List.filter_append]
  refine ⟨_, rfl, ?_⟩
  intro n hn
  obtain ⟨e, he, rfl⟩ := List.mem_map.1 (List.mem_filter.1 hn).1
  apply (Roster.occurrences_eq_nil_iff _ _).2
  exact ((Roster.mem_strangers _ _).1 (List.mem_filter.1 he).1).2

section SameEntries

variable (keyed : q.overrides.Keyed) (p : q.overrides.Perm o)

include keyed p

theorem aligned_under : Aligned q (q.under o) where
  names := by
    have parents := mem_keys_flattening_of_perm p
    have strangers : (Roster.strangers q.model q.overrides).Perm (Roster.strangers q.model o) := by
      unfold Roster.strangers
      rw [walk_under parents]
      exact p.filter _
    show (Roster.ofModel q.model q.overrides).names.Perm (Roster.ofModel q.model o).names
    rw [Roster.names_ofModel, Roster.names_ofModel, walkNames_under parents]
    exact List.Perm.append_left _ ((strangers.filter _).map _)
  unknown := by
    unfold unknownErrors
    simp only [occurrences_under (mem_keys_flattening_of_perm p)]
    exact (p.filter _).map _
  directives := Overrides.get_of_perm keyed p
  kinds name := by
    rw [fault?_under (mem_keys_flattening_of_perm p) (Overrides.get_of_perm keyed p name)]

theorem explicit?_asked_under (w : Switch) (name : String) :
    ((q.under o).asked w).explicit? name = (q.asked w).explicit? name := by
  rw [explicit?_asked, explicit?_asked, (aligned_under keyed p).directives]

theorem isCandidate_asked_under (w : Switch) (name : String) :
    ((q.under o).asked w).isCandidate name = (q.asked w).isCandidate name := by
  have slot : ((q.under o).caseAt (name, 0)).slot = (q.caseAt (name, 0)).slot := by
    rw [caseAt_under (mem_keys_flattening_of_perm p) (Overrides.get_of_perm keyed p name)]
  have patterns : ((q.under o).asked w).patterns = (q.asked w).patterns := rfl
  rw [Bool.eq_iff_iff, FlagQuestion.isCandidate_iff, FlagQuestion.isCandidate_iff,
    mem_ineligible_iff, mem_ineligible_iff, slot, patterns,
    (aligned_under keyed p).settledNames_perm.mem_iff]

/-- Whether a name of the walk carries a flag by its name. -/
theorem heuristicOwner?_under_iff {name : String} (occurs : q.roster.occurrences name ≠ [])
    (w : Switch) :
    ((q.under o).asked w).heuristicOwner? = some name ↔
      (q.asked w).heuristicOwner? = some name := by
  have parents := mem_keys_flattening_of_perm p
  have walks : Roster.walkNames q.model o = Roster.walkNames q.model q.overrides :=
    walkNames_under parents
  have faults (n : String) : (q.under o).fault? n = q.fault? n :=
    fault?_under parents (Overrides.get_of_perm keyed p n)
  have on : (q.asked w).switchedOn.Perm ((q.under o).asked w).switchedOn := by
    rw [switchedOn_asked, switchedOn_asked]
    exact (aligned_under keyed p).holders_perm w
  by_cases off : (q.asked w).switchedOn = []
  · have off' : ((q.under o).asked w).switchedOn = [] := (off ▸ on).symm.eq_nil
    obtain ⟨rest, split, bare⟩ := q.settledNames_eq_append
    obtain ⟨rest', split', bare'⟩ := (q.under o).settledNames_eq_append
    have apart : name ∉ rest := fun h => occurs (bare name h)
    have apart' : name ∉ rest' := by
      intro h
      apply occurs
      rw [← occurrences_under parents]
      exact bare' name h
    have names : (q.asked w).names = q.settledNames := rfl
    have names' : ((q.under o).asked w).names = (q.under o).settledNames := rfl
    have table : (q.under o).overrides = o := rfl
    have model : (q.under o).model = q.model := rfl
    rw [FlagQuestion.heuristicOwner?_of_switchedOff off,
      FlagQuestion.heuristicOwner?_of_switchedOff off', names, names', split, split',
      find?_append_eq_some_iff apart, find?_append_eq_some_iff apart', table, model, walks]
    simp only [faults, isCandidate_asked_under keyed p, explicit?_asked_under keyed p]
  · obtain ⟨n, hn⟩ := List.exists_mem_of_ne_nil _ off
    rw [FlagQuestion.heuristicOwner?_of_switchedOn hn,
      FlagQuestion.heuristicOwner?_of_switchedOn (on.mem_iff.1 hn)]

theorem verdict_under_of_occurs {name : String} (occurs : q.roster.occurrences name ≠ [])
    (w : Switch) : (q.under o).verdict w name = q.verdict w name := by
  have owner : (((q.under o).asked w).heuristicOwner? == some name) =
      ((q.asked w).heuristicOwner? == some name) := by
    rw [Bool.eq_iff_iff, beq_iff_eq, beq_iff_eq]
    exact heuristicOwner?_under_iff keyed p occurs w
  unfold verdict FlagQuestion.decision
  rw [explicit?_asked_under keyed p, owner]

omit keyed in
theorem idxOf_names_under {name : String} (occurs : q.roster.occurrences name ≠ []) :
    (q.under o).roster.names.idxOf name = q.roster.names.idxOf name := by
  have parents := mem_keys_flattening_of_perm p
  have occurs' : (q.under o).roster.occurrences name ≠ [] := by
    rw [occurrences_under parents]
    exact occurs
  rw [idxOf_names occurs, idxOf_names occurs']
  exact congrArg _ (walkNames_under parents)

/-- The two fields of a name differ at most in their place and in the flags by name; those of a name
of the walk do not differ. -/
theorem field?_under {s s' : FieldSet} (hs : q.resolve = .ok s)
    (hs' : (q.under o).resolve = .ok s') {name : String} {f : ResolvedField}
    (found : s.field? name = some f) :
    ∃ f', s'.field? name = some f' ∧ f.SameUpToPlace f' ∧
      (q.roster.occurrences name ≠ [] → f' = f) := by
  have aligned := aligned_under keyed p
  obtain ⟨g, g', settled, settled', rfl, answer, explicit⟩ :=
    aligned.exists_settled_of_field? hs hs' found
  have moved := settle_under (mem_keys_flattening_of_perm p) (aligned.directives name) settled
    settled'
  refine ⟨_, answer, ⟨?_, explicit⟩, fun occurs => ?_⟩
  · rw [aligned.flagged_eq, moved]
    rfl
  · have stays : g' = g := by
      have position : g.position = (q.roster.names.idxOf name : Nat) :=
        FieldCase.position_of_settle settled
      rw [moved, idxOf_names_under p occurs, ← position]
    have occurs_g : q.roster.occurrences g.name ≠ [] := by
      rw [FieldCase.name_of_settle settled]
      exact occurs
    rw [stays]
    simp only [flagged, verdict_under_of_occurs keyed p occurs_g]

end SameEntries

/-- The order of the overrides decides nothing about a name that occurs, and of the others only the
place and whether they carry a flag by their name. -/
theorem resolve_under_of_perm (q : Request) (o : Overrides) (keyed : q.overrides.Keyed)
    (p : q.overrides.Perm o) :
    ((∃ s, q.resolve = .ok s) ↔ ∃ s, (q.under o).resolve = .ok s) ∧
      ∀ s s', q.resolve = .ok s → (q.under o).resolve = .ok s' →
        (s.fields.map ResolvedField.name).Perm (s'.fields.map ResolvedField.name) ∧
          ∀ name f, s.field? name = some f → ∃ f', s'.field? name = some f' ∧
            f.SameUpToPlace f' ∧ (q.roster.occurrences name ≠ [] → f' = f) := by
  have aligned := aligned_under keyed p
  refine ⟨aligned.resolve_isOk_iff, fun s s' hs hs' => ⟨aligned.map_name_perm hs hs', ?_⟩⟩
  intro name f found
  exact field?_under keyed p hs hs' found

/-- Two overrides enter one member, and the names of two attributes match the ARN. -/
def topicRequest : Request where
  model :=
    { shapes :=
        [{ name := "CreateInput", members := [⟨"Name", .string, true⟩,
            ⟨"Delivery", .shape 1, false⟩] },
          { name := "DeliveryPolicy", members := [⟨"Protocol", .string, true⟩,
            ⟨"Retries", .primitive .integer, false⟩] }]
      operations := [{ name := "CreateTopic", input := some 0, kind := .create }] }
  resource := "Topic"
  directives :=
    { fields :=
        [("TopicArn", { isAttribute := some true, isReadOnly := some true }),
          ("Endpoint", { redirect := some ⟨"CreateTopic", "Delivery.Protocol"⟩ }),
          ("Arn", { isAttribute := some true, isReadOnly := some true }),
          ("Attempts", { redirect := some ⟨"CreateTopic", "Delivery.Retries"⟩ })] }

/-- The last name comes first, so another name carries the ARN. -/
theorem resolve_under_of_perm_topicRequest :
    topicRequest.overrides.Keyed ∧
      topicRequest.overrides.Perm topicRequest.overrides.reverse ∧
      ∃ s s', topicRequest.resolve = .ok s ∧
        (topicRequest.under topicRequest.overrides.reverse).resolve = .ok s' ∧
        (s.arn?.map ResolvedField.name = some "TopicArn" ∧
          s'.arn?.map ResolvedField.name = some "Arn") ∧
        (∃ f, s.field? "DeliveryRetries" = some f ∧ s'.field? "DeliveryRetries" = some f) ∧
        ∃ f f', s.field? "TopicArn" = some f ∧ s'.field? "TopicArn" = some f' ∧
          f.SameUpToPlace f' := by
  have keyed : topicRequest.overrides.Keyed := by decide
  have p : topicRequest.overrides.Perm topicRequest.overrides.reverse :=
    (List.reverse_perm _).symm
  have accepted : topicRequest.findings.errors = [] := by cbv
  have accepted' : (topicRequest.under topicRequest.overrides.reverse).findings.errors = [] := by
    cbv
  have arn : (topicRequest.findings.fields.find? ResolvedField.isArn).map ResolvedField.name =
      some "TopicArn" := by
    cbv
  have arn' : ((topicRequest.under topicRequest.overrides.reverse).findings.fields.find?
      ResolvedField.isArn).map ResolvedField.name = some "Arn" := by
    cbv
  have names : topicRequest.roster.names =
      ["Name", "DeliveryProtocol", "DeliveryRetries", "TopicArn", "Endpoint", "Arn",
        "Attempts"] := by
    cbv
  have occurs : topicRequest.roster.occurrences "DeliveryRetries" ≠ [] := by
    intro none
    have walked : (topicRequest.roster.occurrences "DeliveryRetries").length = 1 := by cbv
    rw [none] at walked
    cases walked
  obtain ⟨s, hs⟩ := topicRequest.resolve_isOk_iff.2 accepted
  obtain ⟨s', hs'⟩ := (topicRequest.under _).resolve_isOk_iff.2 accepted'
  obtain ⟨-, fields⟩ := (resolve_under_of_perm topicRequest _ keyed p).2 s s' hs hs'
  have asked (name : String) (hn : name ∈ topicRequest.roster.names) :
      ∃ f, s.field? name = some f := by
    obtain ⟨g, -, found⟩ := field?_of_mem_names hs hn
    exact ⟨_, found⟩
  obtain ⟨f, hf⟩ := asked "DeliveryRetries" (by rw [names]; decide)
  obtain ⟨f', hf', -, same⟩ := fields _ _ hf
  obtain ⟨g, hg⟩ := asked "TopicArn" (by rw [names]; decide)
  obtain ⟨g', hg', placed, -⟩ := fields _ _ hg
  refine ⟨keyed, p, s, s', hs, hs', ⟨?_, ?_⟩, ⟨f, hf, ?_⟩, g, g', hg, hg', placed⟩
  · rw [(resolve_eq_ok_iff.1 hs).2]
    exact arn
  · rw [(resolve_eq_ok_iff.1 hs').2]
    exact arn'
  · rw [hf', same occurs]

end Request

end FieldResolution
