import FieldResolution.Proofs.Model.Extension
import FieldResolution.Proofs.Model.Loaded
import FieldResolution.Proofs.Model.Structures
import FieldResolution.Proofs.Resolution.Independence

/-!
# Fields of a growing model

A model grows by shapes and operations behind those that it has.  The walk of the longer model
begins with that of the shorter one, so every name that occurs keeps its place and its first
occurrence, and has perhaps more of them (`occurrences_withModel`).  Further occurrences can only
take away an agreement of types (`agree_of_agree`) and raise a slot (`decideSlot_of_heuristic`).
-/

namespace FieldResolution

/-! ## Slots -/

/-- How much a slot says: an ignored field is on neither side, a status field on one. -/
def Slot.rank : Slot → Nat
  | ignored => 0
  | status => 1
  | spec => 2

section Slots

variable {occurrences occurrences' : List Occurrence} {d : FieldDirectives}

theorem rank_impliedSlot_le (sub : occurrences ⊆ occurrences') :
    (impliedSlot occurrences).rank ≤ (impliedSlot occurrences').rank := by
  have kept {p : Occurrence → Bool} (h : occurrences.any p = true) : occurrences'.any p = true := by
    obtain ⟨o, ho, hp⟩ := List.any_eq_true.1 h
    exact List.any_eq_true.2 ⟨o, sub ho, hp⟩
  unfold impliedSlot
  by_cases create : occurrences.any Occurrence.isCreateInput = true
  · rw [if_pos create, if_pos (kept create)]
  · rw [if_neg create]
    by_cases output : occurrences.any Occurrence.isStatusOutput = true
    · rw [if_pos output, if_pos (kept output)]
      split_ifs <;> decide
    · rw [if_neg output]
      exact Nat.zero_le _

theorem source_directedSlot? (occurs : occurrences ≠ []) {decision : Decision Slot}
    (h : directedSlot? occurrences d = some decision) : decision.source = .explicit := by
  unfold directedSlot? at h
  rw [List.isEmpty_eq_false_iff.2 occurs, Bool.and_false] at h
  by_cases ignored : d.isOn .isIgnored = true
  · rw [if_pos ignored] at h
    cases h
    rfl
  · rw [if_neg ignored] at h
    cases hr : d.isReadOnly with
    | some b => cases b <;> rw [hr] at h <;> cases h <;> rfl
    | none =>
      rw [hr] at h
      by_cases redirected : d.redirect.isSome = true
      · simp only [redirected, if_true] at h
        cases h
        rfl
      · simp [redirected] at h

theorem directedSlot?_eq (occurs : occurrences ≠ []) (occurs' : occurrences' ≠ []) :
    directedSlot? occurrences' d = directedSlot? occurrences d := by
  unfold directedSlot?
  rw [List.isEmpty_eq_false_iff.2 occurs, List.isEmpty_eq_false_iff.2 occurs']

/-- Further occurrences leave a slot to the occurrences, and never lower it. -/
theorem decideSlot_of_heuristic (sub : occurrences ⊆ occurrences') (occurs : occurrences ≠ [])
    (h : (decideSlot occurrences d).source = .heuristic) :
    (decideSlot occurrences' d).source = .heuristic ∧
      (decideSlot occurrences d).value.rank ≤ (decideSlot occurrences' d).value.rank := by
  have rank := rank_impliedSlot_le sub
  have occurs' : occurrences' ≠ [] := by
    rintro rfl
    exact occurs (List.subset_nil.1 sub)
  unfold decideSlot at h ⊢
  rw [directedSlot?_eq occurs occurs']
  cases directed : directedSlot? occurrences d with
  | some decision =>
    rw [directed] at h
    rw [source_directedSlot? occurs directed] at h
    cases h
  | none =>
    rw [directed] at h
    dsimp only at h ⊢
    have kept : ¬ isKept occurrences d = true := by
      intro kept
      rw [if_pos kept] at h
      cases h
    -- what was not kept before was not ignored, or no directive keeps it
    have kept' : ¬ isKept occurrences' d = true := by
      unfold isKept at kept ⊢
      intro now
      apply kept
      rw [Bool.and_eq_true, beq_iff_eq] at now ⊢
      refine ⟨?_, now.2⟩
      rw [now.1] at rank
      cases hs : impliedSlot occurrences with
      | ignored => rfl
      | _ =>
        rw [hs] at rank
        exact absurd rank (by decide)
    rw [if_neg kept', if_neg kept]
    exact ⟨rfl, rank⟩

end Slots

/-! ## Types -/

namespace Model

variable {m m' : Model} {occurrences occurrences' : List Occurrence} {d : FieldDirectives}

theorem closedType_of_fieldType (closed : m.Closed)
    (types : ∀ o ∈ occurrences, m.ClosedType o.type) {t : MemberType}
    (h : m.fieldType occurrences d = .ok t) : m.ClosedType t := by
  obtain ⟨r, found, -, -, hf, rfl⟩ | ⟨-, -, rfl⟩ | ⟨-, -, common⟩ := fieldType_eq_ok_iff.1 h
  · exact closed.closedType_of_follows hf
  · intro i hi
    cases hi
  · obtain ⟨first, rest, rfl, rfl⟩ := exists_first_of_commonType common
    exact types first List.mem_cons_self

/-- A type that the occurrences of a shorter model gave is given by those of a longer one. -/
theorem Extends.fieldType_eq (h : m.Extends m') (closed : m.Closed)
    (p : occurrences <+: occurrences') {t t' : MemberType}
    (ht : m.fieldType occurrences d = .ok t) (ht' : m'.fieldType occurrences' d = .ok t') :
    t' = t := by
  obtain ⟨r, found, hr, off, hf, rfl⟩ | ⟨hr, on, rfl⟩ | ⟨hr, off, common⟩ :=
    fieldType_eq_ok_iff.1 ht
  · have led := h.follows_eq_ok closed hf
    exact Except.ok.inj (ht'.symm.trans
      (fieldType_eq_ok_iff.2 (Or.inl ⟨r, found, hr, off, led, rfl⟩)))
  · exact Except.ok.inj (ht'.symm.trans
      (fieldType_eq_ok_iff.2 (Or.inr (Or.inl ⟨hr, on, rfl⟩))))
  · rw [fieldType_eq_commonType hr off] at ht'
    obtain ⟨first, rest, rfl, rfl⟩ := exists_first_of_commonType common
    obtain ⟨first', rest', rfl, rfl⟩ := exists_first_of_commonType ht'
    rw [(List.cons_prefix_cons.1 p).1]

/-- Occurrences that disagree still do when there are more of them. -/
theorem Extends.agree_of_agree (h : m.Extends m') (closed : m.Closed)
    (types : ∀ o ∈ occurrences, m.ClosedType o.type) (sub : occurrences ⊆ occurrences')
    (agree : m'.Agree occurrences') : m.Agree occurrences := by
  intro x hx y hy
  rw [← h.signature_eq closed (types x hx), ← h.signature_eq closed (types y hy)]
  exact agree x (sub hx) y (sub hy)

end Model

/-! ## Fields -/

namespace FieldCase

variable {c : FieldCase}

/-- The path of a field is read off its directives and its first occurrence. -/
theorem sourcePath?_of_prefix {occurrences : List Occurrence} {place : Nat}
    (p : c.occurrences <+: occurrences) (occurs : c.occurrences ≠ []) :
    FieldCase.sourcePath? { c with position := place, occurrences } = c.sourcePath? := by
  have origin : FieldCase.originPath? { c with position := place, occurrences } =
      c.originPath? := by
    obtain ⟨more, rfl⟩ := p
    unfold originPath?
    cases h : c.occurrences with
    | nil => exact absurd h occurs
    | cons first rest => rfl
  unfold sourcePath?
  rw [origin]

end FieldCase

/-- What a field keeps when its model grows: its place, its type and where it comes from, and its
slot unless further occurrences raise it. -/
structure ResolvedField.KeptBy (f f' : ResolvedField) : Prop where
  position : f'.position = f.position
  type : f'.type = f.type
  typeName : f'.typeName = f.typeName
  sourceOperation : f'.sourceOperation = f.sourceOperation
  sourcePath : f'.sourcePath = f.sourcePath
  slot : f.provenanceOf? "slot" = some .heuristic →
    f'.provenanceOf? "slot" = some .heuristic ∧ f.slot.rank ≤ f'.slot.rank

namespace Request

variable {q : Request} {m' : Model}

/-- The request of another model. -/
def withModel (q : Request) (m : Model) : Request := { q with model := m }

theorem provenanceOf?_slot_flagged {c : FieldCase} {m : Model} {g : ResolvedField}
    (h : c.settle m = .ok g) (q : Request) :
    (q.flagged g).provenanceOf? "slot" = some c.slot.source := by
  unfold ResolvedField.provenanceOf? flagged
  rw [FieldCase.provenance_of_settle h]
  rfl

theorem closedType_of_mem_occurrences (closed : q.model.Closed) {name : String} :
    ∀ o ∈ q.roster.occurrences name, q.model.ClosedType o.type := by
  intro o ho
  rw [roster, Roster.occurrences_ofModel] at ho
  obtain ⟨e, he, rfl⟩ := List.mem_map.1 ho
  exact Model.closedType_of_mem_walk closed (List.mem_filter.1 he).1

/-- Only a name of its own is refused for its types. -/
theorem mem_fieldErrors_of_typeAmbiguity {e : FieldError} (he : e ∈ reportedErrors q.resolve)
    (kind : e.fault.kind = .typeAmbiguity) : e ∈ q.fieldErrors := by
  have flagless : e.flag?.isNone = true := by
    unfold FieldError.flag? FieldFault.flag?
    cases hf : e.fault with
    | flagTaken f owner =>
      rw [hf] at kind
      cases kind
    | _ => rfl
  have listed : e ∈ q.unknownErrors ++ q.fieldErrors := by
    rw [← filter_flagless]
    exact List.mem_filter.2 ⟨he, flagless⟩
  rcases List.mem_append.1 listed with unknown | own
  · obtain ⟨x, -, rfl⟩ := List.mem_map.1 unknown
    cases kind
  · exact own

section Growth

variable (h : q.model.Extends m') (closed : q.model.Closed)

include h closed

theorem walkNames_withModel :
    Roster.walkNames q.model q.overrides <+: Roster.walkNames m' q.overrides := by
  have keys : (Roster.walk q.model q.overrides).map Prod.fst <+:
      (Roster.walk m' q.overrides).map Prod.fst := (h.walk_prefix closed _).map _
  obtain ⟨rest, hrest⟩ := keys
  unfold Roster.walkNames
  rw [← hrest, List.eraseDups_append]
  exact List.prefix_append _ _

theorem occurrences_withModel (name : String) :
    q.roster.occurrences name <+: (q.withModel m').roster.occurrences name := by
  show (Roster.ofModel q.model q.overrides).occurrences name <+:
    (Roster.ofModel m' q.overrides).occurrences name
  rw [Roster.occurrences_ofModel, Roster.occurrences_ofModel]
  exact ((h.walk_prefix closed _).filter _).map _

variable {name : String} (occurs : q.roster.occurrences name ≠ [])

include occurs

theorem occurs_withModel : (q.withModel m').roster.occurrences name ≠ [] := by
  intro none
  have p := occurrences_withModel h closed name
  rw [none] at p
  exact occurs (List.prefix_nil.1 p)

theorem idxOf_names_withModel :
    (q.withModel m').roster.names.idxOf name = q.roster.names.idxOf name := by
  obtain ⟨rest, hrest⟩ := walkNames_withModel h closed
  rw [idxOf_names occurs, idxOf_names (occurs_withModel h closed occurs)]
  show (Roster.walkNames m' q.overrides).idxOf name = _
  rw [← hrest, List.idxOf_append_of_mem (mem_walkNames_iff.2 occurs)]

/-- A name that is refused for its types is refused for them in the longer model. -/
theorem kind_fault?_withModel
    (ambiguous : (q.fault? name).map FieldFault.kind = some .typeAmbiguity) :
    ((q.withModel m').fault? name).map FieldFault.kind = some .typeAmbiguity := by
  have sub := (occurrences_withModel h closed name).subset
  obtain ⟨undirected, no_attribute, -, apart⟩ :=
    FieldCase.kind_fault?_eq_typeAmbiguity_iff.1 ambiguous
  refine FieldCase.kind_fault?_eq_typeAmbiguity_iff.2 ⟨undirected, no_attribute,
    occurs_withModel h closed occurs, fun agree => apart ?_⟩
  exact h.agree_of_agree closed (closedType_of_mem_occurrences closed) sub agree

theorem keptBy_withModel {g g' : ResolvedField}
    (settled : (q.caseAt (name, q.roster.names.idxOf name)).settle q.model = .ok g)
    (settled' : ((q.withModel m').caseAt
      (name, (q.withModel m').roster.names.idxOf name)).settle m' = .ok g') :
    (q.flagged g).KeptBy ((q.withModel m').flagged g') := by
  have p := occurrences_withModel h closed name
  have hType := FieldCase.type_of_settle settled
  have type : g'.type = g.type :=
    h.fieldType_eq closed p hType (FieldCase.type_of_settle settled')
  have closedType : q.model.ClosedType g.type :=
    Model.closedType_of_fieldType closed (closedType_of_mem_occurrences closed) hType
  constructor
  · show g'.position = g.position
    rw [FieldCase.position_of_settle settled, FieldCase.position_of_settle settled']
    exact congrArg Int.ofNat (idxOf_names_withModel h closed occurs)
  · exact type
  · show g'.typeName = g.typeName
    rw [FieldCase.typeName_of_settle settled, FieldCase.typeName_of_settle settled', type,
      h.spell_eq closedType]
  · show g'.sourceOperation = g.sourceOperation
    rw [FieldCase.sourceOperation_of_settle settled, FieldCase.sourceOperation_of_settle settled']
    rfl
  · show g'.sourcePath = g.sourcePath
    rw [FieldCase.sourcePath_of_settle settled, FieldCase.sourcePath_of_settle settled']
    exact FieldCase.sourcePath?_of_prefix (c := q.caseAt (name, q.roster.names.idxOf name)) p occurs
  · intro heuristic
    rw [provenanceOf?_slot_flagged settled] at heuristic
    obtain ⟨source, rank⟩ :=
      decideSlot_of_heuristic p.subset occurs (Option.some.inj heuristic)
    refine ⟨(provenanceOf?_slot_flagged settled' _).trans (congrArg some source), ?_⟩
    show g.slot.rank ≤ g'.slot.rank
    rw [FieldCase.slot_of_settle settled, FieldCase.slot_of_settle settled']
    exact rank

end Growth

/-- A model may grow: every name that occurs keeps its place, a name that is refused for its types
stays refused for them, and a field keeps what it has and is not lowered. -/
theorem resolve_withModel_of_extends (q : Request) (closed : q.model.Closed) {m' : Model}
    (h : q.model.Extends m') :
    (∀ name, q.roster.occurrences name ≠ [] → name ∈ (q.withModel m').roster.names ∧
        (q.withModel m').roster.names.idxOf name = q.roster.names.idxOf name) ∧
      (∀ e ∈ reportedErrors q.resolve, e.fault.kind = .typeAmbiguity →
        ∃ e' ∈ reportedErrors (q.withModel m').resolve,
          e'.field = e.field ∧ e'.fault.kind = .typeAmbiguity) ∧
      ∀ s s', q.resolve = .ok s → (q.withModel m').resolve = .ok s' →
        ∀ name, q.roster.occurrences name ≠ [] →
          ∃ f f', s.field? name = some f ∧ s'.field? name = some f' ∧ f.KeptBy f' := by
  refine ⟨fun name occurs => ⟨?_, idxOf_names_withModel h closed occurs⟩, fun e he kind => ?_,
    fun s s' hs hs' name occurs => ?_⟩
  · exact mem_names_of_occurs (occurs_withModel h closed occurs)
  · obtain ⟨-, refused⟩ := mem_fieldErrors.1 (mem_fieldErrors_of_typeAmbiguity he kind)
    have ambiguous : (q.fault? e.field).map FieldFault.kind = some .typeAmbiguity := by
      rw [refused, Option.map_some, kind]
    have occurs : q.roster.occurrences e.field ≠ [] :=
      (FieldCase.kind_fault?_eq_typeAmbiguity_iff.1 ambiguous).2.2.1
    obtain ⟨fault, refused', kind'⟩ :=
      Option.map_eq_some_iff.1 (kind_fault?_withModel h closed occurs ambiguous)
    refine ⟨⟨e.field, fault⟩, ?_, rfl, kind'⟩
    rw [reportedErrors_resolve, errors_findings]
    apply List.mem_append_left
    apply List.mem_append_right
    exact mem_fieldErrors.2 ⟨mem_names_of_occurs (occurs_withModel h closed occurs), refused'⟩
  · obtain ⟨g, settled, found⟩ := field?_of_mem_names hs (mem_names_of_occurs occurs)
    obtain ⟨g', settled', found'⟩ :=
      field?_of_mem_names hs' (mem_names_of_occurs (occurs_withModel h closed occurs))
    exact ⟨_, _, found, found', keptBy_withModel h closed occurs settled settled'⟩

def vaultDocument : Document :=
  .record
    [("shapes", .mapping
        [Model.shapeEntry "UpdateInput" [("Name", "string"), ("Policy", "Policy"),
            ("Age", "string")],
          Model.shapeEntry "Policy" [("Statement", "string")],
          Model.shapeEntry "DeleteInput" [("Name", "string"), ("Age", "integer")]]),
      ("operations", .list
        [.record [("name", .text "UpdateVault"), ("input", .text "UpdateInput")],
          .record [("name", .text "DeleteVault"), ("input", .text "DeleteInput")]])]

/-- A member has two types, so an override makes it a string. -/
def vaultRequest : Request where
  model :=
    { shapes :=
        [{ name := "UpdateInput", members := [⟨"Name", .string, false⟩,
            ⟨"Policy", .shape 1, false⟩, ⟨"Age", .string, false⟩] },
          { name := "Policy", members := [⟨"Statement", .string, false⟩] },
          { name := "DeleteInput", members := [⟨"Name", .string, false⟩,
            ⟨"Age", .primitive .integer, false⟩] }]
      operations :=
        [{ name := "UpdateVault", input := some 0, kind := .update },
          { name := "DeleteVault", input := some 2, kind := .delete }] }
  resource := "Vault"
  directives :=
    { fields :=
        [("Age", { isAttribute := some true }),
          ("Rules", { redirect := some ⟨"UpdateVault", "Policy.Statement"⟩ })] }

/-- The model of the vault with an operation that creates one. -/
def grownVault : Model where
  shapes := vaultRequest.model.shapes ++
    [{ name := "CreateInput", members := [⟨"Kind", .string, true⟩, ⟨"Name", .string, true⟩] }]
  operations := vaultRequest.model.operations ++
    [{ name := "CreateVault", input := some 3, kind := .create }]

/-- A name that was ignored is raised to the spec; without its override the member stays refused. -/
theorem resolve_withModel_of_extends_grownVault :
    vaultRequest.model.Closed ∧ vaultRequest.model.Extends grownVault ∧
      (∃ s s', vaultRequest.resolve = .ok s ∧
        (vaultRequest.withModel grownVault).resolve = .ok s' ∧
        (s.fields.map fun f => (f.name, f.slot)) =
          [("Name", .ignored), ("PolicyStatement", .ignored), ("Age", .ignored),
            ("Rules", .status)] ∧
        (s'.fields.map fun f => (f.name, f.slot)) =
          [("Name", .spec), ("PolicyStatement", .ignored), ("Age", .ignored), ("Kind", .spec),
            ("Rules", .status)] ∧
        ∃ f f', s.field? "Name" = some f ∧ s'.field? "Name" = some f' ∧ f.KeptBy f') ∧
      ∃ e' ∈ reportedErrors ((vaultRequest.under []).withModel grownVault).resolve,
        e'.field = "Age" ∧ e'.fault.kind = .typeAmbiguity := by
  have loaded : Model.ofDocument vaultDocument = .ok vaultRequest.model := by cbv
  have closed : vaultRequest.model.Closed := Model.closed_of_ofDocument loaded
  have grown : vaultRequest.model.Extends grownVault :=
    ⟨List.prefix_append _ _, List.prefix_append _ _⟩
  have accepted : vaultRequest.findings.errors = [] := by cbv
  have accepted' : (vaultRequest.withModel grownVault).findings.errors = [] := by cbv
  have slots : (vaultRequest.findings.fields.map fun f => (f.name, f.slot)) =
      [("Name", .ignored), ("PolicyStatement", .ignored), ("Age", .ignored),
        ("Rules", .status)] := by
    cbv
  have slots' : ((vaultRequest.withModel grownVault).findings.fields.map fun f =>
      (f.name, f.slot)) =
        [("Name", .spec), ("PolicyStatement", .ignored), ("Age", .ignored), ("Kind", .spec),
          ("Rules", .status)] := by
    cbv
  have occurs : vaultRequest.roster.occurrences "Name" ≠ [] := by
    intro none
    have walked : (vaultRequest.roster.occurrences "Name").length = 2 := by cbv
    rw [none] at walked
    cases walked
  have refused : (vaultRequest.under []).findings.errors =
      [⟨"Age", .divergentTypes [⟨"string", "UpdateVault", .input⟩,
        ⟨"integer", "DeleteVault", .input⟩]⟩] := by
    cbv
  have reported : ⟨"Age", .divergentTypes [⟨"string", "UpdateVault", .input⟩,
      ⟨"integer", "DeleteVault", .input⟩]⟩ ∈ reportedErrors (vaultRequest.under []).resolve := by
    rw [reportedErrors_resolve, refused]
    exact List.mem_cons_self
  obtain ⟨s, hs⟩ := vaultRequest.resolve_isOk_iff.2 accepted
  obtain ⟨s', hs'⟩ := (vaultRequest.withModel grownVault).resolve_isOk_iff.2 accepted'
  obtain ⟨-, -, kept⟩ := resolve_withModel_of_extends vaultRequest closed grown
  obtain ⟨-, ambiguous, -⟩ := resolve_withModel_of_extends (vaultRequest.under []) closed grown
  refine ⟨closed, grown, ⟨s, s', hs, hs', ?_, ?_, kept s s' hs hs' "Name" occurs⟩,
    ambiguous _ reported rfl⟩
  · rw [(resolve_eq_ok_iff.1 hs).2]
    exact slots
  · rw [(resolve_eq_ok_iff.1 hs').2]
    exact slots'

end Request

end FieldResolution
