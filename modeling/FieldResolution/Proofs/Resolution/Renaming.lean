import FieldResolution.Proofs.Field.Column
import FieldResolution.Proofs.Field.Roster
import FieldResolution.Proofs.Model.Renaming
import FieldResolution.Proofs.Model.ShapeOrder
import FieldResolution.Proofs.Resolution.Fields
import FieldResolution.Report
import Mathlib.Data.List.Rotate

/-!
# Resolving over a renamed model

Two runs over models that differ in the positions of their shapes only go side by side: the walk
meets the same members under the same names (`walk_rename`), every field is settled or refused alike
(`settle_rename`), and the flags are asked for the same names.  So the findings of one run are those
of the other with the types renamed (`findings_rename`), and the answers differ in nothing that a
report shows (`resolve_rename`).  Two orders of the shapes of a document give two such models, so
the order plays no part in what is answered (`resolve_of_perm_shapes`).
-/

namespace FieldResolution

/-! ## Renamed findings -/

def Occurrence.rename (σ : Nat → Nat) (o : Occurrence) : Occurrence :=
  { o with type := o.type.rename σ }

def Roster.rename (σ : Nat → Nat) (r : Roster) : Roster :=
  { r with groups := r.groups.map (Prod.map id (List.map (Occurrence.rename σ))) }

def ResolvedField.rename (σ : Nat → Nat) (f : ResolvedField) : ResolvedField :=
  { f with type := f.type.rename σ }

def FieldCase.rename (σ : Nat → Nat) (c : FieldCase) : FieldCase :=
  { c with occurrences := c.occurrences.map (Occurrence.rename σ) }

def Outcome.rename (σ : Nat → Nat) (o : Outcome) : Outcome :=
  { o with case := o.case.rename σ, result := o.result.map (ResolvedField.rename σ) }

def Findings.rename (σ : Nat → Nat) (r : Findings) : Findings :=
  { r with roster := r.roster.rename σ, outcomes := r.outcomes.map (Outcome.rename σ) }

def FieldSet.rename (σ : Nat → Nat) (s : FieldSet) : FieldSet :=
  { s with fields := s.fields.map (ResolvedField.rename σ) }

/-! ## What does not look at types -/

section Untyped

variable (σ : Nat → Nat)

theorem impliedSlot_rename (occurrences : List Occurrence) :
    impliedSlot (occurrences.map (Occurrence.rename σ)) = impliedSlot occurrences := by
  unfold impliedSlot
  rw [List.any_map, List.any_map]
  rfl

theorem decideSlot_rename (occurrences : List Occurrence) (d : FieldDirectives) :
    decideSlot (occurrences.map (Occurrence.rename σ)) d = decideSlot occurrences d := by
  have directed : directedSlot? (occurrences.map (Occurrence.rename σ)) d =
      directedSlot? occurrences d := by
    unfold directedSlot?
    rw [List.isEmpty_map]
  have kept : keptSlot (occurrences.map (Occurrence.rename σ)) = keptSlot occurrences := by
    unfold keptSlot
    rw [List.any_map]
    rfl
  unfold decideSlot isKept
  rw [directed, kept, impliedSlot_rename]

theorem decideRequired_rename (occurrences : List Occurrence) (d : FieldDirectives)
    (slot : Slot) : decideRequired (occurrences.map (Occurrence.rename σ)) d slot =
      decideRequired occurrences d slot := by
  unfold decideRequired impliedRequired
  rw [List.any_map]
  rfl

namespace FieldCase

variable (c : FieldCase)

@[simp] theorem slot_rename : (c.rename σ).slot = c.slot := decideSlot_rename σ _ _

@[simp] theorem required_rename : (c.rename σ).required = c.required := by
  unfold required
  rw [slot_rename]
  exact decideRequired_rename σ _ _ _

@[simp] theorem sourcePath?_rename : (c.rename σ).sourcePath? = c.sourcePath? := by
  have origin : (c.rename σ).originPath? = c.originPath? := by
    unfold originPath? rename
    cases c.occurrences <;> rfl
  unfold sourcePath?
  rw [origin]
  rfl

theorem remarksOn_rename (slot : Decision Slot) :
    (c.rename σ).remarksOn slot = c.remarksOn slot := by
  have empty : (c.rename σ).occurrences.isEmpty = c.occurrences.isEmpty := List.isEmpty_map
  have implied : impliedSlot (c.rename σ).occurrences = impliedSlot c.occurrences :=
    impliedSlot_rename σ _
  have operations : (c.rename σ).operations = c.operations := by
    unfold operations rename
    rw [List.map_map]
    rfl
  unfold remarksOn
  rw [empty, implied, operations]
  rfl

end FieldCase

theorem Roster.group_rename (entries : List (String × Occurrence)) :
    group (entries.map (Prod.map id (Occurrence.rename σ))) =
      (group entries).map (Prod.map id (List.map (Occurrence.rename σ))) := by
  have keys : (entries.map (Prod.map id (Occurrence.rename σ))).map Prod.fst =
      entries.map Prod.fst := by
    rw [List.map_map]
    rfl
  rw [group_eq, group_eq, keys, List.map_map]
  refine List.map_congr_left fun n _ => ?_
  show _ = (n, (under entries n).map (Occurrence.rename σ))
  unfold under
  rw [List.filter_map, List.map_map, List.map_map]
  rfl

namespace Column

theorem redraws_rename : Redraws (ResolvedField.rename σ) id where
  position _ := rfl
  listing _ := rfl
  column _ _ := rfl

theorem ofFields_rename (fields : List ResolvedField) (order : ColumnOrder) :
    ofFields (fields.map (ResolvedField.rename σ)) order = ofFields fields order := by
  rw [ofFields_map (redraws_rename σ), List.map_id]

end Column

end Untyped

namespace Model.Renaming

variable {σ : Nat → Nat} {m m' : Model} (h : Renaming σ m m')

include h

/-! ## The walk -/

theorem appearances_rename (flat : List String) (o : Operation) (r : Role) (x : Member) :
    m'.appearances flat (o.rename σ) r (x.rename σ) =
      (m.appearances flat o r x).map (Prod.map id (Occurrence.rename σ)) := by
  unfold appearances
  rw [Member.type_rename, Member.name_rename]
  cases x.type with
  | primitive p => rfl
  | container c element => rfl
  | shape i =>
    cases flat.contains x.name with
    | false => rfl
    | true =>
      show (m'.membersAt (σ i)).map _ = _
      rw [h.membersAt_rename, List.map_map, List.map_map]
      rfl

theorem walkSide_rename (flat : List String) (o : Operation) (r : Role) :
    m'.walkSide flat (o.rename σ) r =
      (m.walkSide flat o r).map (Prod.map id (Occurrence.rename σ)) := by
  unfold walkSide
  rw [h.operationShape?_rename]
  cases m.operationShape? o r with
  | none => rfl
  | some s =>
    show (s.members.map (Member.rename σ)).flatMap _ = _
    rw [List.flatMap_map, List.map_flatMap]
    exact List.flatMap_congr fun x _ => h.appearances_rename flat o r x

theorem walk_rename (flat : List String) :
    m'.walk flat = (m.walk flat).map (Prod.map id (Occurrence.rename σ)) := by
  unfold walk
  rw [h.operations, List.flatMap_map, List.map_flatMap]
  refine List.flatMap_congr fun o _ => ?_
  rw [h.walkSide_rename, h.walkSide_rename, List.map_append]

theorem ofModel_rename (o : Overrides) :
    Roster.ofModel m' o = (Roster.ofModel m o).rename σ := by
  unfold Roster.ofModel Roster.rename
  simp only [h.walk_rename, Roster.group_rename, List.map_append, List.map_map]
  rfl

/-! ## Types -/

theorem follows_rename (r : Redirect) :
    m'.follows r = (m.follows r).map (Prod.map id (Member.rename σ)) := by
  unfold follows
  rw [h.operation?_rename]
  cases m.operation? r.operation with
  | none => rfl
  | some o =>
    rw [Option.map_some]
    dsimp only
    rw [h.locate_rename]
    cases m.locate o r.segments <;> rfl

theorem distinctReadings_rename (occurrences : List Occurrence) :
    m'.distinctReadings (occurrences.map (Occurrence.rename σ)) =
      (m.distinctReadings occurrences).map (Occurrence.rename σ) := by
  induction occurrences with
  | nil => rfl
  | cons o rest ih =>
    rw [List.map_cons, distinctReadings, distinctReadings, ih, List.map_cons, List.filter_map]
    have fresh (x : Occurrence) :
        (!m'.alike (o.rename σ).type (x.rename σ).type) = !m.alike o.type x.type :=
      congrArg not (h.alike_rename o.type x.type)
    refine congrArg (fun p => o.rename σ :: (List.filter p _).map (Occurrence.rename σ)) ?_
    exact funext fresh

theorem commonType_rename (occurrences : List Occurrence) :
    m'.commonType (occurrences.map (Occurrence.rename σ)) =
      (m.commonType occurrences).map (MemberType.rename σ) := by
  cases occurrences with
  | nil => rfl
  | cons first rest =>
    have agree : ((rest.map (Occurrence.rename σ)).all fun o =>
        m'.alike (first.rename σ).type o.type) = rest.all fun o => m.alike first.type o.type := by
      rw [List.all_map]
      exact congrArg rest.all (funext fun o => h.alike_rename first.type o.type)
    have readings : (m'.distinctReadings ((first :: rest).map (Occurrence.rename σ))).map
        m'.reading = (m.distinctReadings (first :: rest)).map m.reading := by
      rw [h.distinctReadings_rename, List.map_map]
      refine List.map_congr_left fun o _ => ?_
      show Reading.mk (m'.spell (o.type.rename σ)) o.operation o.role = _
      rw [h.spell_rename]
      rfl
    rw [List.map_cons] at readings
    rw [List.map_cons, commonType, commonType, agree, readings]
    split_ifs <;> rfl

theorem fieldType_rename (occurrences : List Occurrence) (d : FieldDirectives) :
    m'.fieldType (occurrences.map (Occurrence.rename σ)) d =
      (m.fieldType occurrences d).map (MemberType.rename σ) := by
  unfold fieldType
  cases d.redirect with
  | none =>
    dsimp only
    split_ifs
    · rfl
    · exact h.commonType_rename occurrences
  | some r =>
    dsimp only
    split_ifs
    · rfl
    · rw [h.follows_rename]
      cases m.follows r <;> rfl

/-! ## Fields -/

theorem build_rename (c : FieldCase) (type : MemberType) (comparison : Comparison)
    (listing : Option Listing) (backoff : Option Backoff) :
    (c.rename σ).build m' (type.rename σ) comparison listing backoff =
      (c.build m type comparison listing backoff).rename σ := by
  unfold FieldCase.build
  rw [h.spell_rename, FieldCase.slot_rename, FieldCase.required_rename,
    FieldCase.sourcePath?_rename]
  rfl

theorem finish_rename (c : FieldCase) (type : MemberType) (comparison : Comparison)
    (listing : Option Listing) (backoff : Option Backoff) :
    (c.rename σ).finish m' (type.rename σ) comparison listing backoff =
      (c.finish m type comparison listing backoff).rename σ := by
  unfold FieldCase.finish
  rw [h.build_rename]
  show (if c.directives.isOn .isAttribute then _ else _) = _
  split_ifs <;> rfl

/-- A field is refused by the same step, or settled with the same decisions. -/
theorem settle_rename (c : FieldCase) :
    (c.rename σ).settle m' = (c.settle m).map (ResolvedField.rename σ) := by
  have typed : m'.fieldType (c.rename σ).occurrences c.directives =
      (m.fieldType c.occurrences c.directives).map (MemberType.rename σ) :=
    h.fieldType_rename _ _
  have same_directives : (c.rename σ).directives = c.directives := rfl
  have same_name : (c.rename σ).name = c.name := rfl
  unfold FieldCase.settle
  rw [same_directives, same_name, FieldCase.slot_rename, typed]
  cases m.fieldType c.occurrences c.directives with
  | error fault => rfl
  | ok type =>
    cases slotFault? c.slot.value c.directives with
    | some fault => rfl
    | none =>
      cases c.directives.comparison c.slot.value with
      | error fault => rfl
      | ok comparison =>
        cases c.directives.listing? c.name c.slot.value with
        | error fault => rfl
        | ok listing =>
          cases c.directives.backoff? c.slot.value with
          | error fault => rfl
          | ok backoff =>
            exact congrArg Except.ok (h.finish_rename c type comparison listing backoff)

theorem outcome_rename (c : FieldCase) :
    (c.rename σ).outcome m' = (c.outcome m).rename σ := by
  unfold FieldCase.outcome
  rw [h.settle_rename, c.slot_rename]
  rfl

end Model.Renaming

/-! ## The run -/

section Outcomes

variable (σ : Nat → Nat)

theorem Outcome.field?_rename (o : Outcome) :
    (o.rename σ).field? = o.field?.map (ResolvedField.rename σ) := by
  obtain ⟨c, slot, result⟩ := o
  cases result <;> rfl

theorem Outcome.error?_rename (o : Outcome) : (o.rename σ).error? = o.error? := by
  obtain ⟨c, slot, result⟩ := o
  cases result <;> rfl

theorem Outcome.diagnostics_rename (o : Outcome) :
    (o.rename σ).diagnostics = o.diagnostics := by
  have remarks : (o.rename σ).case.remarksOn (o.rename σ).slot = o.case.remarksOn o.slot :=
    o.case.remarksOn_rename σ o.slot
  unfold Outcome.diagnostics
  rw [Outcome.error?_rename, remarks]

namespace Findings

variable (r : Findings)

theorem settled_rename : (r.rename σ).settled = r.settled.map (ResolvedField.rename σ) := by
  show (r.outcomes.map (Outcome.rename σ)).filterMap Outcome.field? = _
  unfold settled
  rw [List.filterMap_map, List.map_filterMap]
  exact List.filterMap_congr fun o _ => o.field?_rename σ

theorem applyFlag_rename (f : ResolvedField) (a : FlagAssignment) :
    applyFlag (f.rename σ) a = (applyFlag f a).rename σ := by
  have same_name : (f.rename σ).name = f.name := rfl
  unfold applyFlag
  rw [same_name]
  cases a.decisions.lookup f.name with
  | none => rfl
  | some d =>
    show (f.rename σ).decideFlag a.flag d = (f.decideFlag a.flag d).rename σ
    unfold ResolvedField.decideFlag ResolvedField.setFlag
    split <;> rfl

theorem fields_rename : (r.rename σ).fields = r.fields.map (ResolvedField.rename σ) := by
  have flagged (assigned : List FlagAssignment) (f : ResolvedField) :
      assigned.foldl applyFlag (f.rename σ) = (assigned.foldl applyFlag f).rename σ :=
    List.foldl_hom (ResolvedField.rename σ) fun f a => applyFlag_rename σ f a
  unfold fields
  rw [settled_rename, List.map_map, List.map_map]
  exact List.map_congr_left fun f _ => flagged r.assigned f

theorem errors_rename : (r.rename σ).errors = r.errors := by
  have outcomes : (r.rename σ).outcomes.filterMap Outcome.error? =
      r.outcomes.filterMap Outcome.error? := by
    show (r.outcomes.map (Outcome.rename σ)).filterMap Outcome.error? = _
    rw [List.filterMap_map]
    exact List.filterMap_congr fun o _ => o.error?_rename σ
  unfold errors
  rw [outcomes]
  rfl

theorem diagnostics_rename : (r.rename σ).diagnostics = r.diagnostics := by
  have outcomes : (r.rename σ).outcomes.flatMap Outcome.diagnostics =
      r.outcomes.flatMap Outcome.diagnostics := by
    show (r.outcomes.map (Outcome.rename σ)).flatMap Outcome.diagnostics = _
    rw [List.flatMap_map]
    exact List.flatMap_congr fun o _ => o.diagnostics_rename σ
  unfold diagnostics
  rw [outcomes]
  rfl

end Findings

theorem FieldSet.toDocument_rename (s : FieldSet) :
    (s.rename σ).toDocument = s.toDocument := by
  have fields : (s.rename σ).fields.map ResolvedField.toDocument =
      s.fields.map ResolvedField.toDocument := by
    show (s.fields.map (ResolvedField.rename σ)).map ResolvedField.toDocument = _
    rw [List.map_map]
    rfl
  unfold FieldSet.toDocument
  rw [fields]
  rfl

end Outcomes

namespace Request

variable {σ : Nat → Nat} {q : Request} {m' : Model}

theorem cases_rename (q : Request) (σ : Nat → Nat) (r : Roster) :
    q.cases (r.rename σ) = (q.cases r).map (FieldCase.rename σ) := by
  show ((r.groups.map _).zipIdx).map _ = _
  unfold cases
  rw [List.zipIdx_map, List.map_map, List.map_map]
  rfl

theorem outcomes_rename (h : q.model.Renaming σ m') (r : Roster) :
    outcomes { q with model := m' } (r.rename σ) = (q.outcomes r).map (Outcome.rename σ) := by
  rw [outcomes_eq, outcomes_eq]
  show ((q.cases (r.rename σ)).map fun c => c.outcome m') = _
  rw [cases_rename, List.map_map, List.map_map]
  exact List.map_congr_left fun c _ => h.outcome_rename c

theorem flagQuestions_rename (q : Request) (σ : Nat → Nat) (settled : List ResolvedField) :
    q.flagQuestions (settled.map (ResolvedField.rename σ)) = q.flagQuestions settled := by
  unfold flagQuestions
  simp only [List.map_map, List.filter_map]
  rfl

theorem findings_rename (h : q.model.Renaming σ m') :
    findings { q with model := m' } = q.findings.rename σ := by
  have roster : Request.roster { q with model := m' } = q.roster.rename σ :=
    h.ofModel_rename q.overrides
  have settled : ((q.outcomes q.roster).map (Outcome.rename σ)).filterMap Outcome.field? =
      ((q.outcomes q.roster).filterMap Outcome.field?).map (ResolvedField.rename σ) :=
    q.findings.settled_rename σ
  unfold findings
  rw [roster]
  dsimp only
  rw [outcomes_rename h, settled]
  show Findings.mk _ _ ((q.flagQuestions _).map _) = _
  rw [flagQuestions_rename]
  rfl

theorem resolve_rename (h : q.model.Renaming σ m') :
    resolve { q with model := m' } = q.resolve.map (FieldSet.rename σ) := by
  unfold resolve
  rw [findings_rename h]
  unfold conclude
  rw [Findings.errors_rename, Findings.diagnostics_rename, Findings.fields_rename,
    Column.ofFields_rename]
  split_ifs <;> rfl

/-! ## The order of shapes -/

/-- The shapes of a document may stand in any order: either every order is refused or none is, and
a resource has the same report in all of them, or the same faults and diagnostics. -/
theorem resolve_of_perm_shapes (before after : List (Scalar × Document))
    {definitions definitions' : List (Scalar × Document)} (p : definitions.Perm definitions') :
    ((∃ m, Model.ofDocument (.mapping (withShapes before definitions after)) = .ok m) ↔
        ∃ m, Model.ofDocument (.mapping (withShapes before definitions' after)) = .ok m) ∧
      ∀ m m', Model.ofDocument (.mapping (withShapes before definitions after)) = .ok m →
        Model.ofDocument (.mapping (withShapes before definitions' after)) = .ok m' →
        ∀ resource directives,
          (resolve ⟨m', resource, directives⟩).map FieldSet.toDocument =
            (resolve ⟨m, resource, directives⟩).map FieldSet.toDocument := by
  refine ⟨⟨?_, ?_⟩, ?_⟩
  · rintro ⟨m, hm⟩
    obtain ⟨σ, m', hm', -⟩ := Model.exists_renaming_of_perm p hm
    exact ⟨m', hm'⟩
  · rintro ⟨m', hm'⟩
    obtain ⟨σ, m, hm, -⟩ := Model.exists_renaming_of_perm p.symm hm'
    exact ⟨m, hm⟩
  · intro m m' hm hm' resource directives
    obtain ⟨σ, other, hOther, moved⟩ := Model.exists_renaming_of_perm p hm
    obtain rfl : other = m' := Except.ok.inj (hOther.symm.trans hm')
    have renamed : resolve ⟨other, resource, directives⟩ =
        (resolve ⟨m, resource, directives⟩).map (FieldSet.rename σ) :=
      resolve_rename (q := ⟨m, resource, directives⟩) moved
    rw [renamed]
    cases resolve ⟨m, resource, directives⟩ with
    | error failure => rfl
    | ok s => exact congrArg Except.ok (s.toDocument_rename σ)

/-- Shapes that name each other across their order. -/
def forestShapes : List (Scalar × Document) :=
  [(.text "CreateInput", .record [("members", .record
      [("Name", .text "string"), ("Root", .text "Node")])]),
    (.text "Node", .record [("members", .record
      [("Label", .text "string"), ("Children", .text "list<Node>")])]),
    (.text "Forest", .record [("members", .record [("Root", .text "Node")])])]

def forestOperations : List (Scalar × Document) :=
  [(.text "operations", .list [.record
    [("name", .text "CreateForest"), ("input", .text "CreateInput"),
      ("output", .text "Forest")]])]

def forest : Model where
  shapes :=
    [{ name := "CreateInput", members := [⟨"Name", .string, false⟩, ⟨"Root", .shape 1, false⟩] },
      { name := "Node", members := [⟨"Label", .string, false⟩,
          ⟨"Children", .container .list (.shape 1), false⟩] },
      { name := "Forest", members := [⟨"Root", .shape 1, false⟩] }]
  operations := [{ name := "CreateForest", input := some 0, output := some 2, kind := .create }]

/-- The forest with its first shape put last. -/
def forestRotated : Model where
  shapes :=
    [{ name := "Node", members := [⟨"Label", .string, false⟩,
          ⟨"Children", .container .list (.shape 0), false⟩] },
      { name := "Forest", members := [⟨"Root", .shape 0, false⟩] },
      { name := "CreateInput", members := [⟨"Name", .string, false⟩, ⟨"Root", .shape 0, false⟩] }]
  operations := [{ name := "CreateForest", input := some 2, output := some 1, kind := .create }]

theorem resolve_of_perm_shapes_forest :
    forestShapes.Perm (forestShapes.rotate 1) ∧
      Model.ofDocument (.mapping (withShapes [] forestShapes forestOperations)) = .ok forest ∧
      Model.ofDocument (.mapping (withShapes [] (forestShapes.rotate 1) forestOperations)) =
        .ok forestRotated ∧
      (∃ s, resolve ⟨forest, "Forest", {}⟩ = .ok s ∧
        s.fields.map ResolvedField.typeName = ["string", "Node"]) ∧
      (resolve ⟨forestRotated, "Forest", {}⟩).map FieldSet.toDocument =
        (resolve ⟨forest, "Forest", {}⟩).map FieldSet.toDocument := by
  have p : forestShapes.Perm (forestShapes.rotate 1) := (List.rotate_perm _ _).symm
  have first : Model.ofDocument (.mapping (withShapes [] forestShapes forestOperations)) =
      .ok forest := by cbv
  have second : Model.ofDocument (.mapping (withShapes [] (forestShapes.rotate 1)
      forestOperations)) = .ok forestRotated := by cbv
  have accepted : (findings ⟨forest, "Forest", {}⟩).errors = [] := by cbv
  have types : (findings ⟨forest, "Forest", {}⟩).fields.map ResolvedField.typeName =
      ["string", "Node"] := by cbv
  obtain ⟨-, alike⟩ := resolve_of_perm_shapes [] forestOperations p
  refine ⟨p, first, second, ?_, alike forest forestRotated first second "Forest" {}⟩
  exact ⟨_, resolve_eq_ok_iff.2 ⟨accepted, rfl⟩, types⟩

end Request

end FieldResolution
