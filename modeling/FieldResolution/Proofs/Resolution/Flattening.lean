import FieldResolution.Proofs.Field.Contribution
import FieldResolution.Proofs.Resolution.Report

/-!
# Members reported as flattened

A run says which members the redirects lead into (`reportsFlattened_iff`).  It reads that off the
paths of the redirects and does not look at the model.  The roster has the members of a record in
the place of the record exactly if the run reports its name (`replaced_iff`).  So a run reports
every record that it flattens, but it also reports lists and maps, which it leaves whole, and
members that no operation has.
-/

namespace FieldResolution

/-! ## The reports of a run -/

/-- No other diagnostic has the code of a flattened member. -/
theorem Diagnostic.exists_eq_flattened_of_code {d : Diagnostic} (h : d.code = "member_decomposed") :
    ∃ member trigger, d = .flattened member trigger := by
  cases d with
  | flattened member trigger => exact ⟨member, trigger, rfl⟩
  | slotOverridden field implied chosen => simp [code] at h
  | outsideResource field operations => simp [code] at h
  | flag f note =>
    have apart : note.code ≠ "member_decomposed" := by
      cases note <;> simp [FlagNote.code]
    exact absurd h apart
  | failed e =>
    have apart : ∀ kind : FaultKind, kind.code ≠ "member_decomposed" := by
      rintro ⟨⟩ <;> decide
    exact absurd h (apart _)

theorem FieldCase.flattened_notMem_remarksOn (c : FieldCase) (slot : Decision Slot)
    (member trigger : String) : .flattened member trigger ∉ c.remarksOn slot := by
  intro h
  unfold remarksOn at h
  split_ifs at h <;> simp at h

theorem Outcome.flattened_notMem_diagnostics (o : Outcome) (member trigger : String) :
    .flattened member trigger ∉ o.diagnostics := by
  unfold diagnostics
  cases o.error? with
  | some e => simp
  | none => exact o.case.flattened_notMem_remarksOn o.slot member trigger

theorem Findings.flattened_notMem_flagDiagnostics (a : Except FieldError FlagAssignment)
    (member trigger : String) : .flattened member trigger ∉ flagDiagnostics a := by
  cases a <;> simp [flagDiagnostics]

/-- A run reports what its roster names as flattened. -/
theorem Findings.flattened_mem_diagnostics_iff (r : Findings) {member trigger : String} :
    .flattened member trigger ∈ r.diagnostics ↔ (member, trigger) ∈ r.roster.flattened := by
  unfold diagnostics
  rw [List.mem_append, List.mem_append, List.mem_append]
  constructor
  · rintro (((noted | unknown) | settled) | assigned)
    · obtain ⟨e, he, same⟩ := List.mem_map.1 noted
      cases same
      exact he
    · obtain ⟨e, -, same⟩ := List.mem_map.1 unknown
      cases same
    · obtain ⟨o, -, said⟩ := List.mem_flatMap.1 settled
      exact absurd said (o.flattened_notMem_diagnostics member trigger)
    · obtain ⟨a, -, said⟩ := List.mem_flatMap.1 assigned
      exact absurd said (flattened_notMem_flagDiagnostics a member trigger)
  · intro noted
    exact Or.inl (Or.inl (Or.inl (List.mem_map_of_mem noted)))

/-! ## Records -/

/-- On one side of an operation stands a member whose type is the shape. -/
structure Model.HoldsRecord (m : Model) (o : Operation) (r : Role) (p : Member) (i : Nat) :
    Prop where
  operation : o ∈ m.operations
  side : ∃ s, m.operationShape? o r = some s ∧ p ∈ s.members
  type : p.type = .shape i

namespace Request

variable {q : Request} {name : String}

/-- A redirect leads into a member of the name, and no override bears the name. -/
def Enters (q : Request) (name : String) : Prop :=
  (∃ e ∈ q.overrides, ∃ r child rest,
    e.2.redirect = some r ∧ r.segments = name :: child :: rest) ∧
    name ∉ q.overrides.map Prod.fst

/-- The run, whether it fails or not, says that a member of the name is flattened. -/
def ReportsFlattened (q : Request) (name : String) : Prop :=
  ∃ d ∈ reportedDiagnostics q.resolve, d.code = "member_decomposed" ∧ d.field = name

/-- In the place of a record of the name the roster has the members of its shape. -/
def Replaced (q : Request) (name : String) : Prop :=
  ∃ o r p i, q.model.HoldsRecord o r p i ∧ p.name = name ∧
    .ofMember o r name p ∉ q.roster.occurrences name ∧
    ∀ x ∈ q.model.membersAt i,
      .ofMember o r (name ++ "." ++ x.name) x ∈ q.roster.occurrences (name ++ x.name)

theorem enters_iff : q.Enters name ↔ name ∈ (flattening q.overrides).map Prod.fst := by
  simp only [Enters, mem_keys_flattening, FieldDirectives.entered?_eq_some_iff]

theorem reportsFlattened_iff : q.ReportsFlattened name ↔ q.Enters name := by
  unfold ReportsFlattened
  rw [enters_iff, reportedDiagnostics_resolve, List.mem_map]
  constructor
  · rintro ⟨d, said, code, rfl⟩
    obtain ⟨member, trigger, rfl⟩ := Diagnostic.exists_eq_flattened_of_code code
    exact ⟨(member, trigger), q.findings.flattened_mem_diagnostics_iff.1 said, rfl⟩
  · rintro ⟨⟨member, trigger⟩, found, rfl⟩
    exact ⟨.flattened member trigger, q.findings.flattened_mem_diagnostics_iff.2 found, rfl, rfl⟩

/-- Records are flattened exactly where the redirects reach into them. -/
theorem flattened_iff_of_holdsRecord {o : Operation} {r : Role} {p : Member} {i : Nat}
    (h : q.model.HoldsRecord o r p i) : p.Flattened q.overrides ↔ q.Enters p.name :=
  ⟨fun flattened => ⟨flattened.entered, flattened.unnamed⟩,
    fun entered => ⟨entered.1, entered.2, i, h.type⟩⟩

theorem replaced_iff :
    q.Replaced name ↔
      q.Enters name ∧ ∃ o r p i, q.model.HoldsRecord o r p i ∧ p.name = name := by
  constructor
  · rintro ⟨o, r, p, i, record, rfl, gone, -⟩
    refine ⟨?_, o, r, p, i, record, rfl⟩
    rw [← flattened_iff_of_holdsRecord record]
    by_contra whole
    obtain ⟨s, side, mem⟩ := record.side
    exact gone (Model.mem_occurrences_of_whole record.operation side mem whole)
  · rintro ⟨entered, o, r, p, i, record, rfl⟩
    have flattened := (flattened_iff_of_holdsRecord record).2 entered
    obtain ⟨s, side, mem⟩ := record.side
    have gone : .ofMember o r p.name p ∉ q.roster.occurrences p.name :=
      Model.notMem_occurrences_of_flattened flattened
    refine ⟨o, r, p, i, record, rfl, gone, fun x hx => ?_⟩
    exact Model.mem_occurrences_iff.2
      ⟨o, record.operation, r, _, x, .part side mem flattened record.type hx, rfl⟩

/-- A run reports the members that the redirects reach into, and it replaces a record exactly if it
reports the name and there is a record of that name. -/
theorem flattening_reported (q : Request) (name : String) :
    (q.ReportsFlattened name ↔ q.Enters name) ∧
      (q.Replaced name ↔ q.ReportsFlattened name ∧
        ∃ o r p i, q.model.HoldsRecord o r p i ∧ p.name = name) :=
  ⟨reportsFlattened_iff, replaced_iff.trans (and_congr_left' reportsFlattened_iff.symm)⟩

/-- A redirect leads into the elements of a list. -/
def taggedThing : Request where
  model :=
    { shapes :=
        [{ name := "In", members := [⟨"Name", .string, false⟩,
            ⟨"Tags", .container .list (.shape 1), false⟩] },
          { name := "Tag", members := [⟨"Key", .string, false⟩, ⟨"Value", .string, false⟩] }]
      operations := [{ name := "CreateThing", input := some 0, kind := .create }] }
  resource := "Thing"
  directives := { fields := [("TagKeys", { redirect := some ⟨"CreateThing", "Tags.Key"⟩ })] }

/-- A list that a redirect leads into is reported as flattened, and stays whole. -/
theorem reported_list_not_replaced :
    taggedThing.ReportsFlattened "Tags" ∧ ¬ taggedThing.Replaced "Tags" := by
  have reported : reportedDiagnostics taggedThing.resolve = [.flattened "Tags" "TagKeys"] := by cbv
  refine ⟨⟨.flattened "Tags" "TagKeys", ?_, rfl, rfl⟩, ?_⟩
  · rw [reported]
    exact List.mem_singleton_self _
  · rintro ⟨o, r, p, i, ⟨ho, ⟨s, side, mem⟩, type⟩, -⟩
    obtain rfl := List.mem_singleton.1 ho
    cases r with
    | input =>
      cases side
      -- neither of the two members is a record
      rcases List.mem_pair.1 mem with rfl | rfl
      · cases type
      · cases type
    | output => cases side

end Request

end FieldResolution
