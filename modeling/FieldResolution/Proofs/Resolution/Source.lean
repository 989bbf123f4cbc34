import FieldResolution.Proofs.Model.Passage
import FieldResolution.Proofs.Resolution.Fault
import FieldResolution.Proofs.Resolution.Fields

/-!
# Where a type comes from

A field has its type from one of three sources: an attribute is a string, a redirect gives the type
at the end of its path, and otherwise the occurrences agree on one.  `OneSource` says what each of
them gives; whatever stands before another one decides alone (`oneSource_of_resolve`).
-/

namespace FieldResolution

namespace Model

variable {m : Model} {occurrences : List Occurrence} {d : FieldDirectives} {t : MemberType}

/-- The type at the end of a redirect: that of the member to which the whole path leads from the
output of the operation or, if it does not lead there through the output, from the input, inside the
containers that are crossed. -/
def RedirectsTo (m : Model) (r : Redirect) (t : MemberType) : Prop :=
  ∃ o role crossed x, m.operation? r.operation = some o ∧
    m.PassageFrom o role r.segments crossed x ∧
    (role = .input → ∀ ds y, ¬ m.PassageFrom o .output r.segments ds y) ∧
    t = .wrap crossed x.type

theorem follows_eq_ok_iff {r : Redirect} {found : Role × Member} :
    m.follows r = .ok found ↔
      ∃ o, m.operation? r.operation = some o ∧ m.locate o r.segments = some found := by
  unfold follows
  cases m.operation? r.operation with
  | none => simp
  | some o => cases h : m.locate o r.segments <;> simp [h]

/-- A redirect gives the type of the member to which it leads, and no other. -/
theorem redirectsTo_iff {r : Redirect} :
    m.RedirectsTo r t ↔ ∃ found, m.follows r = .ok found ∧ t = found.2.type := by
  simp only [follows_eq_ok_iff, locate_eq_some_iff]
  constructor
  · rintro ⟨o, role, crossed, x, operation, passage, blocked, rfl⟩
    exact ⟨_, ⟨o, operation, role, crossed, x, passage, blocked, rfl⟩, rfl⟩
  · rintro ⟨found, ⟨o, operation, role, crossed, x, passage, blocked, rfl⟩, rfl⟩
    exact ⟨o, role, crossed, x, operation, passage, blocked, rfl⟩

/-! ## The three sources -/

theorem eq_string_of_attribute (on : d.isOn .isAttribute = true)
    (h : m.fieldType occurrences d = .ok t) : t = .string := by
  obtain ⟨r, found, -, off, -⟩ | ⟨-, -, rfl⟩ | ⟨-, off, -⟩ := fieldType_eq_ok_iff.1 h
  · -- an attribute that is redirected is refused
    rw [on] at off
    cases off
  · rfl
  · rw [on] at off
    cases off

theorem redirectsTo_of_redirect {r : Redirect} (hr : d.redirect = some r)
    (h : m.fieldType occurrences d = .ok t) : m.RedirectsTo r t := by
  obtain ⟨r', found, hr', -, hf, rfl⟩ | ⟨none, -⟩ | ⟨none, -⟩ := fieldType_eq_ok_iff.1 h
  · cases hr.symm.trans hr'
    exact redirectsTo_iff.2 ⟨found, hf, rfl⟩
  · cases hr.symm.trans none
  · cases hr.symm.trans none

theorem agree_of_undirected (off : d.isOn .isAttribute = false) (hr : d.redirect = none)
    (h : m.fieldType occurrences d = .ok t) :
    ∃ first rest, occurrences = first :: rest ∧ t = first.type ∧
      ∀ o ∈ occurrences, m.signature o.type = m.signature t := by
  rw [fieldType_eq_commonType hr off] at h
  have agree : m.Agree occurrences := (commonType_eq_ok_iff.1 h).1
  obtain ⟨first, rest, rfl, rfl⟩ := exists_first_of_commonType h
  exact ⟨first, rest, rfl, rfl, fun o ho => agree o ho first List.mem_cons_self⟩

end Model

namespace Request

/-- A field has the type of the first source that it has: as an attribute, by a redirect, or from
its occurrences, which there are then and which all have one structure. -/
structure OneSource (q : Request) (f : ResolvedField) : Prop where
  unpacked : (q.overrides.get f.name).isOn .isAttribute = true →
    f.type = .string ∧ f.isUnpacked = true
  redirected : (q.overrides.get f.name).isOn .isAttribute = false →
    ∀ r, (q.overrides.get f.name).redirect = some r → q.model.RedirectsTo r f.type
  agreed : (q.overrides.get f.name).isOn .isAttribute = false →
    (q.overrides.get f.name).redirect = none →
    ∃ first rest, q.roster.occurrences f.name = first :: rest ∧ f.type = first.type ∧
      ∀ o ∈ q.roster.occurrences f.name, q.model.signature o.type = q.model.signature f.type

/-- Every field of an answer has its type from one source. -/
theorem oneSource_of_resolve (q : Request) (s : FieldSet) (h : q.resolve = .ok s) :
    ∀ f ∈ s.fields, q.OneSource f := by
  intro f hf
  have type := fieldType_of_mem_fields h hf
  constructor
  · intro on
    rw [isUnpacked_of_mem_fields h hf]
    exact ⟨Model.eq_string_of_attribute on type, on⟩
  · intro _ r hr
    exact Model.redirectsTo_of_redirect hr type
  · intro off hr
    exact Model.agree_of_undirected off hr type

/-- An attribute whose occurrences differ, a path through two containers of the output, a path that
leads only through the input, and a name with two occurrences. -/
def depotRequest : Request where
  model :=
    { shapes :=
        [{ name := "CreateInput", members := [⟨"Name", .string, true⟩,
            ⟨"Policy", .string, false⟩] },
          { name := "GetInput", members := [⟨"Filters", .container .map (.shape 3), false⟩] },
          { name := "GetOutput", members := [⟨"Name", .string, false⟩,
            ⟨"Policy", .primitive .blob, false⟩,
            ⟨"Groups", .container .map (.container .list (.shape 4)), false⟩] },
          { name := "Filter", members := [⟨"Key", .primitive .long, false⟩] },
          { name := "Group", members := [⟨"Labels", .container .list .string, false⟩] }]
      operations :=
        [{ name := "CreateDepot", input := some 0, kind := .create },
          { name := "GetDepot", input := some 1, output := some 2, kind := .readOne }] }
  resource := "Depot"
  directives :=
    { fields :=
        [("Policy", { isAttribute := some true }),
          ("Labels", { redirect := some ⟨"GetDepot", "Groups.Labels"⟩ }),
          ("Keys", { redirect := some ⟨"GetDepot", "Filters.Key"⟩ })] }

theorem oneSource_of_resolve_depotRequest :
    ∃ s, depotRequest.resolve = .ok s ∧
      (s.fields.map fun f => (f.name, f.type)) =
        [("Name", .string), ("Policy", .string),
          ("Filters", .container .map (.shape 3)),
          ("Groups", .container .map (.container .list (.shape 4))),
          ("Labels", .container .map (.container .list (.container .list .string))),
          ("Keys", .container .map (.primitive .long))] ∧
      ∀ f ∈ s.fields, depotRequest.OneSource f := by
  have accepted : depotRequest.findings.errors = [] := by cbv
  obtain ⟨s, hs⟩ := depotRequest.resolve_isOk_iff.2 accepted
  have found : s.fields = depotRequest.findings.fields := by
    rw [(resolve_eq_ok_iff.1 hs).2]
  refine ⟨s, hs, ?_, oneSource_of_resolve depotRequest s hs⟩
  rw [found]
  cbv

end Request

end FieldResolution
