import FieldResolution.Proofs.Field.Contribution
import FieldResolution.Proofs.Resolution.Remarks

/-!
# The place from which a field is taken

Without a redirect the source path of a field is that of its first occurrence, or none if that one
stands at the top of its side.  Occurrences come together under a field by name alone, so a member
at the top may meet a member inside a flattened one there, and two members inside flattened ones may
meet (`Merged`).  Only then do the occurrences of a field stand under different paths
(`merged_iff`), so the source path holds for all of them exactly if no members meet
(`sourcePath_of_resolve`).
-/

namespace FieldResolution

namespace Model

variable (m : Model) (overrides : Overrides)

/-- A member on one side of an operation bears the name and is not flattened. -/
def StandsWhole (name : String) : Prop :=
  ∃ o ∈ m.operations, ∃ r s, m.operationShape? o r = some s ∧
    ∃ x ∈ s.members, ¬ x.Flattened overrides ∧ x.name = name

/-- Under the path stands a member of the shape of a flattened member, and the names of both make up
the name. -/
def StandsInside (name path : String) : Prop :=
  ∃ o ∈ m.operations, ∃ r s, m.operationShape? o r = some s ∧
    ∃ p ∈ s.members, p.Flattened overrides ∧ ∃ i, p.type = .shape i ∧
      ∃ x ∈ m.membersAt i, p.name ++ x.name = name ∧ p.name ++ "." ++ x.name = path

/-- A member inside a flattened one meets another under its name, either one that is not flattened
or one inside a flattened member under another path. -/
def Merged (name : String) : Prop :=
  ∃ path, m.StandsInside overrides name path ∧
    (m.StandsWhole overrides name ∨
      ∃ other, m.StandsInside overrides name other ∧ other ≠ path)

/-- The occurrence is that of a member of the name on one side of an operation. -/
def TopLevel (name : String) (occurrence : Occurrence) : Prop :=
  ∃ o ∈ m.operations, ∃ r s, m.operationShape? o r = some s ∧
    ∃ x ∈ s.members, x.name = name ∧ occurrence = .ofMember o r name x

variable {m overrides} {name path : String} {x : Occurrence}

/-! ## The paths of one name -/

theorem ne_of_standsInside (h : m.StandsInside overrides name path) : path ≠ name := by
  obtain ⟨_, _, _, _, _, p, _, _, _, _, x, _, rfl, rfl⟩ := h
  exact dotted_ne_append p.name x.name

theorem path_of_topLevel (h : m.TopLevel name x) : x.path = name := by
  obtain ⟨_, _, _, _, _, _, _, _, rfl⟩ := h
  rfl

theorem occurrence_cases (hx : x ∈ (Roster.ofModel m overrides).occurrences name) :
    m.TopLevel name x ∧ m.StandsWhole overrides name ∨ m.StandsInside overrides name x.path := by
  obtain ⟨o, ho, r, path, y, contributes, rfl⟩ := mem_occurrences_iff.1 hx
  cases contributes with
  | @whole s _ side mem whole =>
    exact .inl ⟨⟨o, ho, r, s, side, y, mem, rfl, rfl⟩, o, ho, r, s, side, y, mem, whole, rfl⟩
  | @part s p _ i side mem flattened type inside =>
    exact .inr ⟨o, ho, r, s, side, p, mem, flattened, i, type, y, inside, rfl, rfl⟩

theorem exists_occurrence_of_standsWhole (h : m.StandsWhole overrides name) :
    ∃ x ∈ (Roster.ofModel m overrides).occurrences name, x.path = name := by
  obtain ⟨o, ho, r, s, side, y, mem, whole, rfl⟩ := h
  exact ⟨_, mem_occurrences_iff.2 ⟨o, ho, r, y.name, y, .whole side mem whole, rfl⟩, rfl⟩

theorem exists_occurrence_of_standsInside (h : m.StandsInside overrides name path) :
    ∃ x ∈ (Roster.ofModel m overrides).occurrences name, x.path = path := by
  obtain ⟨o, ho, r, s, side, p, mem, flattened, i, type, y, inside, rfl, rfl⟩ := h
  exact ⟨_, mem_occurrences_iff.2 ⟨o, ho, r, _, y, .part side mem flattened type inside, rfl⟩, rfl⟩

theorem topLevel_iff (hx : x ∈ (Roster.ofModel m overrides).occurrences name) :
    m.TopLevel name x ↔ x.path = name := by
  refine ⟨path_of_topLevel, fun named => ?_⟩
  rcases occurrence_cases hx with ⟨top, -⟩ | inside
  · exact top
  · exact absurd named (ne_of_standsInside inside)

theorem standsInside_iff (hx : x ∈ (Roster.ofModel m overrides).occurrences name) :
    m.StandsInside overrides name x.path ↔ x.path ≠ name := by
  refine ⟨ne_of_standsInside, fun apart => ?_⟩
  rcases occurrence_cases hx with ⟨top, -⟩ | inside
  · exact absurd (path_of_topLevel top) apart
  · exact inside

/-- The occurrences of a name stand under two paths exactly if members meet under it. -/
theorem merged_iff :
    m.Merged overrides name ↔
      ∃ x ∈ (Roster.ofModel m overrides).occurrences name,
        ∃ y ∈ (Roster.ofModel m overrides).occurrences name, x.path ≠ y.path := by
  constructor
  · rintro ⟨path, inside, whole | ⟨other, otherwise, apart⟩⟩
    · obtain ⟨x, hx, rfl⟩ := exists_occurrence_of_standsInside inside
      obtain ⟨y, hy, named⟩ := exists_occurrence_of_standsWhole whole
      exact ⟨x, hx, y, hy, named ▸ ne_of_standsInside inside⟩
    · obtain ⟨x, hx, rfl⟩ := exists_occurrence_of_standsInside inside
      obtain ⟨y, hy, rfl⟩ := exists_occurrence_of_standsInside otherwise
      exact ⟨x, hx, y, hy, apart.symm⟩
  · rintro ⟨x, hx, y, hy, apart⟩
    rcases occurrence_cases hx, occurrence_cases hy with
      ⟨⟨xTop, xWhole⟩ | xInside, ⟨yTop, yWhole⟩ | yInside⟩
    · exact absurd ((path_of_topLevel xTop).trans (path_of_topLevel yTop).symm) apart
    · exact ⟨y.path, yInside, .inl xWhole⟩
    · exact ⟨x.path, xInside, .inl yWhole⟩
    · exact ⟨x.path, xInside, .inr ⟨y.path, yInside, apart.symm⟩⟩

end Model

namespace Request

variable {q : Request} {s : FieldSet}

/-! ## The source path of a field -/

/-- What the source path says of the first occurrence of a field holds for every one. -/
structure SourceOfAll (q : Request) (f : ResolvedField) : Prop where
  top : f.sourcePath = none →
    ∀ x ∈ q.roster.occurrences f.name, q.model.TopLevel f.name x ∧ x.path = f.name
  inside : ∀ path, f.sourcePath = some path →
    ∀ x ∈ q.roster.occurrences f.name, x.path = path

theorem sourcePath_of_mem_fields (h : q.resolve = .ok s) {f : ResolvedField} (hf : f ∈ s.fields) :
    f.sourcePath = (q.caseOf f.name).sourcePath? := by
  obtain ⟨place, g, settled, hg⟩ := exists_case_of_mem_fields h hf
  have path : g.sourcePath = (q.caseAt (f.name, place)).sourcePath? :=
    FieldCase.sourcePath_of_settle settled
  have flags : f.sourcePath = (q.flagged g).sourcePath := congrArg _ hg
  exact flags.trans path

/-- Without a redirect the first occurrence alone tells the source path. -/
theorem sourcePath_of_first (h : q.resolve = .ok s) {f : ResolvedField} (hf : f ∈ s.fields)
    (undirected : (q.overrides.get f.name).redirect = none) {first : Occurrence}
    {rest : List Occurrence} (occurs : q.roster.occurrences f.name = first :: rest) :
    f.sourcePath = if first.path = f.name then none else some first.path := by
  have direct : (q.caseOf f.name).directives.redirect = none := undirected
  have origin : (q.caseOf f.name).sourcePath? = (q.caseOf f.name).originPath? := by
    rw [FieldCase.sourcePath?, direct]
  have listed : (q.caseOf f.name).occurrences = first :: rest := occurs
  rw [sourcePath_of_mem_fields h hf, origin, FieldCase.originPath?, listed]
  rfl

theorem sourceOfAll_iff {f : ResolvedField} {first : Occurrence}
    (source : f.sourcePath = if first.path = f.name then none else some first.path) :
    q.SourceOfAll f ↔ ∀ x ∈ q.roster.occurrences f.name, x.path = first.path := by
  constructor
  · intro all x hx
    by_cases named : first.path = f.name
    · rw [if_pos named] at source
      rw [named]
      exact (all.top source x hx).2
    · rw [if_neg named] at source
      exact all.inside _ source x hx
  · intro same
    constructor
    · intro none x hx
      have named : first.path = f.name := by
        by_contra apart
        rw [source, if_neg apart] at none
        cases none
      have own : x.path = f.name := (same x hx).trans named
      exact ⟨(Model.topLevel_iff hx).2 own, own⟩
    · intro path some x hx
      rw [source] at some
      split_ifs at some
      rw [same x hx]
      exact Option.some.inj some

/-- The source path of a field without a redirect tells where its first occurrence stands.  It tells
so of every occurrence, unless members that stand in different places meet under the name. -/
theorem sourcePath_of_resolve (q : Request) (s : FieldSet) (h : q.resolve = .ok s) :
    ∀ f ∈ s.fields, (q.overrides.get f.name).redirect = none →
      ∀ first rest, q.roster.occurrences f.name = first :: rest →
        (f.sourcePath = none ↔ q.model.TopLevel f.name first) ∧
        (∀ path, f.sourcePath = some path ↔
          first.path = path ∧ q.model.StandsInside q.overrides f.name path) ∧
        (q.SourceOfAll f ↔ ¬ q.model.Merged q.overrides f.name) := by
  intro f hf undirected first rest occurs
  have source := sourcePath_of_first h hf undirected occurs
  have hfirst : first ∈ q.roster.occurrences f.name := by
    rw [occurs]
    exact List.mem_cons_self
  refine ⟨?_, fun path => ?_, ?_⟩
  · rw [source, Model.topLevel_iff hfirst]
    simp
  · constructor
    · intro some
      rw [source] at some
      split_ifs at some with named
      cases some
      exact ⟨rfl, (Model.standsInside_iff hfirst).2 named⟩
    · rintro ⟨rfl, inside⟩
      rw [source, if_neg (Model.ne_of_standsInside inside)]
  · rw [sourceOfAll_iff source, Model.merged_iff]
    constructor
    · rintro same ⟨x, hx, y, hy, apart⟩
      exact apart ((same x hx).trans (same y hy).symm)
    · intro together x hx
      by_contra apart
      exact together ⟨x, hx, first, hfirst, apart⟩

/-- Members inside `Code` meet members at the top under two names, in either order. -/
def packageRequest : Request where
  model :=
    { shapes :=
        [{ name := "CreateInput", members := [⟨"CodeSha", .string, false⟩,
            ⟨"Code", .shape 1, true⟩] },
          { name := "CodeChoice", members := [⟨"Uri", .string, false⟩, ⟨"Zip", .string, false⟩] },
          { name := "GetOutput", members := [⟨"CodeUri", .string, false⟩,
            ⟨"Code", .shape 3, false⟩] },
          { name := "CodeState", members := [⟨"Sha", .string, false⟩,
            ⟨"Size", .primitive .long, false⟩] }]
      operations :=
        [{ name := "CreatePackage", input := some 0, kind := .create },
          { name := "GetPackage", output := some 2, kind := .readOne }] }
  resource := "Package"
  directives := { fields := [("CodeSize", { redirect := some ⟨"GetPackage", "Code.Size"⟩ })] }

theorem resolve_packageRequest :
    ∃ s, packageRequest.resolve = .ok s ∧
      (s.fields.map fun f => (f.name, f.sourcePath)) =
        [("CodeSha", none), ("CodeUri", some "Code.Uri"), ("CodeZip", some "Code.Zip"),
          ("CodeSize", some "Code.Size")] := by
  have accepted : packageRequest.findings.errors = [] := by cbv
  have told : (packageRequest.findings.fields.map fun f => (f.name, f.sourcePath)) =
      [("CodeSha", none), ("CodeUri", some "Code.Uri"), ("CodeZip", some "Code.Zip"),
        ("CodeSize", some "Code.Size")] := by cbv
  obtain ⟨s, hs⟩ := packageRequest.resolve_isOk_iff.2 accepted
  exact ⟨s, hs, fields_eq_findings hs ▸ told⟩

theorem sourcePath_of_resolve_packageRequest :
    ∃ s, packageRequest.resolve = .ok s ∧
      (s.fields.map fun f => (f.name, f.sourcePath)) =
        [("CodeSha", none), ("CodeUri", some "Code.Uri"), ("CodeZip", some "Code.Zip"),
          ("CodeSize", some "Code.Size")] ∧
      ∀ f ∈ s.fields, (packageRequest.overrides.get f.name).redirect = none →
        ∀ first rest, packageRequest.roster.occurrences f.name = first :: rest →
          (f.sourcePath = none ↔ packageRequest.model.TopLevel f.name first) ∧
          (∀ path, f.sourcePath = some path ↔ first.path = path ∧
            packageRequest.model.StandsInside packageRequest.overrides f.name path) ∧
          (packageRequest.SourceOfAll f ↔
            ¬ packageRequest.model.Merged packageRequest.overrides f.name) := by
  obtain ⟨s, hs, told⟩ := resolve_packageRequest
  exact ⟨s, hs, told, sourcePath_of_resolve packageRequest s hs⟩

/-- A source path may fail some occurrence of its field, be it that of none or that of a path. -/
theorem sourcePath_partial_of_merged :
    ∃ s, packageRequest.resolve = .ok s ∧
      (∃ f ∈ s.fields, (packageRequest.overrides.get f.name).redirect = none ∧
        f.sourcePath = none ∧
          ∃ x ∈ packageRequest.roster.occurrences f.name, x.path ≠ f.name) ∧
      ∃ f ∈ s.fields, (packageRequest.overrides.get f.name).redirect = none ∧
        ∃ path, f.sourcePath = some path ∧
          ∃ x ∈ packageRequest.roster.occurrences f.name, x.path ≠ path := by
  obtain ⟨s, hs, told⟩ := resolve_packageRequest
  have known : ("CodeSha", none) ∈ s.fields.map (fun f => (f.name, f.sourcePath)) ∧
      ("CodeUri", some "Code.Uri") ∈ s.fields.map (fun f => (f.name, f.sourcePath)) := by
    rw [told]
    decide
  have lower : (packageRequest.roster.occurrences "CodeSha").any (·.path != "CodeSha") = true := by
    cbv
  have upper : (packageRequest.roster.occurrences "CodeUri").any (·.path != "Code.Uri") = true := by
    cbv
  refine ⟨s, hs, ?_, ?_⟩
  · obtain ⟨f, hf, e⟩ := List.mem_map.1 known.1
    obtain ⟨name, source⟩ := Prod.mk.inj e
    obtain ⟨x, hx, apart⟩ := List.any_eq_true.1 lower
    rw [← name] at hx apart
    exact ⟨f, hf, name ▸ rfl, source, x, hx, bne_iff_ne.1 apart⟩
  · obtain ⟨f, hf, e⟩ := List.mem_map.1 known.2
    obtain ⟨name, source⟩ := Prod.mk.inj e
    obtain ⟨x, hx, apart⟩ := List.any_eq_true.1 upper
    rw [← name] at hx
    exact ⟨f, hf, name ▸ rfl, "Code.Uri", source, x, hx, bne_iff_ne.1 apart⟩

end Request

end FieldResolution
