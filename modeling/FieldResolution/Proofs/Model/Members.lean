import FieldResolution.Proofs.Model.Acceptance
import FieldResolution.Proofs.Model.Extension
import Mathlib.Data.List.Forall2

/-!
# The members of a shape under their names

A definition writes the names of its members in order, and a shape that was read lists its members
under just these names (`Defines.memberNames_eq`).  The keys of a mapping are distinct, but a list
may write a name twice.  A look-up then finds the first member of that name (`member?_eq_some_iff`),
so it finds every member that is listed exactly if no two different ones share a name
(`member?_finds_all_iff`).  `members_of_ofDocument` puts this together for the shapes of a document.
-/

namespace FieldResolution

open Document (presentAt?)

/-! ## Looking up a member -/

namespace Shape

/-- The member is listed before every other one of its name. -/
def Leads (s : Shape) (x : Member) : Prop :=
  ∃ before after, s.members = before ++ x :: after ∧ ∀ y ∈ before, y.name ≠ x.name

variable {s : Shape} {x : Member}

theorem member?_eq_some_iff {name : String} :
    s.member? name = some x ↔ x.name = name ∧ s.Leads x := by
  unfold member? Leads
  rw [List.find?_eq_some_iff_append]
  simp only [beq_iff_eq, Bool.not_eq_true', beq_eq_false_iff_ne]
  constructor
  · rintro ⟨rfl, leads⟩
    exact ⟨rfl, leads⟩
  · rintro ⟨rfl, leads⟩
    exact ⟨rfl, leads⟩

theorem exists_member?_eq_some_iff : (∃ name, s.member? name = some x) ↔ s.Leads x := by
  simp only [member?_eq_some_iff, exists_eq_left']

theorem member?_isSome_iff {name : String} :
    (s.member? name).isSome = true ↔ name ∈ s.members.map Member.name := by
  unfold member?
  simp only [List.find?_isSome, beq_iff_eq, List.mem_map]

/-- A look-up finds every member that is listed exactly if a name tells which member it is. -/
theorem member?_finds_all_iff :
    (∀ x ∈ s.members, s.member? x.name = some x) ↔
      ∀ x ∈ s.members, ∀ y ∈ s.members, x.name = y.name → x = y := by
  constructor
  · intro finds x hx y hy same
    exact Option.some.inj ((finds x hx).symm.trans (same ▸ finds y hy))
  · intro tells x hx
    obtain ⟨y, found⟩ := Option.isSome_iff_exists.1
      (member?_isSome_iff.2 (List.mem_map_of_mem hx))
    have named : y.name = x.name := (member?_eq_some_iff.1 found).1
    rw [found, tells y (List.mem_of_find?_eq_some found) x hx named]

end Shape

/-! ## Names as they are written -/

/-- A key is the same as itself. -/
theorem Scalar.sameKey_self (a : Scalar) : a.sameKey a = true := by
  unfold sameKey
  cases a.integral? with
  | none => exact beq_self_eq_true a
  | some n => exact beq_self_eq_true n

namespace Document

/-- No key of a mapping is the same as a later one. -/
def Keyed (entries : List (Scalar × Document)) : Prop :=
  entries.Pairwise fun e e' => e.1.sameKey e'.1 = false

/-- The names that are written for members, in order: the keys of a mapping, or what each item of a
list has under `name`. -/
def namesOfMembers : Document → List (Option Document)
  | .mapping entries => entries.map fun e => some (.scalar e.1)
  | .list items => items.map name?
  | .scalar _ => []

/-- What a definition has under `members`, if that is not left out. -/
def members? : Document → Option Document
  | .mapping definition => presentAt? definition "members"
  | _ => none

/-- The names of members that a definition writes. -/
def memberNames (definition : Document) : List (Option Document) :=
  (definition.members?.map namesOfMembers).getD []

end Document

open Document (Keyed)

section Names

variable {names : List String} {d : Document} {members : List Member}

theorem DeclareMembers.namesOfMembers_eq (h : DeclareMembers names d members) :
    d.namesOfMembers = members.map fun x => some (.text x.name) := by
  cases h with
  | entries each =>
    exact map_eq_of_forall₂ (fun e x declares => congrArg (some ∘ Document.scalar) declares.1) each
  | items each =>
    refine map_eq_of_forall₂ (fun d x declares => ?_) each
    obtain ⟨entries, rfl, named, -⟩ := declares
    exact named

theorem Defines.memberNames_eq (h : Defines names d members) :
    d.memberNames = members.map fun x => some (.text x.name) := by
  unfold Document.memberNames Document.members?
  cases h with
  | absent left =>
    cases d with
    | scalar _ => rfl
    | list _ => rfl
    | mapping entries =>
      cases entries with
      | nil => rfl
      | cons _ _ => cases left
  | bare left => simp only [left, Option.map_none, Option.getD_none, List.map_nil]
  | full found each =>
    simp only [found, Option.map_some, Option.getD_some]
    exact each.namesOfMembers_eq

/-- No name is written twice exactly if no two places of the list have one name. -/
theorem Defines.nodup_memberNames_iff (h : Defines names d members) :
    d.memberNames.Nodup ↔ (members.map Member.name).Nodup := by
  have same : d.memberNames = (members.map Member.name).map fun name => some (.text name) := by
    rw [h.memberNames_eq, List.map_map]
    rfl
  rw [same, Document.nodup_map_text_iff]

/-- A mapping gives every member a name of its own. -/
theorem Defines.nodup_of_keyed {entries : List (Scalar × Document)} (h : Defines names d members)
    (mapped : d.members? = some (.mapping entries)) (keyed : Keyed entries) :
    (members.map Member.name).Nodup := by
  refine h.nodup_memberNames_iff.1 ?_
  have written : d.memberNames = entries.map fun e => some (.scalar e.1) := by
    rw [Document.memberNames, mapped]
    rfl
  rw [written]
  refine List.pairwise_map.2 (keyed.imp fun apart same => ?_)
  rw [Document.scalar.inj (Option.some.inj same), Scalar.sameKey_self] at apart
  cases apart

end Names

/-! ## The shapes of a document -/

/-- The definition that a document has under the name of a shape. -/
def Document.DefinesShape (d : Document) (name : String) (definition : Document) : Prop :=
  ∃ entries definitions, d = .mapping entries ∧ ShapesAt entries definitions ∧
    (.text name, definition) ∈ definitions

/-- Every shape of a model that was read is declared by the definition under its name. -/
theorem exists_defines_of_mem_shapes {d : Document} {m : Model} (h : Model.ofDocument d = .ok m)
    {s : Shape} (hs : s ∈ m.shapes) :
    ∃ definition, d.DefinesShape s.name definition ∧ Defines m.shapeNames definition s.members := by
  obtain ⟨entries, definitions, _, rfl, under, -, each, -⟩ := Model.ofDocument_eq_ok_iff.1 h
  have placed : List.Forall₂ (fun e s => e ∈ definitions ∧ ShapeDeclared m.shapeNames e s)
      definitions m.shapes := (List.forall₂_and_left _ _).2 ⟨fun _ he => he, each⟩
  have declared : ∀ s ∈ m.shapes, ∃ e ∈ definitions, ShapeDeclared m.shapeNames e s :=
    forall_of_forall₂ (fun e _ declared => ⟨e, declared⟩) placed
  obtain ⟨⟨key, definition⟩, he, rfl, defined⟩ := declared s hs
  exact ⟨definition, ⟨entries, definitions, rfl, under, he⟩, defined⟩

/-- The members of a shape that was read stand in the order of its definition, under the names
that are written there, and a look-up finds one exactly under these names.  The names are distinct
exactly if none is written twice, as in every mapping; a list that writes one twice is read all the
same.  A look-up finds the first member of a name, so it finds every member that is listed exactly
if no two different ones share a name. -/
theorem members_of_ofDocument {d : Document} {m : Model} (h : Model.ofDocument d = .ok m)
    {s : Shape} (hs : s ∈ m.shapes) :
    ∃ definition, d.DefinesShape s.name definition ∧
      definition.memberNames = s.members.map (fun x => some (.text x.name)) ∧
      ((s.members.map Member.name).Nodup ↔ definition.memberNames.Nodup) ∧
      (∀ entries, definition.members? = some (.mapping entries) → Keyed entries →
        (s.members.map Member.name).Nodup) ∧
      (∀ name, (s.member? name).isSome = true ↔ name ∈ s.members.map Member.name) ∧
      (∀ x, (∃ name, s.member? name = some x) ↔ s.Leads x) ∧
      ((∀ x ∈ s.members, s.member? x.name = some x) ↔
        ∀ x ∈ s.members, ∀ y ∈ s.members, x.name = y.name → x = y) := by
  obtain ⟨definition, there, defined⟩ := exists_defines_of_mem_shapes h hs
  exact ⟨definition, there, defined.memberNames_eq, defined.nodup_memberNames_iff.symm,
    fun entries mapped keyed => defined.nodup_of_keyed mapped keyed,
    fun _ => Shape.member?_isSome_iff, fun _ => Shape.exists_member?_eq_some_iff,
    Shape.member?_finds_all_iff⟩

/-- An alias whose list of members names its key twice, and its target, with a mapping. -/
def aliasDocument : Document :=
  .record
    [("shapes", .record
      [("Alias", .record
        [("members", .list
          [.record [("name", .text "Key"), ("type", .text "string")],
            .record [("name", .text "Key"), ("type", .text "integer")]])]),
        ("Target", .record [("members", .record [("Key", .text "string")])])]),
      ("operations", .list
        [.record [("name", .text "CreateAlias"), ("input", .text "Alias"),
          ("output", .text "Target")]])]

def aliasShape : Shape :=
  { name := "Alias"
    members := [⟨"Key", .string, false⟩, ⟨"Key", .primitive .integer, false⟩] }

def aliasTarget : Shape := { name := "Target", members := [⟨"Key", .string, false⟩] }

def aliasModel : Model :=
  { shapes := [aliasShape, aliasTarget]
    operations := [{ name := "CreateAlias", input := some 0, output := some 1, kind := .create }] }

theorem members_of_ofDocument_aliasShape :
    Model.ofDocument aliasDocument = .ok aliasModel ∧ aliasShape ∈ aliasModel.shapes ∧
      ∃ definition, aliasDocument.DefinesShape "Alias" definition ∧
        definition.memberNames = [some (.text "Key"), some (.text "Key")] ∧
        ((aliasShape.members.map Member.name).Nodup ↔ definition.memberNames.Nodup) ∧
        ∀ x, (∃ name, aliasShape.member? name = some x) ↔ aliasShape.Leads x := by
  have read : Model.ofDocument aliasDocument = .ok aliasModel := by cbv
  have there : aliasShape ∈ aliasModel.shapes := List.mem_cons_self
  obtain ⟨definition, defines, written, distinct, -, -, leads, -⟩ :=
    members_of_ofDocument read there
  exact ⟨read, there, definition, defines, written, distinct, leads⟩

/-- A list that writes a name twice is read, and a look-up of that name misses its second member. -/
theorem member?_ne_of_aliasShape :
    Model.ofDocument aliasDocument = .ok aliasModel ∧ aliasShape ∈ aliasModel.shapes ∧
      ¬(aliasShape.members.map Member.name).Nodup ∧
      ∃ x ∈ aliasShape.members, aliasShape.member? x.name ≠ some x :=
  ⟨by cbv, List.mem_cons_self, by decide, ⟨"Key", .primitive .integer, false⟩, by decide,
    by decide⟩

end FieldResolution
