import FieldResolution.Proofs.Field.Contribution
import FieldResolution.Proofs.Model.Extension
import FieldResolution.Proofs.Model.Loaded
import FieldResolution.Proofs.Model.Passage
import Mathlib

/-!
# The way back from an occurrence

An occurrence tells the path under which its member stands.  If no member name holds a dot and no
shape has two members of one name, the path leads from the shape of the occurrence back to that very
member, and crosses no container on the way (`passageFrom_of_contributes`).  In a model that was
read the operation is found by its name too, so the path can be looked up like that of a redirect
(`retraces_of_mem_occurrences`).
-/

namespace FieldResolution

/-- The members of a shape can be told apart by their names, and paths can be cut at their dots. -/
structure Shape.PlainlyNamed (s : Shape) : Prop where
  distinct : (s.members.map Member.name).Nodup
  undotted : ∀ x ∈ s.members, '.' ∉ x.name.toList

theorem Shape.PlainlyNamed.member?_eq {s : Shape} (plain : s.PlainlyNamed) {x : Member}
    (hx : x ∈ s.members) : s.member? x.name = some x :=
  find?_key_of_mem plain.distinct hx

/-- The member that an occurrence records. -/
def Occurrence.recorded (x : Occurrence) : Member := ⟨x.member, x.type, x.required⟩

namespace Model

/-- The path of an occurrence leads from the shape on its side of its operation to the member that
it records, across no container.  A look-up of the path in the operation succeeds, and for an
occurrence of the output it finds that member there. -/
def Retraces (m : Model) (x : Occurrence) : Prop :=
  ∃ o s, m.operation? x.operation = some o ∧ m.operationShape? o x.role = some s ∧
    m.Passage s (Text.segments x.path) [] x.recorded ∧
    m.follow s (Text.segments x.path) = some x.recorded ∧
    ∃ found, m.locate o (Text.segments x.path) = some found ∧
      (x.role = .output → found = (.output, x.recorded))

variable {m : Model} {overrides : Overrides}

/-! ## Passages -/

/-- The path of a contributor leads back to it. -/
theorem passageFrom_of_contributes (plain : ∀ s ∈ m.shapes, s.PlainlyNamed) {o : Operation}
    {r : Role} {name path : String} {x : Member} (h : m.Contributes overrides o r name path x) :
    m.PassageFrom o r (Text.segments path) [] x := by
  cases h with
  | @whole s _ side mem =>
    have named := plain s (mem_shapes_of_operationShape? side)
    rw [Text.segments_of_not_mem (named.undotted x mem)]
    exact ⟨s, side, .last (named.member?_eq mem)⟩
  | @part s p _ i side mem _ type inside =>
    obtain ⟨inner, there, hx⟩ := exists_shape_of_mem_membersAt inside
    have outerNamed := plain s (mem_shapes_of_operationShape? side)
    have innerNamed := plain inner (List.mem_of_getElem? there)
    rw [Text.segments_append_dot (outerNamed.undotted p mem),
      Text.segments_of_not_mem (innerNamed.undotted x hx)]
    have onward : m.Passage inner [x.name] [] x := .last (innerNamed.member?_eq hx)
    -- a flattened member holds its shape without a container around it
    have passage : m.Passage s [p.name, x.name] ([] ++ []) x :=
      .through (outerNamed.member?_eq mem) type there onward
    exact ⟨s, side, passage⟩

/-- A path that leads through one side of an operation is found on one. -/
theorem exists_locate_of_passageFrom {o : Operation} {r : Role} {path : List String}
    {crossed : List Container} {x : Member} (h : m.PassageFrom o r path crossed x) :
    ∃ found, m.locate o path = some found := by
  have led : m.followFrom o path r ≠ none := fun blocked =>
    followFrom_eq_none_iff.1 blocked crossed x h
  refine Option.ne_none_iff_exists'.1 fun lost => led ?_
  unfold locate at lost
  rw [Option.or_eq_none_iff] at lost
  cases r with
  | input => exact lost.2
  | output => exact lost.1

/-- A path that leads through the output is found there. -/
theorem locate_of_passageFrom_output {o : Operation} {path : List String} {x : Member}
    (h : m.PassageFrom o .output path [] x) : m.locate o path = some (.output, x) :=
  locate_eq_some_iff.2 ⟨.output, [], x, h, nofun, rfl⟩

/-! ## Occurrences -/

/-- The path of every occurrence leads back to the member that it records. -/
theorem retraces_of_mem_occurrences {d : Document} (h : ofDocument d = .ok m)
    (plain : ∀ s ∈ m.shapes, s.PlainlyNamed) (overrides : Overrides) (name : String) :
    ∀ x ∈ (Roster.ofModel m overrides).occurrences name, m.Retraces x := by
  intro occurrence occurs
  obtain ⟨o, ho, r, path, x, contributes, rfl⟩ := mem_occurrences_iff.1 occurs
  have operation : m.operation? o.name = some o := find?_key_of_mem (nodup_operations h) ho
  obtain ⟨s, side, passage⟩ := passageFrom_of_contributes plain contributes
  have passageFrom : m.PassageFrom o r (Text.segments path) [] x := ⟨s, side, passage⟩
  obtain ⟨found, located⟩ := exists_locate_of_passageFrom passageFrom
  refine ⟨o, s, operation, side, passage, follow_of_passage passage, found, located, ?_⟩
  rintro rfl
  exact Option.some.inj (located.symm.trans (locate_of_passageFrom_output passageFrom))

/-- A record of the input and a record of the output, of one name and with a member of one name but
of two types. -/
def archiveDocument : Document :=
  .record
    [("shapes", .record
      [("CreateInput", .record
        [("members", .record [("Title", .text "string"), ("Vault", .text "VaultChoice")])]),
        ("GetOutput", .record [("members", .record [("Vault", .text "VaultState")])]),
        ("VaultChoice", .record
          [("members", .list
            [.record [("name", .text "Region"), ("type", .text "string"),
              ("required", .bool true)]])]),
        ("VaultState", .record
          [("members", .record [("Region", .text "list<string>"), ("Key", .text "blob")])])]),
      ("operations", .list
        [.record [("name", .text "CreateArchive"), ("input", .text "CreateInput"),
            ("output", .text "GetOutput")],
          .record [("name", .text "GetArchive"), ("output", .text "GetOutput")]])]

def archive : Model :=
  { shapes :=
      [{ name := "CreateInput", members := [⟨"Title", .string, false⟩,
          ⟨"Vault", .shape 2, false⟩] },
        { name := "GetOutput", members := [⟨"Vault", .shape 3, false⟩] },
        { name := "VaultChoice", members := [⟨"Region", .string, true⟩] },
        { name := "VaultState", members := [⟨"Region", .container .list .string, false⟩,
          ⟨"Key", .primitive .blob, false⟩] }]
    operations :=
      [{ name := "CreateArchive", input := some 0, output := some 1, kind := .create },
        { name := "GetArchive", output := some 1, kind := .readOne }] }

def archiveOverrides : Overrides :=
  [("VaultKey", { redirect := some ⟨"GetArchive", "Vault.Key"⟩ })]

theorem retraces_of_mem_occurrences_archive :
    ofDocument archiveDocument = .ok archive ∧ (∀ s ∈ archive.shapes, s.PlainlyNamed) ∧
      ((Roster.ofModel archive archiveOverrides).occurrences "VaultRegion").map
          (fun x => (x.operation, x.role, x.path, x.recorded)) =
        [("CreateArchive", .input, "Vault.Region", ⟨"Region", .string, true⟩),
          ("CreateArchive", .output, "Vault.Region", ⟨"Region", .container .list .string, false⟩),
          ("GetArchive", .output, "Vault.Region", ⟨"Region", .container .list .string, false⟩)] ∧
      ∀ x ∈ (Roster.ofModel archive archiveOverrides).occurrences "VaultRegion",
        archive.Retraces x := by
  have read : ofDocument archiveDocument = .ok archive := by cbv
  have named : ∀ s ∈ archive.shapes, (s.members.map Member.name).Nodup ∧
      ∀ x ∈ s.members, '.' ∉ x.name.toList := by decide
  have plain : ∀ s ∈ archive.shapes, s.PlainlyNamed := fun s hs => ⟨(named s hs).1, (named s hs).2⟩
  exact ⟨read, plain, by cbv, retraces_of_mem_occurrences read plain _ _⟩

end Model

end FieldResolution
