import FieldResolution.Directive.ToDocument
import FieldResolution.Proofs.Model.Loaded
import Mathlib

/-!
# Models written down

`Model.toDocument` writes a model as a document: shapes in order, members as items, operations in
order with the names of their shapes and their kinds.  A model that was read is read again from the
document that is written for it, unless a shape has no name (`ofDocument_toDocument`).
-/

namespace FieldResolution

open Document (lookup presentAt?)

/-! ## Documents of models -/

section Documents

variable (names : List String)

/-- A member as an item with its name, the spelling of its type and whether it is required. -/
def Member.toDocument (x : Member) : Document :=
  .record [("name", .text x.name), ("type", .text (x.type.spell names)),
    ("required", .bool x.required)]

/-- The definition of a shape, its members as items. -/
def Shape.toDefinition (s : Shape) : Document :=
  .record [("members", .list (s.members.map (Member.toDocument names)))]

/-- The name of the shape at a position, or null. -/
def referenceDocument (position : Option Nat) : Document :=
  .ofOption (fun i => .text ((MemberType.shape i).spell names)) position

/-- An operation with its kind and the names of its shapes. -/
def Operation.toDocument (o : Operation) : Document :=
  .record [("name", .text o.name), ("type", .text o.kind.name),
    ("input", referenceDocument names o.input), ("output", referenceDocument names o.output)]

end Documents

/-- The shapes and the operations of a model, in order. -/
def Model.toDocument (m : Model) : Document :=
  .record
    [("shapes", .mapping (m.shapes.map fun s => (.text s.name, s.toDefinition m.shapeNames))),
      ("operations", .list (m.operations.map (Operation.toDocument m.shapeNames)))]

/-! ## What was declared is declared by what is written -/

section Declared

variable {names : List String}

theorem typeText_spell {d : Document} {t : MemberType} (h : TypeText names d t)
    (named : "" ∉ names) : TypeText names (.text (t.spell names)) t := by
  obtain ⟨spelling, -, spelled⟩ := h
  exact ⟨t.spell names, rfl, spelled.spell named⟩

theorem itemDeclares_toDocument {x : Member} (typed : ∃ d, TypeText names d x.type)
    (named : "" ∉ names) : ItemDeclares names (x.toDocument names) x := by
  obtain ⟨d, typed⟩ := typed
  refine ⟨_, rfl, rfl, ⟨_, rfl, typeText_spell typed named⟩, ?_⟩
  obtain ⟨name, type, required⟩ := x
  cases required <;> rfl

theorem Defines.toDefinition {d : Document} {s : Shape} (h : Defines names d s.members)
    (named : "" ∉ names) : Defines names (s.toDefinition names) s.members := by
  have written := h.typed
  obtain ⟨name, members⟩ := s
  cases members with
  | nil => exact .bare rfl
  | cons x rest =>
    refine .full rfl (.items ?_)
    rw [List.forall₂_map_left_iff, List.forall₂_same]
    exact fun y hy => itemDeclares_toDocument (written y hy) named

theorem Refers.referenceDocument {reference : Option Document} {position : Option Nat}
    (h : Refers names reference position) :
    Refers names (some (referenceDocument names position)) position := by
  cases h with
  | absent => exact .null
  | null => exact .null
  | name found =>
    rw [FieldResolution.referenceDocument, Document.ofOption, MemberType.spell_shape found]
    exact .name found

theorem OperationDeclared.toDocument {d : Document} {o : Operation}
    (h : OperationDeclared names d o) : OperationDeclared names (o.toDocument names) o := by
  obtain ⟨_, -, -, filled, -, refersIn, refersOut⟩ := h
  refine ⟨_, rfl, rfl, filled, ?_, refersIn.referenceDocument, refersOut.referenceDocument⟩
  obtain ⟨name, input, output, kind⟩ := o
  cases kind <;> rfl

end Declared

namespace Model

variable {d : Document} {m : Model}

theorem exists_parts_toDocument (m : Model) :
    ∃ entries, m.toDocument = .mapping entries ∧
      ShapesAt entries (m.shapes.map fun s => (.text s.name, s.toDefinition m.shapeNames)) ∧
      OperationsAt entries (m.operations.map (Operation.toDocument m.shapeNames)) := by
  obtain ⟨shapes, operations⟩ := m
  refine ⟨_, rfl, ?_, ?_⟩
  · cases shapes <;> rfl
  · cases operations <;> rfl

theorem declares_toDocument (h : Declares d m) (named : "" ∉ m.shapeNames) :
    Declares m.toDocument m := by
  obtain ⟨_, _, _, -, -, -, shapes, operations, once, distinct⟩ := h
  obtain ⟨entries, written, atShapes, atOperations⟩ := m.exists_parts_toDocument
  refine ⟨entries, _, _, written, atShapes, atOperations, ?_, ?_, once, distinct⟩
  · rw [List.forall₂_map_left_iff, List.forall₂_same]
    exact forall_of_forall₂ (fun _ s defined => ⟨rfl, defined.2.toDefinition named⟩) shapes
  · rw [List.forall₂_map_left_iff, List.forall₂_same]
    exact forall_of_forall₂ (fun _ o declared => declared.toDocument) operations

/-- Writing a model that was read and reading it again changes neither its types nor the model. -/
theorem ofDocument_toDocument (h : ofDocument d = .ok m) (named : "" ∉ m.shapeNames) :
    (∀ s ∈ m.shapes, ∀ x ∈ s.members, MemberType.parse m.shapeNames (m.spell x.type) = .ok x.type) ∧
      ofDocument m.toDocument = .ok m := by
  have declared : Declares d m := ofDocument_eq_ok_iff.1 h
  refine ⟨fun s hs x hx => ?_, ofDocument_eq_ok_iff.2 (declares_toDocument declared named)⟩
  obtain ⟨_, _, -, spelled⟩ := declared.typed s hs x hx
  exact MemberType.parse_eq_ok_iff.2 (spelled.spell named)

end Model

/-- A shape without a name would be lost inside a container. -/
example :
    MemberType.parse [""] "list< >" = .ok (.container .list (.shape 0)) ∧
      MemberType.parse [""] ((MemberType.container .list (.shape 0)).spell [""]) =
        .error "list<>" :=
  ⟨by cbv, by cbv⟩

/-- Two shapes with the signs of containers in their names, one of them on two lines. -/
def bracketsDocument : Document :=
  .record
    [("shapes", .record
      [("Tag>", .record
        [("members", .list
          [.record [("name", .text "Inner"), ("type", .text " map< list< Tag> >>")]])]),
        ("list<\n>", .record [("members", .record [("Next", .text "list<\n> ")])])]),
      ("operations", .list [.record [("name", .text "GetTag"), ("output", .text "Tag>")]])]

def brackets : Model :=
  { shapes :=
      [{ name := "Tag>"
         members := [{ name := "Inner", type := .container .map (.container .list (.shape 0)) }] },
        { name := "list<\n>", members := [{ name := "Next", type := .shape 1 }] }]
    operations := [{ name := "GetTag", output := some 0, kind := .readOne }] }

theorem ofDocument_toDocument_brackets :
    Model.ofDocument bracketsDocument = .ok brackets ∧ "" ∉ brackets.shapeNames ∧
      (∀ s ∈ brackets.shapes, ∀ x ∈ s.members,
        MemberType.parse brackets.shapeNames (brackets.spell x.type) = .ok x.type) ∧
      Model.ofDocument brackets.toDocument = .ok brackets := by
  have read : Model.ofDocument bracketsDocument = .ok brackets := by cbv
  have named : "" ∉ brackets.shapeNames := by decide
  exact ⟨read, named, Model.ofDocument_toDocument read named⟩

end FieldResolution
