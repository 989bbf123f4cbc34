import FieldResolution.Proofs.Model.Loaded
import Mathlib

/-!
# Model documents

`IsModelDocument` says what a model document is, part by part and without a word of the model it
declares.  Each part has one lemma: it declares something if and only if it has its form.  Together
they give `ofDocument_accepts_iff`: the documents that are read are the model documents, and what
is read stands in the order of the document, with every name of a shape read as the position where
that shape is declared.
-/

namespace FieldResolution

open Document (lookup presentAt?)

/-! ## Lists -/

section Lists

variable {α β γ : Type}

theorem exists_forall₂_iff {R : α → β → Prop} {l : List α} :
    (∃ bs, List.Forall₂ R l bs) ↔ ∀ a ∈ l, ∃ b, R a b := by
  induction l with
  | nil => exact ⟨fun _ _ ha => absurd ha List.not_mem_nil, fun _ => ⟨[], .nil⟩⟩
  | cons a rest ih =>
    rw [List.forall_mem_cons, ← ih]
    constructor
    · rintro ⟨_, _ | ⟨first, others⟩⟩
      exact ⟨⟨_, first⟩, _, others⟩
    · rintro ⟨⟨b, first⟩, bs, others⟩
      exact ⟨b :: bs, .cons first others⟩

theorem map_eq_of_forall₂ {R : α → β → Prop} {f : α → γ} {g : β → γ} (h : ∀ a b, R a b → f a = g b)
    {l : List α} {bs : List β} (each : List.Forall₂ R l bs) : l.map f = bs.map g := by
  rw [← List.forall₂_eq_eq_eq, List.forall₂_map_left_iff, List.forall₂_map_right_iff]
  exact each.imp h

end Lists

/-! ## The parts of a document -/

/-- What a mapping has under `name`. -/
def Document.name? : Document → Option Document
  | .mapping entries => lookup entries "name"
  | _ => none

/-- Names stay as distinct as they are when they are written. -/
theorem Document.nodup_map_text_iff {names : List String} :
    (names.map fun name => some (Document.text name)).Nodup ↔ names.Nodup :=
  List.nodup_map_iff fun a b h => by simpa using h

section Parts

variable (names : List String)

/-- A text that spells a type over the names of the shapes. -/
def IsTypeText (d : Document) : Prop :=
  ∃ spelling t, d = .text spelling ∧ Spells names spelling.toList t

/-- An entry from a name to a spelling. -/
def IsMemberEntry (e : Scalar × Document) : Prop :=
  (∃ name, e.1 = .text name) ∧ IsTypeText names e.2

/-- A mapping with a name and a spelling. -/
def IsMemberItem (d : Document) : Prop :=
  ∃ entries, d = .mapping entries ∧ (∃ name, lookup entries "name" = some (.text name)) ∧
    ∃ type, lookup entries "type" = some type ∧ IsTypeText names type

/-- A mapping from names to spellings, or a list of mappings that each have both. -/
def AreMembers (d : Document) : Prop :=
  (∃ entries, d = .mapping entries ∧ ∀ e ∈ entries, IsMemberEntry names e) ∨
    ∃ items, d = .list items ∧ ∀ item ∈ items, IsMemberItem names item

/-- Nothing, or a mapping in which `members` is left out or holds members. -/
def IsDefinition (d : Document) : Prop :=
  d.present? = none ∨ ∃ entries, d = .mapping entries ∧
    ∀ members, presentAt? entries "members" = some members → AreMembers names members

/-- An entry from a name to a definition. -/
def IsShapeEntry (e : Scalar × Document) : Prop :=
  (∃ name, e.1 = .text name) ∧ IsDefinition names e.2

/-- Nothing, null, or the name of a shape. -/
def IsReference (reference : Option Document) : Prop :=
  ∀ d, reference = some d → d = .null ∨ ∃ name ∈ names, d = .text name

/-- A mapping with a name that is not empty, in which `type` is left out or holds the name of a
kind, and `input` and `output` are references. -/
def IsOperationItem (d : Document) : Prop :=
  ∃ entries, d = .mapping entries ∧
    (∃ name, name ≠ "" ∧ lookup entries "name" = some (.text name)) ∧
    (∀ type, presentAt? entries "type" = some type → ∃ k ∈ OperationKind.all, type = .text k.name) ∧
    IsReference names (lookup entries "input") ∧ IsReference names (lookup entries "output")

end Parts

/-- A mapping in which `shapes` is left out or maps names to definitions, and `operations` is left
out or lists operations whose names are distinct.  That no name of a shape stands twice is said here
too: a mapping that is put together from entries has every key once, but `Document.mapping` as such
does not ask for it. -/
def IsModelDocument (d : Document) : Prop :=
  ∃ entries definitions items, d = .mapping entries ∧
    ShapesAt entries definitions ∧ OperationsAt entries items ∧
    (∀ e ∈ definitions, IsShapeEntry (textKeys definitions) e) ∧ (textKeys definitions).Nodup ∧
    (∀ item ∈ items, IsOperationItem (textKeys definitions) item) ∧ (items.map Document.name?).Nodup

/-! ## A part of the right form declares something -/

section Forms

variable {names : List String}

theorem exists_typeText_iff {d : Document} : (∃ t, TypeText names d t) ↔ IsTypeText names d := by
  constructor
  · rintro ⟨t, spelling, rfl, spelled⟩
    exact ⟨spelling, t, rfl, spelled⟩
  · rintro ⟨spelling, t, rfl, spelled⟩
    exact ⟨t, spelling, rfl, spelled⟩

theorem exists_entryDeclares_iff {e : Scalar × Document} :
    (∃ x, EntryDeclares names e x) ↔ IsMemberEntry names e := by
  constructor
  · rintro ⟨x, named, typed, -⟩
    exact ⟨⟨x.name, named⟩, exists_typeText_iff.1 ⟨x.type, typed⟩⟩
  · rintro ⟨⟨name, named⟩, typed⟩
    obtain ⟨type, typed⟩ := exists_typeText_iff.2 typed
    exact ⟨{ name, type }, named, typed, rfl⟩

theorem exists_itemDeclares_iff {d : Document} :
    (∃ x, ItemDeclares names d x) ↔ IsMemberItem names d := by
  constructor
  · rintro ⟨x, entries, rfl, named, ⟨type, found, typed⟩, -⟩
    exact ⟨entries, rfl, ⟨x.name, named⟩, type, found, exists_typeText_iff.1 ⟨x.type, typed⟩⟩
  · rintro ⟨entries, rfl, ⟨name, named⟩, d, found, typed⟩
    obtain ⟨type, typed⟩ := exists_typeText_iff.2 typed
    exact ⟨{ name, type, required := (presentAt? entries "required").isSome }, entries, rfl, named,
      ⟨d, found, typed⟩, rfl⟩

theorem exists_declareMembers_iff {d : Document} :
    (∃ members, DeclareMembers names d members) ↔ AreMembers names d := by
  have entriesIff {entries : List (Scalar × Document)} :
      (∃ members, List.Forall₂ (EntryDeclares names) entries members) ↔
        ∀ e ∈ entries, IsMemberEntry names e := by
    simp only [exists_forall₂_iff, exists_entryDeclares_iff]
  have itemsIff {items : List Document} :
      (∃ members, List.Forall₂ (ItemDeclares names) items members) ↔
        ∀ item ∈ items, IsMemberItem names item := by
    simp only [exists_forall₂_iff, exists_itemDeclares_iff]
  constructor
  · rintro ⟨members, each | each⟩
    · exact .inl ⟨_, rfl, entriesIff.1 ⟨members, each⟩⟩
    · exact .inr ⟨_, rfl, itemsIff.1 ⟨members, each⟩⟩
  · rintro (⟨entries, rfl, each⟩ | ⟨items, rfl, each⟩)
    · obtain ⟨members, each⟩ := entriesIff.2 each
      exact ⟨members, .entries each⟩
    · obtain ⟨members, each⟩ := itemsIff.2 each
      exact ⟨members, .items each⟩

theorem exists_defines_iff {d : Document} :
    (∃ members, Defines names d members) ↔ IsDefinition names d := by
  constructor
  · rintro ⟨members, left | left | ⟨found, each⟩⟩
    · exact .inl left
    · exact .inr ⟨_, rfl, fun d found => absurd (left.symm.trans found) nofun⟩
    · refine .inr ⟨_, rfl, fun d found' => ?_⟩
      rw [← Option.some.inj (found.symm.trans found')]
      exact exists_declareMembers_iff.1 ⟨members, each⟩
  · rintro (left | ⟨entries, rfl, form⟩)
    · exact ⟨[], .absent left⟩
    · cases found : presentAt? entries "members" with
      | none => exact ⟨[], .bare found⟩
      | some d =>
        obtain ⟨members, each⟩ := exists_declareMembers_iff.2 (form d found)
        exact ⟨members, .full found each⟩

theorem exists_shapeDeclared_iff {e : Scalar × Document} :
    (∃ s, ShapeDeclared names e s) ↔ IsShapeEntry names e := by
  constructor
  · rintro ⟨s, named, defined⟩
    exact ⟨⟨s.name, named⟩, exists_defines_iff.1 ⟨s.members, defined⟩⟩
  · rintro ⟨⟨name, named⟩, defined⟩
    obtain ⟨members, defined⟩ := exists_defines_iff.2 defined
    exact ⟨{ name, members }, named, defined⟩

theorem exists_refers_iff {reference : Option Document} :
    (∃ i, Refers names reference i) ↔ IsReference names reference := by
  constructor
  · rintro ⟨_, _ | _ | found⟩
    · exact nofun
    · exact fun d hd => .inl (Option.some.inj hd).symm
    · exact fun d hd =>
        .inr ⟨_, List.mem_of_getElem? (getElem?_of_lastIndex? found), (Option.some.inj hd).symm⟩
  · intro form
    cases reference with
    | none => exact ⟨none, .absent⟩
    | some d =>
      obtain rfl | ⟨name, known, rfl⟩ := form d rfl
      · exact ⟨none, .null⟩
      · cases found : lastIndex? names name with
        | none => exact absurd known (lastIndex?_eq_none_iff.1 found)
        | some i => exact ⟨some i, .name found⟩

theorem exists_tellsKind_iff {operation : String} {kind : Option Document} :
    (∃ k, TellsKind operation kind k) ↔
      ∀ type, kind = some type → ∃ k ∈ OperationKind.all, type = .text k.name := by
  have known (k : OperationKind) : k ∈ OperationKind.all := by cases k <;> decide
  cases kind with
  | none => simp [TellsKind]
  | some d => simp [TellsKind, known]

theorem exists_operationDeclared_iff {d : Document} :
    (∃ o, OperationDeclared names d o) ↔ IsOperationItem names d := by
  constructor
  · rintro ⟨o, entries, rfl, named, filled, tells, refersIn, refersOut⟩
    exact ⟨entries, rfl, ⟨o.name, filled, named⟩, exists_tellsKind_iff.1 ⟨o.kind, tells⟩,
      exists_refers_iff.1 ⟨o.input, refersIn⟩, exists_refers_iff.1 ⟨o.output, refersOut⟩⟩
  · rintro ⟨entries, rfl, ⟨name, filled, named⟩, tells, refersIn, refersOut⟩
    obtain ⟨kind, tells⟩ := exists_tellsKind_iff.2 tells
    obtain ⟨input, refersIn⟩ := exists_refers_iff.2 refersIn
    obtain ⟨output, refersOut⟩ := exists_refers_iff.2 refersOut
    exact ⟨{ name, input, output, kind }, entries, rfl, named, filled, tells, refersIn, refersOut⟩

theorem OperationDeclared.name? {d : Document} {o : Operation} (h : OperationDeclared names d o) :
    d.name? = some (.text o.name) := by
  obtain ⟨entries, rfl, named, -⟩ := h
  exact named

end Forms

/-! ## Whole documents -/

theorem textKeys_of_declared {names : List String} {definitions : List (Scalar × Document)}
    {shapes : List Shape} (each : List.Forall₂ (ShapeDeclared names) definitions shapes) :
    textKeys definitions = shapes.map Shape.name :=
  Model.textKeys_of_readAll ((readAll_congr fun _ _ => Shape.ofEntry_eq_ok_iff).2 each)

theorem nodup_name?_iff {names : List String} {items : List Document} {os : List Operation}
    (each : List.Forall₂ (OperationDeclared names) items os) :
    (items.map Document.name?).Nodup ↔ (os.map Operation.name).Nodup := by
  have same : items.map Document.name? =
      (os.map Operation.name).map fun name => some (.text name) := by
    rw [List.map_map]
    exact map_eq_of_forall₂ (fun _ _ h => OperationDeclared.name? h) each
  rw [same, Document.nodup_map_text_iff]

/-- A document declares a model if and only if it is a model document. -/
theorem exists_declares_iff {d : Document} : (∃ m, Declares d m) ↔ IsModelDocument d := by
  constructor
  · rintro ⟨m, entries, definitions, items, rfl, hShapes, hOperations, shapes, operations, once,
      distinct⟩
    have keys : textKeys definitions = m.shapeNames := textKeys_of_declared shapes
    refine ⟨entries, definitions, items, rfl, hShapes, hOperations, ?_⟩
    rw [keys]
    refine ⟨fun e he => ?_, once, fun item hItem => ?_, (nodup_name?_iff operations).2 distinct⟩
    · exact exists_shapeDeclared_iff.1 (exists_forall₂_iff.1 ⟨_, shapes⟩ e he)
    · exact exists_operationDeclared_iff.1 (exists_forall₂_iff.1 ⟨_, operations⟩ item hItem)
  · rintro ⟨entries, definitions, items, rfl, hShapes, hOperations, shapes, once, operations,
      distinct⟩
    obtain ⟨ss, shapes⟩ := exists_forall₂_iff.2 fun e he => exists_shapeDeclared_iff.2 (shapes e he)
    obtain ⟨os, operations⟩ := exists_forall₂_iff.2 fun item hItem =>
      exists_operationDeclared_iff.2 (operations item hItem)
    rw [nodup_name?_iff operations] at distinct
    -- the shapes that were found bear the names over which they were found
    rw [textKeys_of_declared shapes] at shapes operations once
    exact ⟨{ shapes := ss, operations := os }, entries, definitions, items, rfl, hShapes,
      hOperations, shapes, operations, once, distinct⟩

/-- The documents that are read are the model documents.  A document is read as what it declares,
in its order, and a shape is found at its own position wherever its name stands. -/
theorem ofDocument_accepts_iff (d : Document) :
    ((∃ m, Model.ofDocument d = .ok m) ↔ IsModelDocument d) ∧
      ∀ m, Model.ofDocument d = .ok m →
        Declares d m ∧ ∀ i s, m.shapes[i]? = some s → m.positionOf? s.name = some i := by
  refine ⟨?_, fun m h => ⟨Model.ofDocument_eq_ok_iff.1 h, fun i s => Model.positionOf?_name h⟩⟩
  simp only [Model.ofDocument_eq_ok_iff, exists_declares_iff]

/-- A parcel of items that are declared after it, in both forms of members, and parts that count as
left out. -/
def parcelDocument : Document :=
  .record
    [("shapes", .record
      [("Parcel", .record
        [("members", .list
          [.record [("name", .text "Items"), ("type", .text " list< Item >"),
              ("required", .bool true)],
            .record [("name", .text "Label"), ("type", .text "map<string>")]])]),
        ("Item", .record [("members", .record [("Code", .text "long")])]),
        ("Nothing", .null)]),
      ("operations", .list
        [.record [("name", .text "CreateParcel"), ("type", .text ""), ("input", .text "Parcel"),
            ("output", .null)],
          .record [("name", .text "Track"), ("type", .text "ReadOne"),
            ("output", .text "Parcel")]])]

def parcel : Model :=
  { shapes :=
      [{ name := "Parcel"
         members :=
          [{ name := "Items", type := .container .list (.shape 1), required := true },
            { name := "Label", type := .container .map .string }] },
        { name := "Item", members := [{ name := "Code", type := .primitive .long }] },
        { name := "Nothing" }]
    operations :=
      [{ name := "CreateParcel", input := some 0, kind := .create },
        { name := "Track", output := some 0, kind := .readOne }] }

theorem ofDocument_accepts_iff_parcel :
    IsModelDocument parcelDocument ∧ Declares parcelDocument parcel ∧
      parcel.positionOf? "Item" = some 1 := by
  have read : Model.ofDocument parcelDocument = .ok parcel := by cbv
  obtain ⟨accepts, declared⟩ := ofDocument_accepts_iff parcelDocument
  obtain ⟨declares, positions⟩ := declared parcel read
  exact ⟨accepts.1 ⟨parcel, read⟩, declares, positions 1 _ rfl⟩

end FieldResolution
